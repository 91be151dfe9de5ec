import WebFetch.Request.Basic

/-!
Referrers and the texts that say them. A text says that there is no referrer, or it is read as a
URL, and some URLs stand for the client. What a text says is told apart here by a relation, which is
what reading the text comes to; and if the parser of URLs reads its own URLs back, the text that
shows a referrer says the same.
-/

set_option autoImplicit false

namespace WebFetch

/-- The URLs that stand for the client. Their query and fragment do not count. -/
inductive Url.MeansClient (u : Url) : Prop where
  | path (scheme : u.protocol = "about:") (client : u.pathname = "client")
  | host (scheme : u.protocol = "about:") (client : u.host = "client")
      (bare : u.pathname = "" ∨ u.pathname = "/")

theorem isClientUrl_iff {u : Url} : isClientUrl u = true ↔ u.MeansClient := by
  simp only [isClientUrl, Bool.and_eq_true, Bool.or_eq_true, beq_iff_eq]
  constructor
  · rintro ⟨scheme, client | ⟨client, bare⟩⟩
    · exact .path scheme client
    · exact .host scheme client bare
  · intro h
    cases h with
    | path scheme client => exact ⟨scheme, .inl client⟩
    | host scheme client bare => exact ⟨scheme, .inr ⟨client, bare⟩⟩

/-- There is a colon behind every scheme. -/
theorem Url.href_ne_empty (u : Url) : u.href ≠ "" := by
  intro blank
  have letters := congrArg String.toList blank
  simp [href, trunk] at letters

namespace Referrer

/-- What a text says about where a request comes from, if URLs are read by `read`. -/
inductive Means (read : String → Outcome Url) : String → Referrer → Prop where
  | nothing : Means read "" .noReferrer
  | client {text : String} {u : Url} (given : text ≠ "") (parsed : read text = .ok u)
      (spelled : u.MeansClient) : Means read text .client
  | url {text : String} {u : Url} (given : text ≠ "") (parsed : read text = .ok u)
      (other : ¬ u.MeansClient) : Means read text (.url u.href)

variable {read : String → Outcome Url} {host : Host} {text : String} {x : Referrer}

theorem parse_of_means (means : Means host.parseUrl text x) : parse host text = .ok x := by
  unfold parse
  cases means with
  | nothing => exact if_pos rfl
  | client given parsed spelled =>
    rw [if_neg given, parsed]
    exact congrArg Except.ok (if_pos (isClientUrl_iff.mpr spelled))
  | url given parsed other =>
    rw [if_neg given, parsed]
    exact congrArg Except.ok (if_neg fun there => other (isClientUrl_iff.mp there))

theorem means_of_parse (h : parse host text = .ok x) : Means host.parseUrl text x := by
  unfold parse at h
  by_cases blank : text = ""
  · rw [if_pos blank] at h
    cases h
    rw [blank]
    exact .nothing
  · rw [if_neg blank] at h
    cases parsed : host.parseUrl text with
    | error e =>
      rw [parsed] at h
      cases h
    | ok u =>
      rw [parsed] at h
      have resolved := Except.ok.inj h
      by_cases spelled : u.MeansClient
      · rw [if_pos (isClientUrl_iff.mpr spelled)] at resolved
        rw [← resolved]
        exact .client blank parsed spelled
      · rw [if_neg fun there => spelled (isClientUrl_iff.mp there)] at resolved
        rw [← resolved]
        exact .url blank parsed spelled

/-- What is relied on of a parser: it reads a URL back from its text, and it reads the text of the
    client as one of the client's spellings. -/
structure ReadsBack (read : String → Outcome Url) : Prop where
  href : ∀ text u, read text = .ok u → read u.href = .ok u
  client : ∃ u, read clientText = .ok u ∧ u.protocol = "about:" ∧ u.pathname = "client"

/-- The text that shows a referrer says the same as the text that it was made of. -/
theorem Means.shown (means : Means read text x) (back : ReadsBack read) :
    Means read x.text x := by
  cases means with
  | nothing => exact .nothing
  | client =>
    obtain ⟨u, parsed, scheme, path⟩ := back.client
    exact .client (by decide) parsed (.path scheme path)
  | @url _ u _ parsed other => exact .url u.href_ne_empty (back.href text u parsed) other

theorem Means.text_eq_empty_iff (means : Means read text x) : x.text = "" ↔ x = .noReferrer := by
  cases means with
  | nothing => exact iff_of_true rfl rfl
  | client => exact iff_of_false (by decide) (by decide)
  | @url _ u => exact iff_of_false u.href_ne_empty (by simp)

theorem Means.text_eq_client_iff (means : Means read text x) (back : ReadsBack read) :
    x.text = clientText ↔ x = .client := by
  cases means with
  | nothing => exact iff_of_false (by decide) (by decide)
  | client => exact iff_of_true rfl rfl
  | @url _ u _ parsed other =>
    refine iff_of_false (fun (same : u.href = clientText) => other ?_) (by simp)
    -- A URL with the text of the client would be read back as the client.
    obtain ⟨v, client, scheme, path⟩ := back.client
    have again := back.href text u parsed
    rw [same, client] at again
    cases again
    exact .path scheme path

theorem exists_means (given : text ≠ "") {u : Url} (parsed : read text = .ok u) :
    ∃ y, Means read text y ∧ (y = .client ↔ u.MeansClient) := by
  by_cases spelled : u.MeansClient
  · exact ⟨.client, .client given parsed spelled, iff_of_true rfl spelled⟩
  · exact ⟨.url u.href, .url given parsed spelled, iff_of_false (by simp) spelled⟩

end Referrer

end WebFetch
