import WebFetch.Proofs.Journal
import WebFetch.Request.Basic

/-!
When a request can be made. There are six reasons to refuse one, each a condition on the host's
parser, the input and the fields that are given. The main statement says that a request is made if
none of them holds, and that otherwise the error is that of the first one in their order.
-/

set_option autoImplicit false

namespace WebFetch

/-! ## The steps of resolving the fields -/

namespace RequestFields

variable {host : Host} {url : Url} {source : Option RequestFields} {init : RequestInit}

theorem resolve_of_credentials (h : url.hasCredentials = true) :
    resolve host url source init = .error (.validation (.credentials url.href)) := by
  unfold resolve
  rw [if_pos h]
  rfl

theorem resolve_of_forbidden_body (hc : url.hasCredentials = false)
    (h : (isBodyless (resolveMethod source init) && wouldHaveBody source init) = true) :
    resolve host url source init =
      .error (.validation (.bodyNotAllowed (resolveMethod source init))) := by
  unfold resolve
  rw [if_neg (by simp [hc])]
  dsimp only
  rw [if_pos h]
  rfl

/-- Past the first two checks the three fields that can fail are resolved one after the other. -/
theorem resolve_of_checks (hc : url.hasCredentials = false)
    (hb : (isBodyless (resolveMethod source init) && wouldHaveBody source init) = false) :
    resolve host url source init =
      (resolveBody host source init).bind fun body =>
        (resolveReferrer host source init).bind fun referrer =>
          (resolveReferrerPolicy source init).map fun policy =>
            { method := resolveMethod source init
              body := body
              headers := resolveHeaders source init
              redirect := init.redirect.getD ((source.map RequestFields.redirect).getD .follow)
              signal := init.signal.or (source.bind RequestFields.signal)
              referrer := referrer
              referrerPolicy := policy } := by
  unfold resolve
  rw [if_neg (by simp [hc])]
  dsimp only
  rw [if_neg (by simp [hb])]
  cases resolveBody host source init with
  | error e => rfl
  | ok body =>
    cases resolveReferrer host source init with
    | error e => rfl
    | ok referrer =>
      cases resolveReferrerPolicy source init with
      | error e => rfl
      | ok policy => rfl

/-- Fields that have passed every check, each of them what its own step gives. -/
structure Resolves (host : Host) (url : Url) (source : Option RequestFields) (init : RequestInit)
    (fields : RequestFields) : Prop where
  anonymous : url.hasCredentials = false
  allowed : (isBodyless (resolveMethod source init) && wouldHaveBody source init) = false
  method_eq : fields.method = resolveMethod source init
  body_eq : resolveBody host source init = .ok fields.body
  headers_eq : fields.headers = resolveHeaders source init
  redirect_eq : fields.redirect =
    init.redirect.getD ((source.map RequestFields.redirect).getD .follow)
  signal_eq : fields.signal = init.signal.or (source.bind RequestFields.signal)
  referrer_eq : resolveReferrer host source init = .ok fields.referrer
  policy_eq : resolveReferrerPolicy source init = .ok fields.referrerPolicy

theorem resolves_of_eq_ok {fields : RequestFields}
    (h : resolve host url source init = .ok fields) : Resolves host url source init fields := by
  cases hc : url.hasCredentials with
  | true =>
    rw [resolve_of_credentials hc] at h
    cases h
  | false =>
    cases hb : isBodyless (resolveMethod source init) && wouldHaveBody source init with
    | true =>
      rw [resolve_of_forbidden_body hc hb] at h
      cases h
    | false =>
      rw [resolve_of_checks hc hb] at h
      cases h4 : resolveBody host source init with
      | error e =>
        rw [h4] at h
        cases h
      | ok body =>
        rw [h4] at h
        cases h5 : resolveReferrer host source init with
        | error e =>
          rw [h5] at h
          cases h
        | ok referrer =>
          rw [h5] at h
          cases h6 : resolveReferrerPolicy source init with
          | error e =>
            rw [h6] at h
            cases h
          | ok policy =>
            rw [h6] at h
            cases h
            exact ⟨hc, hb, rfl, h4, rfl, rfl, rfl, h5, h6⟩

/-! ## When each of them fails -/

theorem bodyForbidden_iff :
    (isBodyless (resolveMethod source init) && wouldHaveBody source init) = true ↔
      (resolveMethod source init = "GET" ∨ resolveMethod source init = "HEAD") ∧
        (init.body ≠ none ∨ ∃ fields, source = some fields ∧ fields.body.payload ≠ .empty) := by
  have inherited : (source.any fun fields => !fields.body.isEmpty) = true ↔
      ∃ fields, source = some fields ∧ fields.body.payload ≠ .empty := by
    cases source with
    | none => simp
    | some fields =>
      cases h : fields.body.payload with
      | empty => simp [Body.isEmpty, h]
      | bytes bytes => simp [Body.isEmpty, h]
      | failed cause => simp [Body.isEmpty, h]
  rw [Bool.and_eq_true, isBodyless, Bool.or_eq_true, beq_iff_eq, beq_iff_eq, wouldHaveBody,
    Bool.or_eq_true, inherited, Option.isSome_iff_ne_none]

theorem resolveBody_eq_error_iff {e : FetchError} :
    resolveBody host source init = .error e ↔
      e = .validation .copyOfUsedBody ∧ init.body = none ∧
        ∃ fields, source = some fields ∧ fields.body.used = true := by
  cases hb : init.body with
  | some body => simp [resolveBody, hb]
  | none =>
    cases source with
    | none => simp [resolveBody, hb]
    | some fields =>
      cases hu : fields.body.used with
      | true =>
        simp only [resolveBody, hb, Body.copy, hu, if_true, Except.error.injEq,
          Option.some.injEq, exists_eq_left', and_true]
        exact eq_comm
      | false => simp [resolveBody, hb, Body.copy, hu]

theorem resolveReferrer_eq_error_iff {e : FetchError} :
    resolveReferrer host source init = .error e ↔
      ∃ text cause, init.referrer = some text ∧ text ≠ "" ∧ host.parseUrl text = .error cause ∧
        e = .host cause := by
  cases hr : init.referrer with
  | none => simp [resolveReferrer, hr]
  | some text =>
    by_cases he : text = ""
    · simp [resolveReferrer, hr, Referrer.parse, he, Functor.map, Except.map]
    · cases hp : host.parseUrl text with
      | error cause =>
        simp only [resolveReferrer, hr, Referrer.parse, he, hp, if_false, Functor.map, Except.map,
          Except.error.injEq, Option.some.injEq, ne_eq, not_false_eq_true, true_and,
          exists_eq_left', exists_and_left]
        exact eq_comm
      | ok url => simp [resolveReferrer, hr, Referrer.parse, he, hp, Functor.map, Except.map]

end RequestFields

/-- The policies that a text can name, the empty text among them. -/
def policyNames : List String :=
  ["", "no-referrer", "no-referrer-when-downgrade", "same-origin", "origin", "strict-origin",
    "origin-when-cross-origin", "strict-origin-when-cross-origin", "unsafe-url"]

theorem ReferrerPolicy.parse_eq_error_iff {text : String} {e : FetchError} :
    parse text = .error e ↔ text ∉ policyNames ∧ e = .validation (.referrerPolicy text) := by
  have found : (∃ policy ∈ all, policy.name = text) ↔ text ∈ policyNames := by
    change _ ↔ text ∈ all.map name
    rw [List.mem_map]
  unfold parse
  cases h : all.find? fun policy => policy.name == text with
  | some policy =>
    have hm : text ∈ policyNames := by
      rw [← found]
      exact ⟨policy, List.mem_of_find?_eq_some h, by simpa using List.find?_some h⟩
    simp [hm]
  | none =>
    have hm : text ∉ policyNames := by
      rw [← found]
      rintro ⟨policy, hp, hn⟩
      exact absurd hn (by simpa using List.find?_eq_none.mp h policy hp)
    simp [hm, eq_comm]

theorem RequestFields.resolveReferrerPolicy_eq_error_iff {source : Option RequestFields}
    {init : RequestInit} {e : FetchError} :
    resolveReferrerPolicy source init = .error e ↔
      ∃ text, init.referrerPolicy = some text ∧ text ∉ policyNames ∧
        e = .validation (.referrerPolicy text) := by
  cases hp : init.referrerPolicy with
  | none => simp [resolveReferrerPolicy, hp]
  | some text => simp [resolveReferrerPolicy, hp, ReferrerPolicy.parse_eq_error_iff]

/-! ## Making a request -/

/-- What an input points to: what the host makes of a text, or what the cell of an object holds. -/
def RequestInput.target (host : Host) (s : Session) : RequestInput → Outcome Url
  | .text address => host.parseUrl address
  | .url u => .ok (s.url u)
  | .request r => .ok (s.url r.url)

namespace Request

/-- The fields of the request that an input is, if it is one. -/
abbrev sourceFields (input : RequestInput) : Option RequestFields :=
  input.source?.map Request.toRequestFields

/-- The method that is asked for: the given one, normalized, else that of the source, else GET. -/
def askedMethod (input : RequestInput) (init : RequestInit) : String :=
  (init.method.map normalizeMethod).getD ((input.source?.map fun r => r.method).getD "GET")

theorem resolveMethod_sourceFields (input : RequestInput) (init : RequestInit) :
    RequestFields.resolveMethod (sourceFields input) init = askedMethod input init := by
  unfold RequestFields.resolveMethod askedMethod sourceFields
  cases init.method with
  | some method => rfl
  | none =>
    cases input.source? with
    | some source => rfl
    | none => rfl

/-- A request is made in a new cell, and a refusal leaves no trace. -/
theorem create_run (host : Host) (input : RequestInput) (init : RequestInit) (s : Session) :
    create host input init s =
      match input.target host s with
      | .error e => (.error (.host e), s)
      | .ok url =>
        match RequestFields.resolve host url (sourceFields input) init with
        | .error e => (.error e, s)
        | .ok fields => (.ok { fields with url := s.nextUrl }, s.addUrl url) := by
  have made (url : Url) :
      (match RequestFields.resolve host url (sourceFields input) init with
        | .error e => (pure (.error e) : Run (Except FetchError Request))
        | .ok fields => do return .ok { fields with url := ← UrlRef.create url }) s =
      match RequestFields.resolve host url (sourceFields input) init with
      | .error e => (.error e, s)
      | .ok fields => (.ok { fields with url := s.nextUrl }, s.addUrl url) := by
    cases RequestFields.resolve host url (sourceFields input) init with
    | error e => rfl
    | ok fields => rfl
  cases input with
  | text address =>
    unfold create inputUrl RequestInput.target
    dsimp only
    cases host.parseUrl address with
    | error e => rfl
    | ok url => exact made url
  -- Reading the cell of an object cannot fail.
  | url u => exact made (s.url u)
  | request r => exact made (s.url r.url)

theorem create_of_resolved {host : Host} {input : RequestInput} {init : RequestInit} {s : Session}
    {url : Url} {fields : RequestFields} (target : input.target host s = .ok url)
    (resolved : RequestFields.resolve host url (sourceFields input) init = .ok fields) :
    create host input init s = (.ok { fields with url := s.nextUrl }, s.addUrl url) := by
  rw [create_run, target]
  dsimp only
  rw [resolved]

theorem create_of_unresolved {host : Host} {input : RequestInput} {init : RequestInit}
    {s : Session} {url : Url} {e : FetchError} (target : input.target host s = .ok url)
    (failed : RequestFields.resolve host url (sourceFields input) init = .error e) :
    create host input init s = (.error e, s) := by
  rw [create_run, target]
  dsimp only
  rw [failed]

/-- All that making a request can do. -/
theorem create_cases (host : Host) (input : RequestInput) (init : RequestInit) (s : Session) :
    (∃ e, create host input init s = (.error e, s)) ∨
      ∃ url fields, input.target host s = .ok url ∧
        RequestFields.Resolves host url (sourceFields input) init fields ∧
        create host input init s = (.ok { fields with url := s.nextUrl }, s.addUrl url) := by
  rw [create_run]
  cases target : input.target host s with
  | error cause => exact .inl ⟨.host cause, rfl⟩
  | ok url =>
    dsimp only
    cases resolved : RequestFields.resolve host url (sourceFields input) init with
    | error e => exact .inl ⟨e, rfl⟩
    | ok fields =>
      exact .inr ⟨url, fields, rfl, RequestFields.resolves_of_eq_ok resolved, rfl⟩

theorem create_grows (host : Host) (input : RequestInput) (init : RequestInit) (s : Session) :
    s.Grows [] (create host input init s).2 := by
  rcases create_cases host input init s with ⟨e, refused⟩ | ⟨url, fields, _, _, made⟩
  · rw [refused]
    exact .refl s
  · rw [made]
    exact .addUrl s url

theorem resolves_of_create {host : Host} {input : RequestInput} {init : RequestInit}
    {s s' : Session} {r : Request} (made : create host input init s = (.ok r, s')) :
    ∃ url, input.target host s = .ok url ∧
      RequestFields.Resolves host url (sourceFields input) init r.toRequestFields ∧
      r.url = s.nextUrl ∧ s' = s.addUrl url := by
  rcases create_cases host input init s with ⟨e, refused⟩ | ⟨url, fields, target, resolved, run⟩
  · cases refused.symm.trans made
  · cases run.symm.trans made
    exact ⟨url, target, resolved, rfl, rfl⟩

theorem body_of_clone {host : Host} {r copy : Request} {s : Session}
    (h : (r.clone host s).1 = .ok copy) : r.body.copy = .ok copy.body := by
  have made : create host (.request r) .empty s = (.ok copy, (r.clone host s).2) := Prod.ext h rfl
  obtain ⟨_, _, resolved, _⟩ := resolves_of_create made
  exact resolved.body_eq

/-- The refusals, numbered in the order in which they count. -/
inductive Refuses (host : Host) (s : Session) (input : RequestInput) (init : RequestInit) :
    Nat → FetchError → Prop where
  | notUrl {text : String} {e : HostError} (given : input = .text text)
      (fails : host.parseUrl text = .error e) : Refuses host s input init 1 (.host e)
  | credentials {url : Url} (target : input.target host s = .ok url)
      (present : url.username ≠ "" ∨ url.password ≠ "") :
      Refuses host s input init 2 (.validation (.credentials url.href))
  | bodyNotAllowed {method : String} (resolved : method = askedMethod input init)
      (bodyless : method = "GET" ∨ method = "HEAD")
      (body : init.body ≠ none ∨
        ∃ source, input.source? = some source ∧ source.body.payload ≠ .empty) :
      Refuses host s input init 3 (.validation (.bodyNotAllowed method))
  | usedBody {source : Request} (inherited : init.body = none)
      (from_ : input.source? = some source) (used : source.body.used = true) :
      Refuses host s input init 4 (.validation .copyOfUsedBody)
  | referrer {text : String} {e : HostError} (given : init.referrer = some text)
      (nonempty : text ≠ "") (fails : host.parseUrl text = .error e) :
      Refuses host s input init 5 (.host e)
  | referrerPolicy {text : String} (given : init.referrerPolicy = some text)
      (unknown : text ∉ policyNames) :
      Refuses host s input init 6 (.validation (.referrerPolicy text))

variable {host : Host} {s : Session} {input : RequestInput} {init : RequestInit}

theorem Refuses.functional {n : Nat} {e e' : FetchError} (h : Refuses host s input init n e)
    (h' : Refuses host s input init n e') : e = e' := by
  cases h with
  | notUrl given fails =>
    cases h' with
    | notUrl given' fails' =>
      cases given.symm.trans given'
      cases fails.symm.trans fails'
      rfl
  | credentials target present =>
    cases h' with
    | credentials target' present' =>
      cases target.symm.trans target'
      rfl
  | bodyNotAllowed resolved bodyless body =>
    cases h' with
    | bodyNotAllowed resolved' bodyless' body' => rw [resolved, resolved']
  | usedBody inherited from_ used =>
    cases h' with
    | usedBody => rfl
  | referrer given nonempty fails =>
    cases h' with
    | referrer given' nonempty' fails' =>
      cases given.symm.trans given'
      cases fails.symm.trans fails'
      rfl
  | referrerPolicy given unknown =>
    cases h' with
    | referrerPolicy given' unknown' =>
      cases given.symm.trans given'
      rfl

/-! ## Each refusal is the failure of one step -/

theorem refuses_notUrl_iff {e : FetchError} :
    Refuses host s input init 1 e ↔
      ∃ cause, input.target host s = .error cause ∧ e = .host cause := by
  constructor
  · intro h
    cases h with
    | notUrl given fails => exact ⟨_, by rw [given]; exact fails, rfl⟩
  · rintro ⟨cause, h, rfl⟩
    cases input with
    | text address => exact .notUrl rfl h
    | url u => cases h
    | request r => cases h

theorem refuses_credentials_iff {url : Url} (target : input.target host s = .ok url)
    {e : FetchError} :
    Refuses host s input init 2 e ↔
      url.hasCredentials = true ∧ e = .validation (.credentials url.href) := by
  have present : url.hasCredentials = true ↔ url.username ≠ "" ∨ url.password ≠ "" := by
    simp [Url.hasCredentials]
  rw [present]
  constructor
  · intro h
    cases h with
    | credentials target' present' =>
      cases target.symm.trans target'
      exact ⟨present', rfl⟩
  · rintro ⟨h, rfl⟩
    exact .credentials target h

theorem exists_sourceFields {P : RequestFields → Prop} :
    (∃ fields, sourceFields input = some fields ∧ P fields) ↔
      ∃ source, input.source? = some source ∧ P source.toRequestFields := by
  simp only [sourceFields, Option.map_eq_some_iff]
  constructor
  · rintro ⟨_, ⟨source, hs, rfl⟩, h⟩
    exact ⟨source, hs, h⟩
  · rintro ⟨source, hs, h⟩
    exact ⟨_, ⟨source, hs, rfl⟩, h⟩

theorem refuses_bodyNotAllowed_iff {e : FetchError} :
    Refuses host s input init 3 e ↔
      (isBodyless (RequestFields.resolveMethod (sourceFields input) init) &&
        RequestFields.wouldHaveBody (sourceFields input) init) = true ∧
      e = .validation
        (.bodyNotAllowed (RequestFields.resolveMethod (sourceFields input) init)) := by
  rw [RequestFields.bodyForbidden_iff, exists_sourceFields, resolveMethod_sourceFields]
  constructor
  · intro h
    cases h with
    | bodyNotAllowed resolved bodyless body =>
      rw [resolved] at bodyless ⊢
      exact ⟨⟨bodyless, body⟩, rfl⟩
  · rintro ⟨⟨bodyless, body⟩, rfl⟩
    exact .bodyNotAllowed rfl bodyless body

theorem refuses_usedBody_iff {e : FetchError} :
    Refuses host s input init 4 e ↔
      RequestFields.resolveBody host (sourceFields input) init = .error e := by
  rw [RequestFields.resolveBody_eq_error_iff, exists_sourceFields]
  constructor
  · intro h
    cases h with
    | usedBody inherited from_ used => exact ⟨rfl, inherited, _, from_, used⟩
  · rintro ⟨rfl, inherited, source, from_, used⟩
    exact .usedBody inherited from_ used

theorem refuses_referrer_iff {e : FetchError} :
    Refuses host s input init 5 e ↔
      RequestFields.resolveReferrer host (sourceFields input) init = .error e := by
  rw [RequestFields.resolveReferrer_eq_error_iff]
  constructor
  · intro h
    cases h with
    | referrer given nonempty fails => exact ⟨_, _, given, nonempty, fails, rfl⟩
  · rintro ⟨text, cause, given, nonempty, fails, rfl⟩
    exact .referrer given nonempty fails

theorem refuses_referrerPolicy_iff {e : FetchError} :
    Refuses host s input init 6 e ↔
      RequestFields.resolveReferrerPolicy (sourceFields input) init = .error e := by
  rw [RequestFields.resolveReferrerPolicy_eq_error_iff]
  constructor
  · intro h
    cases h with
    | referrerPolicy given unknown => exact ⟨_, given, unknown, rfl⟩
  · rintro ⟨text, given, unknown, rfl⟩
    exact .referrerPolicy given unknown

/-! ## The first refusal -/

/-- None of the refusals before the `n`th holds. -/
def Clear (host : Host) (s : Session) (input : RequestInput) (init : RequestInit) (n : Nat) :
    Prop :=
  ∀ m, m < n → ∀ e, ¬ Refuses host s input init m e

theorem clear_one : Clear host s input init 1 := by
  intro m hm e h
  cases h <;> omega

theorem Clear.succ {n : Nat} (clear : Clear host s input init n)
    (h : ∀ e, ¬ Refuses host s input init n e) : Clear host s input init (n + 1) := by
  intro m hm
  by_cases hn : m = n
  · rw [hn]
    exact h
  · exact clear m (by omega)

theorem Clear.all (clear : Clear host s input init 7) (n : Nat) (e : FetchError) :
    ¬ Refuses host s input init n e := by
  intro h
  -- Every refusal has a number from one to six.
  refine clear n ?_ e h
  cases h <;> omega

/-- The checks one after the other: each one that passes rules out its own refusal. -/
theorem create_outcome (host : Host) (s : Session) (input : RequestInput) (init : RequestInit) :
    (∃ n e, (create host input init s).1 = .error e ∧ Refuses host s input init n e ∧
      Clear host s input init n) ∨
    ((∃ r, (create host input init s).1 = .ok r) ∧ Clear host s input init 7) := by
  rw [create_run]
  cases target : input.target host s with
  | error cause => exact .inl ⟨1, _, rfl, refuses_notUrl_iff.mpr ⟨cause, target, rfl⟩, clear_one⟩
  | ok url =>
    dsimp only
    have parsed : Clear host s input init 2 := clear_one.succ fun e h => by
      obtain ⟨cause, hc, _⟩ := refuses_notUrl_iff.mp h
      cases target.symm.trans hc
    cases hc : url.hasCredentials with
    | true =>
      rw [RequestFields.resolve_of_credentials hc]
      exact .inl ⟨2, _, rfl, (refuses_credentials_iff target).mpr ⟨hc, rfl⟩, parsed⟩
    | false =>
      have anonymous : Clear host s input init 3 := parsed.succ fun e h => by
        have present := ((refuses_credentials_iff target).mp h).1
        rw [hc] at present
        cases present
      cases hb : isBodyless (RequestFields.resolveMethod (sourceFields input) init) &&
          RequestFields.wouldHaveBody (sourceFields input) init with
      | true =>
        rw [RequestFields.resolve_of_forbidden_body hc hb]
        exact .inl ⟨3, _, rfl, refuses_bodyNotAllowed_iff.mpr ⟨hb, rfl⟩, anonymous⟩
      | false =>
        have allowed : Clear host s input init 4 := anonymous.succ fun e h => by
          have forbidden := (refuses_bodyNotAllowed_iff.mp h).1
          rw [hb] at forbidden
          cases forbidden
        rw [RequestFields.resolve_of_checks hc hb]
        cases h4 : RequestFields.resolveBody host (sourceFields input) init with
        | error e => exact .inl ⟨4, e, rfl, refuses_usedBody_iff.mpr h4, allowed⟩
        | ok body =>
          have unread : Clear host s input init 5 := allowed.succ fun e h => by
            cases h4.symm.trans (refuses_usedBody_iff.mp h)
          cases h5 : RequestFields.resolveReferrer host (sourceFields input) init with
          | error e => exact .inl ⟨5, e, rfl, refuses_referrer_iff.mpr h5, unread⟩
          | ok referrer =>
            have referred : Clear host s input init 6 := unread.succ fun e h => by
              cases h5.symm.trans (refuses_referrer_iff.mp h)
            cases h6 : RequestFields.resolveReferrerPolicy (sourceFields input) init with
            | error e => exact .inl ⟨6, e, rfl, refuses_referrerPolicy_iff.mpr h6, referred⟩
            | ok policy =>
              refine .inr ⟨⟨_, rfl⟩, referred.succ fun e h => ?_⟩
              cases h6.symm.trans (refuses_referrerPolicy_iff.mp h)

/-- A request is made exactly when nothing speaks against it, and otherwise the error is that of the
    first refusal: the URL, its credentials, a body where the method has none, a used body, the
    referrer, the referrer policy. -/
theorem create_first_refusal (host : Host) (s : Session) (input : RequestInput)
    (init : RequestInit) :
    ((∃ r, (create host input init s).1 = .ok r) ↔
      ∀ n e, ¬ Refuses host s input init n e) ∧
    ∀ e, (create host input init s).1 = .error e ↔
      ∃ n, Refuses host s input init n e ∧ ∀ m, m < n → ∀ e', ¬ Refuses host s input init m e' := by
  rcases create_outcome host s input init with ⟨n, e, failed, refused, clear⟩ | ⟨⟨r, made⟩, clear⟩
  · refine ⟨⟨?_, ?_⟩, fun e' => ⟨?_, ?_⟩⟩
    · rintro ⟨r, made⟩
      cases failed.symm.trans made
    · intro none_
      exact absurd refused (none_ n e)
    · intro h
      cases failed.symm.trans h
      exact ⟨n, refused, clear⟩
    · rintro ⟨n', refused', clear'⟩
      -- Two first refusals have one number, for each rules out whatever comes before it.
      have same : n' = n := by
        rcases Nat.lt_trichotomy n' n with lt | eq | gt
        · exact absurd refused' (clear n' lt e')
        · exact eq
        · exact absurd refused (clear' n gt e)
      subst same
      rw [failed, refused.functional refused']
  · refine ⟨⟨fun _ => clear.all, fun _ => ⟨r, made⟩⟩, fun e' => ⟨?_, ?_⟩⟩
    · intro h
      cases made.symm.trans h
    · rintro ⟨n, refused, _⟩
      exact absurd refused (clear.all n e')

end Request

end WebFetch
