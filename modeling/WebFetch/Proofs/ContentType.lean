import WebFetch.Proofs.Headers.Replay
import WebFetch.Proofs.Request.Construction
import WebFetch.Proofs.Response.Construction

/-!
The content type that a message gets by itself. A text brings one and JSON data another, and neither
touches a header that is there. The main statement says which entries the headers of a new message
have, for the three ways to make one: those of the headers that it starts from and at most one more.
-/

set_option autoImplicit false

namespace WebFetch

namespace Headers

variable {h base : Headers}

theorem setDefault_of_has {name : String} (there : h.has name = true) (value : String) :
    h.setDefault name value = h :=
  if_pos there

theorem entries_setDefault {name : String} (absent : h.has name = false) (value : String) :
    (h.setDefault name value).entries = h.entries ++ [(lower name, value)] := by
  rw [setDefault, absent]
  refine Entries.set_of_absent (fun entry there same => ?_) value
  rw [← Bool.not_eq_true, has, Entries.has, List.any_eq_true] at absent
  exact absent ⟨entry, there, beq_iff_eq.mpr same⟩

theorem has_setDefault (h : Headers) (name value : String) :
    (h.setDefault name value).has name = true := by
  cases there : h.has name with
  | true => rw [setDefault_of_has there, there]
  | false =>
    rw [has, entries_setDefault there]
    simp [Entries.has]

theorem Lowered.setDefault (lowered : h.Lowered) (name value : String) :
    (h.setDefault name value).Lowered := by
  unfold Headers.setDefault
  split
  · exact lowered
  · exact lowered.apply (.set name value)

/-- Some entry has the name, in whatever case. -/
def Names (h : Headers) (name : String) : Prop := ∃ entry ∈ h.entries, SameName entry.1 name

/-- Stored names are in lower case, so that a name is found in all of its spellings. -/
theorem Lowered.has_iff (lowered : h.Lowered) {name : String} :
    h.has name = true ↔ h.Names name := by
  have stored (entry : String × String) (there : entry ∈ h.entries) :
      entry.1 = lower name ↔ SameName entry.1 name := by
    have own : lower entry.1 = entry.1 :=
      lower_eq_self (lowered entry.1 (List.mem_map.mpr ⟨entry, there, rfl⟩))
    rw [← lower_eq_lower_iff, own]
  rw [has, Entries.has, List.any_eq_true, Names]
  constructor
  · rintro ⟨entry, there, same⟩
    exact ⟨entry, there, (stored entry there).mp (beq_iff_eq.mp same)⟩
  · rintro ⟨entry, there, same⟩
    exact ⟨entry, there, beq_iff_eq.mpr ((stored entry there).mpr same)⟩

/-- What comes of headers with a content type that they get if `applies`: it is one more entry behind
    the others, unless one of these is a content type. -/
structure Gains (base : Headers) (applies : Prop) (value : String) (h : Headers) : Prop where
  added : applies → ¬ base.Names contentType → h.entries = base.entries ++ [(contentType, value)]
  kept : ¬ applies ∨ base.Names contentType → h.entries = base.entries
  lowered : h.Lowered

theorem Lowered.gains_nothing (lowered : base.Lowered) {applies : Prop} (idle : ¬ applies)
    (value : String) : base.Gains applies value base :=
  ⟨fun applied => absurd applied idle, fun _ => rfl, lowered⟩

theorem Lowered.gains (lowered : base.Lowered) {applies : Prop} (applied : applies)
    (value : String) : base.Gains applies value (base.setDefault contentType value) := by
  have stored : lower contentType = contentType := by decide
  refine ⟨fun _ absent => ?_, fun silent => ?_, lowered.setDefault contentType value⟩
  · rw [← lowered.has_iff, Bool.not_eq_true] at absent
    rw [entries_setDefault absent, stored]
  · rw [setDefault_of_has (lowered.has_iff.mpr (silent.resolve_left (not_not.mpr applied)))]

end Headers

theorem BodyInit.any_isText_iff {body : Option BodyInit} :
    body.any BodyInit.isText = true ↔ ∃ text, body = some (.text text) := by
  cases body with
  | none => simp
  | some body =>
    cases body with
    | text text => simp [BodyInit.isText]
    | bytes bytes => simp [BodyInit.isText]
    | failed cause => simp [BodyInit.isText]

/-- Among the three kinds of bodies only a text brings its type. -/
theorem Headers.Lowered.gains_text {base : Headers} (lowered : base.Lowered)
    (body : Option BodyInit) :
    base.Gains (∃ text, body = some (.text text)) textContentType
      (if body.any BodyInit.isText then base.setDefault contentType textContentType else base) := by
  by_cases text : ∃ text, body = some (.text text)
  · rw [if_pos (BodyInit.any_isText_iff.mpr text)]
    exact lowered.gains text textContentType
  · rw [if_neg (mt BodyInit.any_isText_iff.mp text)]
    exact lowered.gains_nothing text textContentType

/-- The type of JSON data is there before its text can bring one. -/
theorem Response.headers_of_json {host : Host} {data : Json.Value} {init : ResponseInit}
    {r : Response} (made : Response.json host data init = .ok r) :
    r.headers = (init.headers.getD .empty).setDefault contentType jsonContentType := by
  have headers := headers_of_create made
  dsimp only [Option.any_some, Option.getD_some] at headers
  have text : (BodyInit.text data.render).isText = true := rfl
  rw [if_pos text, Headers.setDefault_of_has (Headers.has_setDefault _ _ _)] at headers
  exact headers

/-- The headers that a request starts from: those that are given, else those of its source. -/
def Request.givenHeaders (input : RequestInput) (init : RequestInit) : Headers :=
  init.headers.getD ((input.source?.map fun source => source.headers).getD .empty)

theorem Request.headers_of_create {host : Host} {input : RequestInput} {init : RequestInit}
    {s s' : Session} {r : Request} (made : Request.create host input init s = (.ok r, s')) :
    r.headers =
      if init.body.any BodyInit.isText then
        (givenHeaders input init).setDefault contentType textContentType
      else givenHeaders input init := by
  obtain ⟨_, _, resolved, _, _⟩ := resolves_of_create made
  rw [resolved.headers_eq, RequestFields.resolveHeaders, givenHeaders, Option.map_map]
  rfl

/-- The headers of a new message are the entries that it starts from, unchanged and in order, and
    behind them a content type exactly if none of them is one, in whatever case, and the message is
    made of JSON data or of a text. Bytes, a failed body and an inherited one bring none. JSON data
    has the type of a text only where this is among the headers that were given. Names that are in
    lower case stay so. -/
theorem content_type_by_payload (host : Host) :
    (∀ (body : Option BodyInit) (init : ResponseInit) (r : Response),
      let base := init.headers.getD .empty
      base.Lowered → Response.create host body init = .ok r →
        base.Gains (∃ text, body = some (.text text)) textContentType r.headers) ∧
    (∀ (data : Json.Value) (init : ResponseInit) (r : Response),
      let base := init.headers.getD .empty
      base.Lowered → Response.json host data init = .ok r →
        base.Gains True jsonContentType r.headers ∧
          ∀ entry ∈ r.headers.entries, entry.2 = textContentType → entry ∈ base.entries) ∧
    ∀ (input : RequestInput) (init : RequestInit) (s s' : Session) (r : Request),
      let base := Request.givenHeaders input init
      base.Lowered → Request.create host input init s = (.ok r, s') →
        base.Gains (∃ text, init.body = some (.text text)) textContentType r.headers := by
  refine ⟨fun body init r => ?_, fun data init r => ?_, fun input init s s' r => ?_⟩
  · intro base lowered made
    rw [Response.headers_of_create made]
    exact lowered.gains_text body
  · intro base lowered made
    have gained : base.Gains True jsonContentType r.headers := by
      rw [Response.headers_of_json made]
      exact lowered.gains trivial jsonContentType
    refine ⟨gained, fun entry there text => ?_⟩
    by_cases typed : base.Names contentType
    · rw [gained.kept (.inr typed)] at there
      exact there
    · rw [gained.added trivial typed, List.mem_append, List.mem_singleton] at there
      rcases there with there | rfl
      · exact there
      · exact absurd text (by decide)
  · intro base lowered made
    rw [Request.headers_of_create made]
    exact lowered.gains_text init.body

/-- Data with two content types in other spellings, a text without one, and a request that inherits
    the body of its source and headers without a type. -/
theorem content_type_by_payload_of_spellings :
    let home : Url := ⟨"http", some (.ofHost (.name "h")), false, "/", none, none⟩
    let host : Host := ⟨Utf8.encode, fun _ => [], fun _ _ => ⟨[], []⟩, fun _ => .ok home,
      fun _ _ => .error .aborted⟩
    let typed : Headers := .ofList [("CONTENT-Type", "a/b"), ("X", "1"), ("content-TYPE", "c/d")]
    let bare : Headers := .ofList [("Accept", "a/b"), ("accept", "c/d")]
    let source : Request := ⟨⟨"PUT", ⟨.bytes [97], false⟩, bare, .follow, none, none, .unset⟩, ⟨0⟩⟩
    let s : Session := ⟨#[home], #[], []⟩
    (∃ r, Response.json host .null ⟨none, none, some typed⟩ = .ok r ∧
      r.headers.entries = [("content-type", "a/b"), ("x", "1"), ("content-type", "c/d")]) ∧
    (∃ r, Response.create host (some (.text "")) ⟨none, none, some bare⟩ = .ok r ∧
      r.headers.entries =
        [("accept", "a/b"), ("accept", "c/d"), ("content-type", "text/plain;charset=UTF-8")]) ∧
    ∃ r s', Request.create host (.request source) .empty s = (.ok r, s') ∧
      r.headers.entries = [("accept", "a/b"), ("accept", "c/d")] := by
  intro home host typed bare source s
  have lowered (pairs : List (String × String)) : (Headers.ofList pairs).Lowered := by
    rw [Headers.ofList_eq]
    exact Headers.lowered_changed _
  have named : typed.Names contentType :=
    ⟨("content-type", "a/b"), by decide, by decide⟩
  have unnamed : ¬ bare.Names contentType := by
    rw [← (lowered _).has_iff]
    decide
  obtain ⟨created, json, requested⟩ := content_type_by_payload host
  refine ⟨⟨_, rfl, ?_⟩, ⟨_, rfl, ?_⟩, ⟨_, _, rfl, ?_⟩⟩
  · refine ((json .null ⟨none, none, some typed⟩ _ (lowered _) rfl).1.kept (.inr named)).trans ?_
    decide
  · refine ((created (some (.text "")) ⟨none, none, some bare⟩ _ (lowered _) rfl).added ⟨"", rfl⟩
      unnamed).trans ?_
    decide
  · refine ((requested (.request source) .empty s _ _ (lowered _) rfl).kept (.inl ?_)).trans ?_
    · rintro ⟨text, given⟩
      cases given
    · decide

end WebFetch
