import WebFetch.Proofs.Headers.Name
import WebFetch.Proofs.Request.Workspace

/-!
The methods of requests. However a request is made, a known method is in upper case, and a request
that is to `GET` or `HEAD` has no body, not even an empty one. Nothing that is done to a request
later reaches its method or its payload, so both hold of every request that is ever held, and the
host never gets a body with one of these methods, however it is spelled.
-/

set_option autoImplicit false

namespace WebFetch

/-! ## Letters in either case -/

/-- The same text, letter by letter, but for the case of ASCII letters. -/
def SameLetters (a b : String) : Prop := List.Forall₂ Headers.SameLetter a.toList b.toList

/-- A lower-case letter moves by the distance of the two cases, and any other character stays. -/
theorem toUpper_cases (c : Char) :
    (97 ≤ c.toNat ∧ c.toNat ≤ 122 ∧ c.toUpper.toNat + 32 = c.toNat) ∨
      (¬ (97 ≤ c.toNat ∧ c.toNat ≤ 122) ∧ c.toUpper.toNat = c.toNat) := by
  have lower : ('a'.val ≤ c.val ∧ c.val ≤ 'z'.val) ↔ 97 ≤ c.toNat ∧ c.toNat ≤ 122 := by
    simp [UInt32.le_iff_toNat_le]
  by_cases h : 'a'.val ≤ c.val ∧ c.val ≤ 'z'.val
  · have range := lower.mp h
    have distance : ('A'.val - 'a'.val).toNat = 4294967264 := by decide
    have moved : c.toUpper.val = c.val + ('A'.val - 'a'.val) := by
      change (dite _ _ _ : Char).val = _
      rw [dif_pos h]
    have sum : c.toUpper.toNat = (c.toNat + 4294967264) % 2 ^ 32 := by
      rw [Char.toNat, moved, UInt32.toNat_add, distance, Char.toNat]
    refine .inl ⟨range.1, range.2, ?_⟩
    omega
  · exact .inr ⟨mt lower.mpr h, congrArg Char.toNat (dif_neg h)⟩

theorem toUpper_eq_toUpper_iff {c d : Char} :
    c.toUpper = d.toUpper ↔ Headers.SameLetter c d := by
  have moved := toUpper_cases c
  have moved' := toUpper_cases d
  rw [Headers.SameLetter, Headers.isUpper_iff, Headers.isUpper_iff, ← Char.toNat_inj,
    ← Char.toNat_inj]
  omega

theorem upperAscii_eq_upperAscii_iff {a b : String} :
    upperAscii a = upperAscii b ↔ SameLetters a b := by
  rw [upperAscii, upperAscii, String.ofList_inj, SameLetters, ← List.forall₂_eq_eq_eq,
    List.forall₂_map_left_iff, List.forall₂_map_right_iff]
  simp only [toUpper_eq_toUpper_iff]

theorem upperAscii_of_known {known : String} (h : known ∈ knownMethods) :
    upperAscii known = known := by
  simp only [knownMethods, List.mem_cons, List.not_mem_nil, or_false] at h
  rcases h with rfl | rfl | rfl | rfl | rfl | rfl <;> decide

theorem sameLetters_known_iff {method known : String} (h : known ∈ knownMethods) :
    SameLetters method known ↔ upperAscii method = known := by
  rw [← upperAscii_eq_upperAscii_iff, upperAscii_of_known h]

/-! ## Methods that are spelled as they are known -/

/-- A method that is known is spelled as it is known. -/
def Spelled (method : String) : Prop :=
  ∀ known ∈ knownMethods, SameLetters method known → method = known

theorem spelled_of_known {method : String} (h : method ∈ knownMethods) : Spelled method := by
  intro known there same
  rw [← (sameLetters_known_iff there).mp same, upperAscii_of_known h]

theorem spelled_normalizeMethod (method : String) : Spelled (normalizeMethod method) := by
  unfold normalizeMethod
  by_cases h : upperAscii method ∈ knownMethods
  · rw [if_pos (List.contains_iff_mem.mpr h)]
    exact spelled_of_known h
  · rw [if_neg fun there => h (List.contains_iff_mem.mp there)]
    intro known there same
    rw [(sameLetters_known_iff there).mp same] at h
    exact absurd there h

/-- A request whose method and payload go together. -/
structure RequestFields.Regular (fields : RequestFields) : Prop where
  spelled : Spelled fields.method
  bodiless : fields.method = "GET" ∨ fields.method = "HEAD" → fields.body.payload = .empty

/-- A request as the host gets it, without a body where there must be none. -/
def Outbound.Regular (request : Outbound) : Prop :=
  SameLetters request.method "GET" ∨ SameLetters request.method "HEAD" → request.body = none

/-! ## Making a request -/

namespace RequestFields

variable {host : Host} {url : Url} {source : Option RequestFields} {init : RequestInit}
  {fields : RequestFields}

theorem Resolves.spelled (h : Resolves host url source init fields)
    (inherited : ∀ q, source = some q → q.Regular) : Spelled fields.method := by
  rw [h.method_eq]
  unfold resolveMethod
  cases init.method with
  | some method => exact spelled_normalizeMethod method
  | none =>
    cases source with
    | some q => exact (inherited q rfl).spelled
    | none => exact spelled_of_known (by decide)

/-- The check on the body comes before the body, and leaves nothing for it to be made of. -/
theorem Resolves.bodiless (h : Resolves host url source init fields)
    (bodyless : fields.method = "GET" ∨ fields.method = "HEAD") :
    fields.body.payload = .empty := by
  have allowed := h.allowed
  rw [← Bool.not_eq_true, bodyForbidden_iff, ← h.method_eq] at allowed
  obtain ⟨ungiven, unheld⟩ := not_or.mp fun some_ => allowed ⟨bodyless, some_⟩
  have given : init.body = none := Classical.not_not.mp ungiven
  have body := h.body_eq
  unfold resolveBody at body
  rw [given] at body
  cases source with
  | none =>
    rw [← Except.ok.inj body]
    rfl
  | some q =>
    rw [(Body.copy_eq_ok_iff.mp body).2]
    by_contra filled
    exact unheld ⟨q, rfl, filled⟩

theorem Resolves.regular (h : Resolves host url source init fields)
    (inherited : ∀ q, source = some q → q.Regular) : fields.Regular :=
  ⟨h.spelled inherited, h.bodiless⟩

end RequestFields

namespace Request

theorem regular_of_create {host : Host} {input : RequestInput} {init : RequestInit}
    {s s' : Session} {r : Request} (made : create host input init s = (.ok r, s'))
    (inherited : ∀ q, input.source? = some q → q.Regular) : r.Regular := by
  obtain ⟨_, _, resolved, _⟩ := resolves_of_create made
  refine resolved.regular fun q from_ => ?_
  obtain ⟨source, there, rfl⟩ := Option.map_eq_some_iff.mp from_
  exact inherited source there

theorem Continues.regular {q r : Request} (h : q.Continues r) (regular : q.Regular) :
    r.Regular := by
  constructor
  · rw [h.method_eq]
    exact regular.spelled
  · intro bodyless
    rw [h.method_eq] at bodyless
    rw [h.payload_eq]
    exact regular.bodiless bodyless

theorem Shows.regular {s : Session} {r : Request} {request : Outbound} (h : r.Shows s request)
    (regular : r.Regular) : request.Regular := by
  intro same
  rw [h.method_eq] at same
  refine h.no_body_iff.mpr (regular.bodiless ?_)
  rcases same with get | head
  · exact .inl (regular.spelled "GET" (by decide) get)
  · exact .inr (regular.spelled "HEAD" (by decide) head)

end Request

/-! ## Runs -/

namespace Workspace

/-- All requests of a workspace are regular, those that are held and those that were sent. -/
structure Regular (start : Session) (w : Workspace) : Prop where
  held : ∀ r, w.Holds r → r.Regular
  sent : ∃ requests, w.session.contacts = start.contacts ++ requests ∧
    ∀ request ∈ requests, request.Regular

variable {start : Session} {w : Workspace}

theorem regular_start (start : Session) : Regular start ⟨start, []⟩ := by
  constructor
  · intro r held
    cases held
  · exact ⟨[], (List.append_nil _).symm, fun _ h => absurd h List.not_mem_nil⟩

/-- A request that an owned action makes inherits from regular requests only. -/
theorem Regular.made (f : Regular start w) {host : Host} {a : Action}
    (owned : (Move.act host a).Owned w) {input : RequestInput} {init : RequestInit}
    (makes : a.Makes w input init) {r : Request} {s : Session}
    (made : Request.create host input init w.session = (.ok r, s)) : r.Regular :=
  Request.regular_of_create made fun q from_ => f.held q ((owned input init makes).1 q from_)

theorem Regular.act (f : Regular start w) {host : Host} {a : Action}
    (owned : (Move.act host a).Owned w) : Regular start (w.act host a) := by
  constructor
  · intro r held
    rcases origin_act held with ⟨q, before, later⟩ | ⟨input, init, makes, made⟩
    · exact later.regular (f.held q before)
    · exact f.made owned makes made
  · obtain ⟨earlier, contacts, regular⟩ := f.sent
    rcases session_act host w a with ⟨requests, grown, delivered⟩ | ⟨u, v, _, written⟩
    · refine ⟨earlier ++ requests, ?_, fun request h => ?_⟩
      · rw [grown.contacts_eq, contacts, List.append_assoc]
      · rcases List.mem_append.mp h with before | now
        · exact regular request before
        · obtain ⟨r, s, shown, held | ⟨input, init, makes, made⟩⟩ := delivered request now
          · exact shown.regular (f.held r held)
          · exact shown.regular (f.made owned makes made)
    · rw [written]
      exact ⟨earlier, contacts, regular⟩

theorem Arises.regular (run : Arises start w) : Regular start w := by
  induction run with
  | start => exact regular_start start
  | @move w _ m owned ih =>
    cases m with
    | act host a => exact ih.act owned
    | newSignal => exact ⟨ih.held, ih.sent⟩
    | cancel signal => exact ⟨ih.held, ih.sent⟩

/-- In every workspace that comes about, a request has a known method in upper case only, and no
    body where its method is `GET` or `HEAD`; and no request that has reached the host since then
    has a body with one of these methods, in whatever case. -/
theorem methods_stay_regular (run : Arises start w) :
    (∀ r, w.Holds r →
      (∀ known ∈ knownMethods, SameLetters r.method known → r.method = known) ∧
      (r.method = "GET" ∨ r.method = "HEAD" → r.body.payload = .empty)) ∧
    ∃ requests, w.session.contacts = start.contacts ++ requests ∧ ∀ request ∈ requests,
      SameLetters request.method "GET" ∨ SameLetters request.method "HEAD" →
        request.body = none := by
  have f := run.regular
  constructor
  · intro r held
    exact ⟨(f.held r held).spelled, (f.held r held).bodiless⟩
  · exact f.sent

/-- A request that came in as `get` with an empty body is made into one to `PUT` with a body, and
    both are sent. -/
theorem methods_stay_regular_of_lower_case :
    let r : Request := ⟨⟨"GET", .empty, .empty, .follow, none, none, .unset⟩, ⟨0⟩⟩
    ∃ w, Arises Session.empty w ∧ w.Holds r ∧ r.body.payload = .empty ∧
      w.session.contacts.map (fun request => (request.method, request.body)) =
        [("GET", none), ("PUT", some [7])] := by
  intro r
  let home : Url := ⟨"http", some (.ofHost (.name "h")), false, "/", none, none⟩
  let host : Host := ⟨Utf8.encode, fun _ => [], fun _ _ => ⟨[], []⟩, fun _ => .ok home,
    fun _ _ => .error .aborted⟩
  let init : RequestInit :=
    { RequestInit.empty with method := some "put", body := some (.bytes [7]) }
  let received : Workspace := ⟨⟨#[home], #[], []⟩, [.request r]⟩
  have method : normalizeMethod "get" = "GET" := by decide
  have before : Arises Session.empty received := by
    have step : (⟨Session.empty, []⟩ : Workspace).move
        (.act host (.receive ⟨"get", "http://h/", [], some []⟩)) =
      ⟨⟨#[home], #[], []⟩, [.request { r with method := normalizeMethod "get" }]⟩ := rfl
    rw [method] at step
    change Arises Session.empty ⟨⟨#[home], #[], []⟩, [.request { r with method := "GET" }]⟩
    rw [← step]
    refine Arises.start.move fun input init makes => ?_
    cases makes with
    | receive raw =>
      constructor
      · intro q from_
        cases from_
      · intro x given
        cases given
  have there : received.Holds r := List.mem_singleton.mpr rfl
  have made := before.move (m := .act host (.request (.request r) init)) <| by
    intro input init makes
    cases makes with
    | request input init =>
      constructor
      · intro q from_
        cases from_
        exact there
      · intro x given
        cases given
  have first := made.move (m := .act host (.message 0 .send)) fun _ _ makes => by cases makes
  have run := first.move (m := .act host (.message 1 .send)) fun _ _ makes => by cases makes
  refine ⟨_, run, ?held, ((methods_stay_regular run).1 r ?held).2 (.inl rfl), ?sent⟩
  case held => exact List.mem_of_getElem? (i := 0) rfl
  case sent => rfl

end Workspace

end WebFetch
