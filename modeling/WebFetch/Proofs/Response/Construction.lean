import WebFetch.Response

/-!
When a response can be made, and which one it is. Its status has to be from 200 to 599 and, with a
body, one that takes a body; nothing else about the fields or the body can be refused.
-/

set_option autoImplicit false

namespace WebFetch.Response

/-- The status takes a response, with or without a body. -/
structure Accepts (init : ResponseInit) (filled : Bool) : Prop where
  lower : 200 ≤ init.status.getD 200
  upper : init.status.getD 200 ≤ 599
  bodied : filled = true → init.status.getD 200 ∉ bodylessStatuses

variable {host : Host} {body : Option BodyInit} {init : ResponseInit} {r : Response}

theorem create_of_accepts (accepts : Accepts init body.isSome) :
    create host body init = .ok {
      status := init.status.getD 200
      statusText := init.statusText.getD ""
      headers :=
        if body.any BodyInit.isText then
          (init.headers.getD .empty).setDefault contentType textContentType
        else init.headers.getD .empty
      body := .ofInit host body
      kind := .default
      url := "" } := by
  have range : ¬ (init.status.getD 200 < 200 ∨ 599 < init.status.getD 200) := by
    have lower := accepts.lower
    have upper := accepts.upper
    omega
  have filled : ¬ (body.isSome ∧ init.status.getD 200 ∈ bodylessStatuses) :=
    fun h => accepts.bodied h.1 h.2
  unfold create
  rw [if_neg range, if_neg filled]

theorem accepts_of_create (made : create host body init = .ok r) : Accepts init body.isSome := by
  unfold create at made
  by_cases range : init.status.getD 200 < 200 ∨ 599 < init.status.getD 200
  · rw [if_pos range] at made
    cases made
  · by_cases filled : body.isSome ∧ init.status.getD 200 ∈ bodylessStatuses
    · rw [if_neg range, if_pos filled] at made
      cases made
    · obtain ⟨lower, upper⟩ := not_or.mp range
      exact ⟨Nat.le_of_not_lt lower, Nat.le_of_not_lt upper, fun some_ bodyless =>
        filled ⟨some_, bodyless⟩⟩

theorem headers_of_create (made : create host body init = .ok r) :
    r.headers = if body.any BodyInit.isText then
        (init.headers.getD .empty).setDefault contentType textContentType
      else init.headers.getD .empty := by
  cases (create_of_accepts (accepts_of_create made)).symm.trans made
  rfl

end WebFetch.Response
