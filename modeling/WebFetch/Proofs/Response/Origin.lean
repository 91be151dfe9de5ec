import WebFetch.Proofs.Body.SingleUse
import WebFetch.Proofs.Response.Construction

/-!
Responses by their origin. Those that a program makes are checked when they are made; a network
error and the result of a host are not. What a response is allowed to be follows from how it was
first made, however often it was cloned, read and edited since, because none of this reaches more of
it than its headers and the mark on its body.
-/

set_option autoImplicit false

namespace WebFetch.Response

/-- How a response was made first. -/
inductive Origin where
  | created
  | json
  | redirect
  | error
  | host (result : Inbound)

/-- A response that has come about, with its origin: it was made, or it is a clone or a later state
    of one that has. -/
inductive Arises : Origin → Response → Prop where
  | create {host : Host} {body : Option BodyInit} {init : ResponseInit} {r : Response}
      (made : create host body init = .ok r) : Arises .created r
  | json {host : Host} {data : Json.Value} {init : ResponseInit} {r : Response}
      (made : json host data init = .ok r) : Arises .json r
  | redirect {host : Host} {url : String} {status : Nat} {r : Response}
      (made : redirect host url status = .ok r) : Arises .redirect r
  | error : Arises .error .error
  | wrap (result : Inbound) : Arises (.host result) (.ofInbound result)
  | clone {o : Origin} {r copy : Response} (before : Arises o r) (copied : r.clone = .ok copy) :
      Arises o copy
  | act {o : Origin} {r later : Response} (before : Arises o r) {host : Host} {a : Message.Action}
      {s : Session} (done : (Message.act host (.response r) a s).1.2 = .response later) :
      Arises o later
  | headers {o : Origin} {r : Response} (before : Arises o r) (change : Headers → Headers) :
      Arises o (r.mapHeaders change)

/-- What the checks of a response establish. -/
structure Checked (r : Response) : Prop where
  kind_eq : r.kind = .default
  lower : 200 ≤ r.status
  upper : r.status ≤ 599
  url_eq : r.url = ""
  bodiless : r.status ∈ bodylessStatuses → r.body.payload = .empty

/-- What a response of some origin is. -/
def Origin.Allows : Origin → Response → Prop
  | created, r | json, r => r.Checked
  | redirect, r => r.Checked ∧ r.status ∈ redirectStatuses
  | error, r => r.kind = .error ∧ r.status = 0 ∧ r.statusText = "" ∧ r.url = "" ∧
      r.body.payload = .empty
  | host result, r => r.kind = .default ∧ r.status = result.status ∧ r.url = result.url ∧
      r.body.buffer? = result.body ∧ (r.body.payload = .empty ↔ result.body = none)

/-! ## Making a response -/

theorem checked_of_create {host : Host} {body : Option BodyInit} {init : ResponseInit}
    {r : Response} (made : create host body init = .ok r) :
    r.Checked ∧ r.status = init.status.getD 200 := by
  have accepts := accepts_of_create made
  cases (create_of_accepts accepts).symm.trans made
  refine ⟨⟨rfl, accepts.lower, accepts.upper, rfl, fun bodyless => ?_⟩, rfl⟩
  cases body with
  | none => rfl
  | some body => exact absurd bodyless (accepts.bodied rfl)

theorem redirect_eq_ok {host : Host} {url : String} {status : Nat} {r : Response}
    (made : redirect host url status = .ok r) : r.Checked ∧ r.status ∈ redirectStatuses := by
  unfold redirect at made
  cases parsed : host.parseUrl url with
  | error e =>
    rw [parsed] at made
    cases made
  | ok target =>
    rw [parsed] at made
    dsimp only at made
    by_cases known : status ∈ redirectStatuses
    · rw [if_pos known] at made
      obtain ⟨checked, status_eq⟩ := checked_of_create made
      exact ⟨checked, status_eq ▸ known⟩
    · rw [if_neg known] at made
      cases made

theorem allows_ofInbound (result : Inbound) : (Origin.host result).Allows (ofInbound result) := by
  obtain ⟨status, headers, body, url⟩ := result
  cases body with
  | none => exact ⟨rfl, rfl, rfl, rfl, by simp [ofInbound, Body.empty]⟩
  | some bytes => exact ⟨rfl, rfl, rfl, rfl, by simp [ofInbound]⟩

/-! ## What is done with it -/

/-- A later state of a response, or one of a clone. -/
def Continues (q r : Response) : Prop :=
  ∃ headers used, r = { q with headers := headers, body := ⟨q.body.payload, used⟩ }

theorem continues_of_clone {r copy : Response} (copied : r.clone = .ok copy) :
    r.Continues copy := by
  unfold clone at copied
  cases hb : r.body.copy with
  | error e =>
    rw [hb] at copied
    cases copied
  | ok body =>
    rw [hb] at copied
    cases copied
    obtain ⟨_, rfl⟩ := Body.copy_eq_ok_iff.mp hb
    exact ⟨r.headers, false, rfl⟩

theorem continues_of_act {r later : Response} {host : Host} {a : Message.Action} {s : Session}
    (done : (Message.act host (.response r) a s).1.2 = .response later) : r.Continues later := by
  rw [Message.act_message] at done
  cases done
  exact ⟨r.headers, _, rfl⟩

theorem Checked.continues {q r : Response} (checked : q.Checked) (h : q.Continues r) :
    r.Checked := by
  obtain ⟨headers, used, rfl⟩ := h
  obtain ⟨kind, lower, upper, url, bodiless⟩ := checked
  exact ⟨kind, lower, upper, url, bodiless⟩

/-- No origin allows or forbids anything about headers or the mark on a body. -/
theorem Origin.Allows.continues {o : Origin} {q r : Response} (allowed : o.Allows q)
    (h : q.Continues r) : o.Allows r := by
  cases o with
  | created | json => exact Checked.continues allowed h
  | redirect =>
    refine ⟨allowed.1.continues h, ?_⟩
    obtain ⟨headers, used, rfl⟩ := h
    exact allowed.2
  | error | host result =>
    obtain ⟨headers, used, rfl⟩ := h
    exact allowed

/-! ## Runs -/

theorem Arises.allowed {o : Origin} {r : Response} (run : Arises o r) : o.Allows r := by
  induction run with
  | create made | json made => exact (checked_of_create made).1
  | redirect made => exact redirect_eq_ok made
  | error => exact ⟨rfl, rfl, rfl, rfl, rfl⟩
  | wrap result => exact allows_ofInbound result
  | clone _ copied ih => exact ih.continues (continues_of_clone copied)
  | act _ done ih => exact ih.continues (continues_of_act done)
  | headers _ change ih => exact ih.continues ⟨_, _, rfl⟩

theorem Origin.Allows.checked {o : Origin} {r : Response} (allowed : o.Allows r)
    (own : o = .created ∨ o = .json ∨ o = .redirect) : r.Checked := by
  rcases own with rfl | rfl | rfl
  · exact allowed
  · exact allowed
  · exact allowed.1

/-- However a response was made and whatever has been done with it or with what it is a clone of: if
    it is an error, it has status 0, no status text, no URL and no body. If a program has made it,
    its status is from 200 to 599, it has no URL, and no body where its status takes none. If it was
    made as a redirect, its status is one of a redirect. And if it wraps the result of a host, it is
    no error and has the status, the URL and the body that the host gave, whatever they are. -/
theorem invariants_by_origin {o : Origin} {r : Response} (run : Arises o r) :
    (r.kind = .error → r.status = 0 ∧ r.statusText = "" ∧ r.url = "" ∧ r.body.payload = .empty) ∧
    (o = .created ∨ o = .json ∨ o = .redirect →
      200 ≤ r.status ∧ r.status ≤ 599 ∧ r.url = "" ∧
        (r.status = 204 ∨ r.status = 205 ∨ r.status = 304 → r.body.payload = .empty)) ∧
    (o = .redirect → r.status ∈ [301, 302, 303, 307, 308]) ∧
    ∀ result, o = .host result →
      r.kind = .default ∧ r.status = result.status ∧ r.url = result.url ∧
        r.body.buffer? = result.body ∧ (r.body.payload = .empty ↔ result.body = none) := by
  have allowed := run.allowed
  refine ⟨fun failed => ?_, fun own => ?_, ?_, ?_⟩
  · cases o with
    | error => exact allowed.2
    | created | json => cases failed.symm.trans (Checked.kind_eq allowed)
    | redirect => cases failed.symm.trans allowed.1.kind_eq
    | host result => cases failed.symm.trans allowed.1
  · have checked := allowed.checked own
    refine ⟨checked.lower, checked.upper, checked.url_eq, fun bodyless => checked.bodiless ?_⟩
    simpa [bodylessStatuses] using bodyless
  · rintro rfl
    exact allowed.2
  · rintro result rfl
    exact allowed

/-- A redirect is cloned, and the clone is read and loses its header; and a host answers with a
    status that no response could be made with and with a body without content. -/
theorem invariants_by_origin_of_clone :
    let made : Response := ⟨303, "", ⟨[("location", "http://h/")]⟩, .empty, .default, ""⟩
    let later : Response := { made with headers := ⟨[]⟩, body := ⟨.empty, true⟩ }
    let result : Inbound := ⟨42, [], some [], "http://h/"⟩
    made.clone = .ok made ∧ Arises .redirect later ∧ later.status ∈ [301, 302, 303, 307, 308] ∧
      (ofInbound result).status = 42 ∧ (ofInbound result).body.buffer? = some [] := by
  intro made later result
  let home : Url := ⟨"http", some (.ofHost (.name "h")), false, "/", none, none⟩
  let host : Host := ⟨Utf8.encode, fun _ => [], fun _ _ => ⟨[], []⟩, fun _ => .ok home,
    fun _ _ => .error .aborted⟩
  have redirected : redirect host "http://h/" 303 = .ok made := rfl
  have cloned : Arises .redirect made := (Arises.redirect redirected).clone rfl
  let emptied : Response := { made with body := ⟨.empty, true⟩ }
  have read : (Message.act host (.response made) .arrayBuffer .empty).1.2 = .response emptied := rfl
  have run : Arises .redirect later := (cloned.act read).headers fun h => h.delete "Location"
  obtain ⟨_, _, status, _⟩ := invariants_by_origin run
  obtain ⟨_, _, _, wrapped⟩ := invariants_by_origin (.wrap result)
  obtain ⟨_, kept, _, buffer, _⟩ := wrapped result rfl
  exact ⟨rfl, run, status rfl, kept, buffer⟩

end WebFetch.Response
