import WebFetch.Body
import WebFetch.Proofs.Host

/-!
One reading of a body. What it gives is settled by the payload and the host alone, the body is used
up whatever it gives, and a body that was used gives nothing more.
-/

set_option autoImplicit false

namespace WebFetch

namespace Payload

/-- The bytes of a payload, or the cause for which there are none. -/
def data : Payload → Except FetchError Bytes
  | .empty => .ok []
  | .bytes content => .ok content
  | .failed cause => .error (.host cause)

def decoded (host : Host) (p : Payload) : Except FetchError String :=
  p.data.bind fun bytes => (host.decoded bytes).mapError .host

def parsed (host : Host) (p : Payload) : Except FetchError Json.Value :=
  (p.decoded host).bind fun text => (Json.parse text).mapError .malformedJson

end Payload

namespace Body

variable {b : Body}

theorem isEmpty_iff : b.isEmpty = true ↔ b.payload = .empty := by
  cases h : b.payload with
  | empty => simp [isEmpty, h]
  | bytes bytes => simp [isEmpty, h]
  | failed cause => simp [isEmpty, h]

theorem arrayBuffer_of_used (h : b.used = true) : b.arrayBuffer = (.error .consumption, b) := by
  rw [arrayBuffer, if_pos h]

theorem arrayBuffer_of_unused (h : b.used = false) :
    b.arrayBuffer = (b.payload.data, ⟨b.payload, true⟩) := by
  rw [arrayBuffer, if_neg (by simp [h])]
  cases b.payload with
  | empty => rfl
  | bytes bytes => rfl
  | failed cause => rfl

theorem text_of_used (h : b.used = true) (host : Host) (s : Session) :
    b.text host s = ((.error .consumption, b), s) := by
  unfold text
  rw [arrayBuffer_of_used h]
  rfl

theorem text_of_unused (h : b.used = false) (host : Host) (s : Session) :
    (b.text host s).1 = (b.payload.decoded host, ⟨b.payload, true⟩) ∧
      s.Sends [] (b.text host s).2 := by
  unfold text Payload.decoded
  rw [arrayBuffer_of_unused h]
  -- The body is marked already, so that it makes no difference what the host does.
  cases b.payload.data with
  | error e => exact ⟨rfl, .refl s⟩
  | ok bytes =>
    have read := host.decodeText_fst bytes s
    have logged := host.decodeText_sends bytes s
    refine ⟨?_, logged⟩
    change ((host.decodeText bytes s).1.mapError FetchError.host, _) = _
    rw [read]
    rfl

theorem json_of_used (h : b.used = true) (host : Host) (s : Session) :
    b.json host s = ((.error .consumption, b), s) := by
  unfold json
  rw [run_bind (text_of_used h host s)]
  rfl

theorem json_of_unused (h : b.used = false) (host : Host) (s : Session) :
    (b.json host s).1 = (b.payload.parsed host, ⟨b.payload, true⟩) ∧
      s.Sends [] (b.json host s).2 := by
  obtain ⟨read, logged⟩ := text_of_unused h host s
  have opened : b.text host s =
      ((b.payload.decoded host, ⟨b.payload, true⟩), (b.text host s).2) := Prod.ext read rfl
  unfold json
  rw [run_bind opened]
  exact ⟨rfl, logged⟩

theorem copy_eq_ok_iff {copied : Body} :
    b.copy = .ok copied ↔ b.used = false ∧ copied = ⟨b.payload, false⟩ := by
  obtain ⟨payload, used⟩ := b
  cases used with
  | true => simp [copy]
  | false =>
    simp only [copy, Bool.false_eq_true, if_false, Except.ok.injEq, true_and]
    exact eq_comm

end Body

end WebFetch
