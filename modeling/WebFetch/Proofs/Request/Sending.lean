import WebFetch.Fetch
import WebFetch.Proofs.Body.Reading
import WebFetch.Proofs.Headers.Record

/-!
Sending a request. A body that is not empty is read first, and only what comes of it decides whether
the host is contacted; the answer is then the first one that the host gives.
-/

set_option autoImplicit false

namespace WebFetch.Request

/-- What the host gets to see of a request. -/
structure Shows (s : Session) (r : Request) (request : Outbound) : Prop where
  method_eq : request.method = r.method
  url_eq : request.url = (s.url r.url).href
  headers_joined : request.headers.Joins r.headers
  no_body_iff : request.body = none ↔ r.body.payload = .empty
  body_iff : ∀ bytes, request.body = some bytes ↔ r.body.payload = .bytes bytes
  signal_eq : request.signal = r.signal

variable {r : Request}

theorem shows_outbound (s : Session) {body : Option Bytes}
    (none_iff : body = none ↔ r.body.payload = .empty)
    (some_iff : ∀ bytes, body = some bytes ↔ r.body.payload = .bytes bytes) :
    r.Shows s (r.outbound (s.url r.url) body) :=
  ⟨rfl, rfl, Headers.joins_toRecord r.headers, none_iff, some_iff, rfl⟩

theorem takeBody_of_empty (h : r.body.payload = .empty) : r.takeBody = (.ok none, r) := by
  rw [takeBody, if_pos (Body.isEmpty_iff.mpr h)]

theorem takeBody_of_used (h : r.body.payload ≠ .empty) (hu : r.body.used = true) :
    r.takeBody = (.error .consumption, r) := by
  rw [takeBody, if_neg (fun he => h (Body.isEmpty_iff.mp he)), arrayBuffer,
    Body.arrayBuffer_of_used hu]
  rfl

theorem takeBody_of_unused (h : r.body.payload ≠ .empty) (hu : r.body.used = false) :
    r.takeBody = (r.body.payload.data.map some, r.withBody ⟨r.body.payload, true⟩) := by
  rw [takeBody, if_neg (fun he => h (Body.isEmpty_iff.mp he)), arrayBuffer,
    Body.arrayBuffer_of_unused hu]

theorem send_of_error {host : Host} {e : FetchError} {taken : Request}
    (h : r.takeBody = (.error e, taken)) (s : Session) :
    r.send host s = ((.error e, taken), s) := by
  unfold send
  rw [h]
  rfl

/-- A body that was taken goes to the host in one contact. -/
theorem send_of_ok {body : Option Bytes} {taken : Request}
    (h : r.takeBody = (.ok body, taken)) (host : Host) (s : Session) :
    let request := taken.outbound (s.url taken.url) body
    (r.send host s).1 = (((host.answered s request).mapError .host).map .ofInbound, taken) ∧
      s.Sends [request] (r.send host s).2 := by
  intro request
  let said := (log .debug ("fetch: " ++ request.method ++ " " ++ request.url) s).2
  have before : s.Sends [] said := log_sends .debug _ s
  obtain ⟨answer, sent⟩ := host.fetchOutbound_spec request said
  have same : host.answered said request = host.answered s request := by
    rw [Host.answered, before.isCancelled]
    rfl
  let back := (host.fetchOutbound request said).2
  have fetched : host.fetchOutbound request said = (host.answered s request, back) :=
    Prod.ext (answer.trans same) rfl
  have contacted : s.Sends [request] back := before.trans sent
  have read : taken.url.read s = (s.url taken.url, s) := rfl
  have logged : log .debug ("fetch: " ++ request.method ++ " " ++ request.url) s = ((), said) := rfl
  unfold send
  rw [h]
  dsimp only
  rw [run_bind read, run_bind logged, run_bind fetched]
  cases host.answered s request with
  | error e => exact ⟨rfl, contacted.trans (log_sends .debug _ back)⟩
  | ok result => exact ⟨rfl, contacted.trans (log_sends .debug _ back)⟩

end WebFetch.Request
