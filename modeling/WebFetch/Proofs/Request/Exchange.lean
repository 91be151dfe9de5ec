import WebFetch.Proofs.Completion.History
import WebFetch.Proofs.Request.Construction
import WebFetch.Proofs.Request.Sending

/-!
Exchanging a request for a response. The state of the body decides whether the host is contacted,
and then it is contacted once, with the request as it is at that moment. What comes back is a matter
of the first settlement alone, however the host goes about settling.
-/

set_option autoImplicit false

namespace WebFetch

/-- What a response keeps of the result that the host has brought. -/
structure Response.Wraps (result : Inbound) (r : Response) : Prop where
  kind_eq : r.kind = .default
  status_eq : r.status = result.status
  url_eq : r.url = result.url
  entries_eq : r.headers.entries =
    result.headers.map fun entry => (Headers.lower entry.1, entry.2)
  unread : r.body.used = false
  no_body_iff : r.body.payload = .empty ↔ result.body = none
  body_iff : ∀ bytes, r.body.payload = .bytes bytes ↔ result.body = some bytes

/-- How an exchange ends by the settlements of its network call. -/
inductive Concludes : List (Outcome Inbound) → Except FetchError Response → Prop where
  | success {result : Inbound} {response : Response} (wraps : response.Wraps result)
      (later : List (Outcome Inbound)) : Concludes (.ok result :: later) (.ok response)
  | failure (cause : HostError) (later : List (Outcome Inbound)) :
      Concludes (.error cause :: later) (.error (.host cause))
  | dropped : Concludes [] (.error (.host (.dropped "network_fetch")))

def concluded (outcome : Outcome Inbound) : Except FetchError Response :=
  (outcome.mapError .host).map .ofInbound

theorem Response.wraps_ofInbound (result : Inbound) : (ofInbound result).Wraps result := by
  obtain ⟨status, headers, body, url⟩ := result
  cases body with
  | none =>
    refine ⟨rfl, rfl, rfl, rfl, rfl, ?_, ?_⟩
    · simp [ofInbound, Body.empty]
    · simp [ofInbound, Body.empty]
  | some bytes =>
    refine ⟨rfl, rfl, rfl, rfl, rfl, ?_, ?_⟩
    · simp [ofInbound]
    · simp [ofInbound]

theorem concludes_head (outcome : Outcome Inbound) (later : List (Outcome Inbound)) :
    Concludes (outcome :: later) (concluded outcome) := by
  cases outcome with
  | error cause => exact .failure cause later
  | ok result => exact .success (Response.wraps_ofInbound result) later

theorem concludes_awaited (outcomes : List (Outcome Inbound)) :
    Concludes outcomes (concluded (Channel.awaitedOutcome "network_fetch" outcomes)) := by
  cases outcomes with
  | nil => exact .dropped
  | cons outcome later => exact concludes_head outcome later

/-! ## A host that takes its time -/

namespace Channel

variable {α : Type}

def settlements (history : List (Action α)) : List (Outcome α) :=
  history.filterMap Action.outcome?

theorem head?_settlements (history : List (Action α)) :
    (settlements history).head? = firstSettlement history :=
  List.head?_filterMap

/-- Whenever the future of a network call is asked, it waits for a settlement that may still come,
    or has the outcome that its settlements conclude. -/
theorem poll_concludes {history : List (Action Inbound)} {c : Channel Inbound}
    (run : Reaches "network_fetch" history c) (awaited : c.awaited = true) :
    (c.poll = .pending ∧ settlements history = [] ∧ 0 < held history) ∨
      ∃ outcome, c.poll = .ready outcome ∧ Concludes (settlements history) (concluded outcome) := by
  have first := head?_settlements history
  rw [run.follows.poll_eq awaited, expected, ← first]
  cases settlements history with
  | cons outcome later => exact .inr ⟨outcome, rfl, concludes_head outcome later⟩
  -- Without a settlement the future fails only once there is nobody left to make one.
  | nil =>
    by_cases gone : held history = 0
    · exact .inr ⟨_, if_pos gone, .dropped⟩
    · exact .inl ⟨if_neg gone, rfl, Nat.pos_of_ne_zero gone⟩

end Channel

/-! ## The request that is sent -/

namespace Request

variable {r : Request}

/-- Reading a body for the network marks it, unless it is empty. -/
def sent (r : Request) : Request :=
  r.withBody { r.body with used := r.body.used || !r.body.isEmpty }

theorem takeBody_of_bytes {bytes : Bytes} (h : r.body = ⟨.bytes bytes, false⟩) :
    r.takeBody = (.ok (some bytes), r.sent) := by
  have filled : r.body.payload ≠ .empty := by rw [h]; exact fun e => Payload.noConfusion e
  rw [takeBody_of_unused filled (by rw [h]), sent, h]
  rfl

theorem sent_of_empty (h : r.body.payload = .empty) : r.sent = r := by
  rw [sent, Body.isEmpty_iff.mpr h]
  simp [withBody]

/-- A body that could be taken goes out in one contact, whose settlements conclude the exchange. -/
theorem send_of_taken {body : Option Bytes} (taken : r.takeBody = (.ok body, r.sent))
    (none_iff : body = none ↔ r.body.payload = .empty)
    (some_iff : ∀ bytes, body = some bytes ↔ r.body.payload = .bytes bytes) (host : Host)
    (s : Session) :
    ∃ request result after, r.Shows s request ∧
      r.send host s = ((result, r.sent), after) ∧ s.Sends [request] after ∧
      Concludes (host.network s.isCancelled request).settlements result := by
  obtain ⟨answer, contacted⟩ := send_of_ok taken host s
  exact ⟨_, _, _, shows_outbound s none_iff some_iff, Prod.ext answer rfl, contacted,
    concludes_awaited _⟩

theorem send_of_sendable (h : r.body.payload = .empty ∨ ∃ bytes, r.body = ⟨.bytes bytes, false⟩)
    (host : Host) (s : Session) :
    ∃ request result after, r.Shows s request ∧
      r.send host s = ((result, r.sent), after) ∧ s.Sends [request] after ∧
      Concludes (host.network s.isCancelled request).settlements result := by
  rcases h with empty | ⟨bytes, filled⟩
  · have taken : r.takeBody = (.ok none, r.sent) := by
      rw [sent_of_empty empty]
      exact takeBody_of_empty empty
    exact send_of_taken taken (by simp [empty]) (by simp [empty]) host s
  · exact send_of_taken (takeBody_of_bytes filled) (by simp [filled])
      (by simp [filled]) host s

theorem send_of_failed {cause : HostError} (h : r.body = ⟨.failed cause, false⟩) (host : Host)
    (s : Session) : r.send host s = ((.error (.host cause), r.sent), s) := by
  have filled : r.body.payload ≠ .empty := by rw [h]; exact fun e => Payload.noConfusion e
  refine send_of_error ?_ s
  rw [takeBody_of_unused filled (by rw [h]), sent, h]
  rfl

/-- Whatever becomes of it, the host gets to see nothing but the request itself. -/
theorem send_shows (host : Host) (r : Request) (s : Session) :
    ∃ requests, s.Sends requests (r.send host s).2 ∧ ∀ request ∈ requests, r.Shows s request := by
  by_cases sendable : r.body.payload = .empty ∨ ∃ bytes, r.body = ⟨.bytes bytes, false⟩
  · obtain ⟨request, result, after, shown, run, contacted, _⟩ := send_of_sendable sendable host s
    rw [run]
    refine ⟨[request], contacted, fun other h => ?_⟩
    rw [List.mem_singleton.mp h]
    exact shown
  · have silent : (r.send host s).2 = s := by
      obtain ⟨filled, unread⟩ := not_or.mp sendable
      cases used : r.body.used with
      | true => rw [send_of_error (takeBody_of_used filled used)]
      | false =>
        cases payload : r.body.payload with
        | empty => exact absurd payload filled
        | bytes content =>
          have body : r.body = ⟨.bytes content, false⟩ := by rw [← payload, ← used]
          exact absurd ⟨content, body⟩ unread
        | failed cause =>
          have body : r.body = ⟨.failed cause, false⟩ := by rw [← payload, ← used]
          rw [send_of_failed body]
    rw [silent]
    exact ⟨[], .refl s, fun _ h => absurd h List.not_mem_nil⟩

end Request

/-! ## The exchange -/

theorem fetch_run {host : Host} {input : RequestInput} {init : RequestInit} {s s' : Session}
    {r : Request} (made : Request.create host input init s = (.ok r, s')) :
    fetch host input init s = ((r.send host s').1.1, (r.send host s').2) := by
  unfold fetch
  rw [run_bind made]
  rfl

theorem fetch_of_error {host : Host} {input : RequestInput} {init : RequestInit} {s s' : Session}
    {e : FetchError} (refused : Request.create host input init s = (.error e, s')) :
    fetch host input init s = (.error e, s') := by
  unfold fetch
  rw [run_bind refused]
  rfl

/-- Making a request contacts nobody, and a refusal leaves no trace at all. -/
theorem Request.contacts_of_create (host : Host) (input : RequestInput) (init : RequestInit)
    (s : Session) :
    (create host input init s).2.contacts = s.contacts ∧
      ∀ e, (create host input init s).1 = .error e → (create host input init s).2 = s := by
  rcases create_cases host input init s with ⟨e, refused⟩ | ⟨url, fields, _, _, made⟩
  · rw [refused]
    exact ⟨rfl, fun _ _ => rfl⟩
  · rw [made]
    exact ⟨rfl, fun _ h => by cases h⟩

/-- A request with an empty body or with unread bytes reaches the host exactly once, shown as it is,
    and the first settlement concludes the exchange, whenever the host makes it and whatever else it
    does. Any other body fails before the host is contacted: one that was read for being read, and
    one that could not be produced for its cause. To fetch is to make a request and to send it, so
    that a request that cannot be made reaches nobody. -/
theorem exchange_by_first_settlement (host : Host) (s : Session) :
    (∀ r : Request, r.body.payload = .empty ∨ (∃ bytes, r.body = ⟨.bytes bytes, false⟩) →
      ∃ request result after, r.Shows s request ∧
        r.send host s = ((result, r.sent), after) ∧ s.Sends [request] after ∧
        Concludes (host.network s.isCancelled request).settlements result) ∧
    (∀ (history : List (Channel.Action Inbound)) (c : Channel Inbound),
      Channel.Reaches "network_fetch" history c → c.awaited = true →
        (c.poll = .pending ∧ Channel.settlements history = [] ∧ 0 < Channel.held history) ∨
        ∃ outcome, c.poll = .ready outcome ∧
          Concludes (Channel.settlements history) (concluded outcome)) ∧
    (∀ r : Request, r.body.payload ≠ .empty → r.body.used = true →
      r.send host s = ((.error .consumption, r), s)) ∧
    (∀ (r : Request) (cause : HostError), r.body = ⟨.failed cause, false⟩ →
      r.send host s = ((.error (.host cause), r.sent), s)) ∧
    ∀ (input : RequestInput) (init : RequestInit),
      (∀ e s', Request.create host input init s = (.error e, s') →
        s' = s ∧ fetch host input init s = (.error e, s)) ∧
      ∀ r s', Request.create host input init s = (.ok r, s') →
        s'.contacts = s.contacts ∧
          fetch host input init s = ((r.send host s').1.1, (r.send host s').2) := by
  refine ⟨?_, ?_, ?_, ?_, ?_⟩
  · intro r sendable
    exact Request.send_of_sendable sendable host s
  · intro history c run awaited
    exact Channel.poll_concludes run awaited
  · intro r filled used
    exact Request.send_of_error (Request.takeBody_of_used filled used) s
  · intro r cause failed
    exact Request.send_of_failed failed host s
  · intro input init
    obtain ⟨silent, untouched⟩ := Request.contacts_of_create host input init s
    constructor
    · intro e s' refused
      rw [refused] at untouched
      have same : s' = s := untouched e rfl
      rw [fetch_of_error refused, same]
      exact ⟨rfl, rfl⟩
    · intro r s' made
      rw [made] at silent
      exact ⟨silent, fetch_run made⟩

/-- A host that settles twice is asked once, and its second settlement is lost. -/
theorem exchange_by_first_settlement_of_two :
    let answer : Inbound := ⟨204, [("X-Tag", "t")], none, "http://h/"⟩
    let host : Host := ⟨Utf8.encode, fun _ => [],
      fun _ _ => ⟨[], [.ok answer, .error .aborted]⟩, fun _ => .error .aborted,
      fun _ _ => .error .aborted⟩
    let s : Session :=
      ⟨#[⟨"http", some (.ofHost (.name "h")), false, "/", none, none⟩], #[], []⟩
    let r : Request := {
      method := "POST", body := ⟨.bytes [7], false⟩
      headers := ⟨[("a", "1"), ("b", "2"), ("a", "3")]⟩
      redirect := .follow, signal := none, referrer := none, referrerPolicy := .unset, url := ⟨0⟩ }
    r.body = ⟨.bytes [7], false⟩ ∧
      ∃ request response after,
        r.send host s = ((.ok response, { r with body := ⟨.bytes [7], true⟩ }), after) ∧
        after.contacts = [request] ∧ request.url = "http://h/" ∧ request.body = some [7] ∧
        request.headers.get? "a" = some "1, 3" ∧
        response.status = 204 ∧ response.headers.entries = [("x-tag", "t")] := by
  intro answer host s r
  obtain ⟨request, result, after, shown, sent, contacted, concluded⟩ :=
    (exchange_by_first_settlement host s).1 r (.inr ⟨[7], rfl⟩)
  refine ⟨rfl, request, ?_⟩
  cases concluded with
  | success wraps later =>
    refine ⟨_, after, sent, contacted.contacts, ?_, (shown.body_iff [7]).mpr rfl, ?_,
      wraps.status_eq, ?_⟩
    · rw [shown.url_eq]
      decide
    · rw [shown.headers_joined.get?_eq]
      decide
    · rw [wraps.entries_eq]
      decide

end WebFetch
