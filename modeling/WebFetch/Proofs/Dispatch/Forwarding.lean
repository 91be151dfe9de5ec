import WebFetch.Proofs.Dispatch
import WebFetch.Proofs.Request.Cloning

/-!
Forwarding. A handler that fetches the very request it is called with, and answers with the response
that it gets, is a proxy. On its way the request is made twice and its headers are flattened, and so
are those of the response; still nothing is added and nothing is lost but what no record can tell:
the case of header names and the order in which they are walked.
-/

set_option autoImplicit false

namespace WebFetch

/-- The result of a handler that has fetched something: a failure to fetch is its own. -/
def ofFetched : Except FetchError Response → HandlerResult
  | .error e => .error e.report
  | .ok response => .ok (.response response)

def forward (host : Host) : Handler Run := fun request =>
  return .returned do return .returned (ofFetched (← fetch host (.request request) .empty))

/-! ## What goes through -/

/-- What the network sees of a raw request for a URL. An empty body is none. -/
structure RawRequest.Reaches (raw : RawRequest) (url : Url) (request : Outbound) : Prop where
  method_eq : request.method =
    if upperAscii raw.method ∈ knownMethods then upperAscii raw.method else raw.method
  url_eq : request.url = url.href
  headers_perm : request.headers.Perm (HeaderRecord.lowered raw.headers)
  body_iff : ∀ bytes, request.body = some bytes ↔ raw.body = some bytes ∧ bytes ≠ []
  signal_eq : request.signal = none

/-- What the callback gets of a result of the network. -/
structure Inbound.Returns (result : Inbound) (answer : DispatchResult) : Prop where
  status_eq : answer.status = result.status
  headers_perm : answer.headers.Perm (HeaderRecord.lowered result.headers)
  body_eq : answer.body = result.body

/-! ## The request on its way out -/

namespace RawRequest

variable {host : Host} {raw : RawRequest} {s : Session}

def payload (raw : RawRequest) : Payload :=
  match raw.body with
  | none | some [] => .empty
  | some bytes => .bytes bytes

theorem payload_eq_bytes_iff {bytes : Bytes} :
    raw.payload = .bytes bytes ↔ raw.body = some bytes ∧ bytes ≠ [] := by
  unfold payload
  match raw.body with
  | none => simp
  | some [] => simp
  | some (b :: rest) =>
    constructor
    · intro h
      cases h
      exact ⟨rfl, List.cons_ne_nil b rest⟩
    · rintro ⟨h, _⟩
      cases h
      rfl

theorem payload_cases (raw : RawRequest) :
    raw.payload = .empty ∨ ∃ bytes, raw.payload = .bytes bytes := by
  unfold payload
  match raw.body with
  | none => exact .inl rfl
  | some [] => exact .inl rfl
  | some (b :: rest) => exact .inr ⟨b :: rest, rfl⟩

/-- The request that a raw one is made into. -/
def received (raw : RawRequest) (cell : UrlRef) : Request where
  method := normalizeMethod raw.method
  body := ⟨raw.payload, false⟩
  headers := .ofRecord raw.headers
  redirect := .follow
  signal := none
  referrer := none
  referrerPolicy := .unset
  url := cell

theorem method_received (raw : RawRequest) (cell : UrlRef) : (raw.received cell).method =
    if upperAscii raw.method ∈ knownMethods then upperAscii raw.method else raw.method := by
  change normalizeMethod raw.method = _
  simp only [normalizeMethod, List.contains_iff_mem]

theorem resolve_received {url : Url} (anonymous : url.hasCredentials = false)
    (allowed : (isBodyless (RequestFields.resolveMethod none raw.init) &&
      RequestFields.wouldHaveBody none raw.init) = false) (cell : UrlRef) :
    RequestFields.resolve host url none raw.init = .ok (raw.received cell).toRequestFields := by
  rw [RequestFields.resolve_of_checks anonymous allowed]
  obtain ⟨method, address, headers, body⟩ := raw
  match body with
  | none => rfl
  | some [] => rfl
  | some (b :: rest) => rfl

/-- Whether a raw request is accepted does not depend on its headers. -/
theorem create_of_accepted {request : Request}
    (accepted : (Request.create host (.text raw.url) raw.init s).1 = .ok request) :
    ∃ url, host.parseUrl raw.url = .ok url ∧ url.hasCredentials = false ∧
      ∀ walked : HeaderRecord,
        let other := { raw with headers := walked }
        Request.create host (.text other.url) other.init s =
          (.ok (other.received s.nextUrl), s.addUrl url) := by
  obtain ⟨url, target, resolved, _⟩ := Request.resolves_of_create (Prod.ext accepted rfl)
  refine ⟨url, target, resolved.anonymous, fun walked => ?_⟩
  intro other
  -- None of the checks reads the headers.
  have allowed : (isBodyless (RequestFields.resolveMethod none other.init) &&
      RequestFields.wouldHaveBody none other.init) = false := resolved.allowed
  have fields : RequestFields.resolve host url none other.init = _ :=
    resolve_received resolved.anonymous allowed s.nextUrl
  exact Request.create_of_resolved target fields

end RawRequest

/-- To fetch a request as it is shows the host that request. -/
theorem fetch_of_request {r : Request} {s : Session} (regular : r.Regular)
    (anonymous : (s.url r.url).hasCredentials = false) (unread : r.body.used = false)
    (filled : r.body.payload = .empty ∨ ∃ bytes, r.body.payload = .bytes bytes) (host : Host) :
    ∃ request result after, r.Shows s request ∧
      fetch host (.request r) .empty s = (result, after) ∧
      after.contacts = s.contacts ++ [request] ∧
      Concludes (host.network s.isCancelled request).settlements result := by
  let copy : Request := { r with url := s.nextUrl }
  let copied := s.addUrl (s.url r.url)
  have cloned : r.clone host s = (.ok copy, copied) := by
    rw [Request.clone_run regular, if_neg (by simp [anonymous]), if_neg (by simp [unread])]
  have sendable : copy.body.payload = .empty ∨ ∃ bytes, copy.body = ⟨.bytes bytes, false⟩ :=
    filled.imp_right fun ⟨bytes, payload⟩ => ⟨bytes, by rw [← payload, ← unread]⟩
  obtain ⟨request, result, after, shown, run, contacted, concluded⟩ :=
    Request.send_of_sendable sendable host copied
  have url : copied.url copy.url = s.url r.url := Session.url_addUrl_nextUrl s (s.url r.url)
  refine ⟨request, result, after, ?_, ?_, contacted.contacts, concluded⟩
  · exact ⟨shown.method_eq, by rw [shown.url_eq, url], shown.headers_joined, shown.no_body_iff,
      shown.body_iff, shown.signal_eq⟩
  · rw [fetch_run cloned, run]

/-! ## The response on its way back -/

/-- What a proxy makes of its fetch. -/
def relayed : Except FetchError Response → Except FetchError DispatchResult
  | .error e => .error (.userHandler e.report)
  | .ok response => flatten (.response response)

theorem relayed_of_wraps {result : Inbound} {response : Response} (wraps : response.Wraps result)
    {record : HeaderRecord} (distinct : HeaderRecord.Distinct record)
    (walk : result.headers.Perm record) :
    ∃ answer, relayed (.ok response) = .ok answer ∧
      Inbound.Returns { result with headers := record } answer := by
  have answers := answers_flatten (.response response)
  change Answers _ (relayed (.ok response)) at answers
  generalize relayed (.ok response) = outcome at answers ⊢
  cases answers with
  | empty payload joined =>
    have body := wraps.no_body_iff.mp payload
    exact ⟨_, rfl, wraps.status_eq, joined.perm_lowered wraps.entries_eq distinct walk, body.symm⟩
  | bytes payload unread joined =>
    have body := (wraps.body_iff _).mp payload
    exact ⟨_, rfl, wraps.status_eq, joined.perm_lowered wraps.entries_eq distinct walk, body.symm⟩
  | usedBody payload used => cases used.symm.trans wraps.unread
  | failedBody payload unread =>
    cases body : result.body with
    | none => cases payload.symm.trans (wraps.no_body_iff.mpr body)
    | some bytes => cases payload.symm.trans ((wraps.body_iff bytes).mpr body)

/-! ## Runs -/

section Runs

variable {host : Host} {raw : RawRequest} {request : Request} {s s' after : Session}
  {result : Except FetchError Response}

theorem answer_forward (made : Request.create host (.text raw.url) raw.init s = (.ok request, s'))
    (fetched : fetch host (.request request) .empty s' = (result, after)) :
    answer host (forward host) raw s = (relayed result, after) := by
  let awaiting : Run (Attempt HandlerResult) :=
    do return .returned (ofFetched (← fetch host (.request request) .empty))
  have returned : forward host request s' = (.returned awaiting, s') := rfl
  have awaited : awaiting s' = (.returned (ofFetched result), after) := by
    refine (run_bind fetched).trans ?_
    rfl
  have called : callHandler (forward host) request s' =
      ((ofFetched result).mapError .userHandler, after) := by
    refine (run_bind returned).trans ?_
    refine (run_bind awaited).trans ?_
    cases result with
    | error e => rfl
    | ok response => rfl
  refine (run_bind made).trans ?_
  refine (run_bind called).trans ?_
  cases result with
  | error e => rfl
  | ok response => rfl

theorem dispatch_of_answer {handler : Handler Run} {outcome : Except FetchError DispatchResult}
    (answered : answer host handler raw s = (outcome, after)) :
    ∃ after', after.Sends [] after' ∧ ∀ complete : Except FetchError DispatchResult → Run Unit,
      dispatch host handler raw complete s = complete outcome after' := by
  refine ⟨(logOutcome raw outcome after).2, ?_, fun complete => ?_⟩
  · cases outcome with
    | error e => exact log_sends .warn _ after
    | ok result => exact log_sends .debug _ after
  · unfold dispatch
    exact run_bind answered

/-- A raw request that is accepted and forwarded reaches the network once, with its method, the URL
    that it was parsed to, its headers in lower case and its body, if that is not empty. Of a result
    the callback gets the status, whatever it is, the headers in lower case and the body as it is.
    Both hold in whatever order the headers are walked, on the way out and on the way back. -/
theorem forward_transparent (distinct : HeaderRecord.Distinct raw.headers)
    (accepted : (Request.create host (.text raw.url) raw.init s).1 = .ok request) :
    ∃ url, host.parseUrl raw.url = .ok url ∧
      ∀ walked : HeaderRecord, walked.Perm raw.headers →
        ∃ sent outcome after, raw.Reaches url sent ∧ after.contacts = s.contacts ++ [sent] ∧
          (∀ complete : Except FetchError DispatchResult → Run Unit,
            dispatch host (forward host) { raw with headers := walked } complete s =
              complete outcome after) ∧
          ∀ (record : HeaderRecord) (result : Inbound) (later : List (Outcome Inbound)),
            HeaderRecord.Distinct record → result.headers.Perm record →
            (host.network s.isCancelled sent).settlements = .ok result :: later →
              ∃ answer, outcome = .ok answer ∧
                Inbound.Returns { result with headers := record } answer := by
  obtain ⟨url, parsed, anonymous, made⟩ := RawRequest.create_of_accepted accepted
  refine ⟨url, parsed, fun walked walk => ?_⟩
  let other := { raw with headers := walked }
  let inner := other.received s.nextUrl
  let opened := s.addUrl url
  have made : Request.create host (.text other.url) other.init s = (.ok inner, opened) :=
    made walked
  have target : opened.url inner.url = url := Session.url_addUrl_nextUrl s url
  have regular : inner.Regular := Request.regular_of_create made fun q from_ => by cases from_
  rw [← target] at anonymous
  -- The handler makes a second request of this one; neither of the checks that could refuse it can.
  obtain ⟨sent, result, fetched, shown, run, contacts, concluded⟩ :=
    fetch_of_request regular anonymous rfl other.payload_cases host
  obtain ⟨after, logged, ends⟩ := dispatch_of_answer (answer_forward made run)
  refine ⟨sent, relayed result, after, ?_, ?_, ends, ?_⟩
  · constructor
    · rw [shown.method_eq]
      exact RawRequest.method_received other s.nextUrl
    · rw [shown.url_eq, target]
    · exact shown.headers_joined.perm_lowered rfl distinct walk
    · intro bytes
      exact (shown.body_iff bytes).trans RawRequest.payload_eq_bytes_iff
    · exact shown.signal_eq
  · rw [logged.contacts, contacts, List.append_nil]
    rfl
  · intro record brought later distinct walk settled
    change (host.network opened.isCancelled sent).settlements = _ at settled
    rw [settled] at concluded
    cases concluded with
    | success wraps => exact relayed_of_wraps wraps distinct walk

end Runs

/-- The host walks both records backwards, settles twice, and answers with a status that no response
    could be made with and a body without content. -/
theorem forward_transparent_of_odd_status :
    let home : Url := ⟨"http", some (.ofHost (.name "h")), false, "/", none, none⟩
    let reply : Inbound := ⟨42, [("X-Tag", "t"), ("ETag", "e")], some [], "http://h/"⟩
    let host : Host := ⟨Utf8.encode, fun _ => [],
      fun _ _ => ⟨[], [.ok reply, .error .aborted]⟩, fun _ => .ok home, fun _ _ => .error .aborted⟩
    let raw : RawRequest := ⟨"pUt", "http://h/", [("X-A", "1"), ("B", "2")], some [7]⟩
    HeaderRecord.Distinct raw.headers ∧
      (∃ request, (Request.create host (.text raw.url) raw.init .empty).1 = .ok request) ∧
      ∃ sent answer after, after.contacts = [sent] ∧
        sent.method = "PUT" ∧ sent.url = "http://h/" ∧ sent.body = some [7] ∧
        sent.headers.Perm [("x-a", "1"), ("b", "2")] ∧
        (∀ complete : Except FetchError DispatchResult → Run Unit,
          dispatch host (forward host) { raw with headers := [("B", "2"), ("X-A", "1")] } complete
            .empty = complete (.ok answer) after) ∧
        answer.status = 42 ∧ answer.body = some [] ∧
        answer.headers.Perm [("etag", "e"), ("x-tag", "t")] := by
  intro home reply host raw
  have distinct : HeaderRecord.Distinct raw.headers := by
    unfold HeaderRecord.Distinct
    decide
  have accepted : (Request.create host (.text raw.url) raw.init .empty).1 =
      .ok (raw.received ⟨0⟩) := by
    have method : RequestFields.resolveMethod none raw.init = "PUT" := by decide
    have allowed : (isBodyless (RequestFields.resolveMethod none raw.init) &&
        RequestFields.wouldHaveBody none raw.init) = false := by
      rw [method]
      decide
    have fields : RequestFields.resolve host home none raw.init = _ :=
      RawRequest.resolve_received rfl allowed ⟨0⟩
    have target : (RequestInput.text raw.url).target host .empty = .ok home := rfl
    rw [Request.create_of_resolved target fields]
    rfl
  obtain ⟨url, parsed, proxied⟩ := forward_transparent distinct accepted
  cases parsed
  obtain ⟨sent, outcome, after, reaches, contacts, ends, returns⟩ :=
    proxied [("B", "2"), ("X-A", "1")] (.swap ..)
  obtain ⟨answer, rfl, back⟩ := returns [("ETag", "e"), ("X-Tag", "t")] reply [.error .aborted]
    (by unfold HeaderRecord.Distinct; decide) (.swap ..) rfl
  refine ⟨distinct, ⟨_, accepted⟩, sent, answer, after, contacts, ?_, ?_, ?_, ?_, ends,
    back.status_eq, back.body_eq, ?_⟩
  · rw [reaches.method_eq]
    decide
  · rw [reaches.url_eq]
    decide
  · exact (reaches.body_iff [7]).mpr ⟨rfl, List.cons_ne_nil 7 []⟩
  · exact reaches.headers_perm
  · exact back.headers_perm

end WebFetch
