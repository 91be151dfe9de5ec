import WebFetch.Proofs.Request.Construction
import WebFetch.Proofs.Request.Sending

/-!
Messages whose bodies are read, sent and cloned in any order. Only the first reading of a body gives
anything, and what it gives is settled by the payload; after it the body counts as used, whatever
came of it. Nothing that is done to one message is seen in another.
-/

set_option autoImplicit false

namespace WebFetch

inductive Message where
  | request (r : Request)
  | response (r : Response)

namespace Message

def body : Message → Body
  | request r => r.body
  | response r => r.body

def withBody : Message → Body → Message
  | request r, b => .request (r.withBody b)
  | response r, b => .response (r.withBody b)

/-- What is done to a message. Only requests are sent. -/
inductive Action where
  | arrayBuffer
  | text
  | json
  | clone
  | send

inductive Answer where
  | bytes (result : Except FetchError Bytes)
  | text (result : Except FetchError String)
  | json (result : Except FetchError Json.Value)
  | clone (result : Except FetchError Message)
  | sent (result : Except FetchError Response)
  | nothing

def Action.failed : Action → FetchError → Answer
  | .arrayBuffer, e => .bytes (.error e)
  | .text, e => .text (.error e)
  | .json, e => .json (.error e)
  | .clone, e => .clone (.error e)
  | .send, e => .sent (.error e)

def Answer.copy? : Answer → Option Message
  | .clone (.ok copy) => some copy
  | _ => none

/-- The reads, and sending a body that is not empty. -/
def reads (m : Message) : Action → Bool
  | .arrayBuffer | .text | .json => true
  | .clone => false
  | .send =>
    match m with
    | .request r => !r.body.isEmpty
    | .response _ => false

def act (host : Host) : Message → Action → Run (Answer × Message)
  | .request r, .arrayBuffer =>
    let (result, r) := r.arrayBuffer
    return (.bytes result, .request r)
  | .request r, .text => do
    let (result, r) ← r.text host
    return (.text result, .request r)
  | .request r, .json => do
    let (result, r) ← r.json host
    return (.json result, .request r)
  | .request r, .clone => do return (.clone ((← r.clone host).map .request), .request r)
  | .request r, .send => do
    let (result, r) ← r.send host
    return (.sent result, .request r)
  | .response r, .arrayBuffer =>
    let (result, r) := r.arrayBuffer
    return (.bytes result, .response r)
  | .response r, .text => do
    let (result, r) ← r.text host
    return (.text result, .response r)
  | .response r, .json => do
    let (result, r) ← r.jsonBody host
    return (.json result, .response r)
  | .response r, .clone => return (.clone (r.clone.map .response), .response r)
  | .response r, .send => return (.nothing, .response r)

/-- What a first reading gives and what the host gets to see of it, by the payload alone. A request
    that is sent shows its fields and hands over the very bytes of its payload. -/
inductive Delivers (host : Host) (s : Session) (m : Message) :
    Action → Answer → List Outbound → Prop where
  | arrayBuffer : Delivers host s m .arrayBuffer (.bytes m.body.payload.data) []
  | text : Delivers host s m .text (.text (m.body.payload.decoded host)) []
  | json : Delivers host s m .json (.json (m.body.payload.parsed host)) []
  | send {r : Request} {content : Bytes} {request : Outbound} (owner : m = .request r)
      (payload : r.body.payload = .bytes content) (handed : request.body = some content)
      (shown : r.Shows s request) :
      Delivers host s m .send
        (.sent (((host.answered s request).mapError .host).map .ofInbound)) [request]
  | sendFailed {r : Request} {cause : HostError} (owner : m = .request r)
      (payload : r.body.payload = .failed cause) :
      Delivers host s m .send (.sent (.error (.host cause))) []

/-! ## One action -/

section Step

variable {m : Message} {host : Host} {s : Session}

theorem act_arrayBuffer :
    act host m .arrayBuffer s =
      ((.bytes m.body.arrayBuffer.1, m.withBody m.body.arrayBuffer.2), s) := by
  cases m with
  | request r => rfl
  | response r => rfl

theorem act_text :
    act host m .text s =
      ((.text (m.body.text host s).1.1, m.withBody (m.body.text host s).1.2),
        (m.body.text host s).2) := by
  cases m with
  | request r => rfl
  | response r => rfl

theorem act_json :
    act host m .json s =
      ((.json (m.body.json host s).1.1, m.withBody (m.body.json host s).1.2),
        (m.body.json host s).2) := by
  cases m with
  | request r => rfl
  | response r => rfl

theorem act_send {r : Request} :
    act host (.request r) .send s =
      ((.sent (r.send host s).1.1, .request (r.send host s).1.2), (r.send host s).2) := rfl

@[simp] theorem withBody_body : m.withBody m.body = m := by
  cases m with
  | request r => rfl
  | response r => rfl

theorem withBody_withBody (b b' : Body) : (m.withBody b).withBody b' = m.withBody b' := by
  cases m with
  | request r => rfl
  | response r => rfl

theorem body_withBody (b : Body) : (m.withBody b).body = b := by
  cases m with
  | request r => rfl
  | response r => rfl

theorem reads_send_iff {r : Request} :
    (request r).reads .send = true ↔ r.body.payload ≠ .empty := by
  rw [ne_eq, ← Body.isEmpty_iff, reads, Bool.not_eq_true', Bool.not_eq_true]

theorem empty_of_not_reads_send {r : Request} (h : (request r).reads .send = false) :
    r.body.payload = .empty := by
  by_cases empty : r.body.payload = .empty
  · exact empty
  · rw [reads_send_iff.mpr empty] at h
    cases h

theorem act_of_used (h : m.body.used = true) {a : Action} (reading : m.reads a = true) :
    act host m a s = ((a.failed .consumption, m), s) := by
  cases a with
  | arrayBuffer =>
    rw [act_arrayBuffer, Body.arrayBuffer_of_used h, withBody_body]
    rfl
  | text =>
    rw [act_text, Body.text_of_used h, withBody_body]
    rfl
  | json =>
    rw [act_json, Body.json_of_used h, withBody_body]
    rfl
  | clone => cases reading
  | send =>
    cases m with
    | response r => cases reading
    | request r =>
      have full := reads_send_iff.mp reading
      rw [act_send, Request.send_of_error (Request.takeBody_of_used full h)]
      rfl

/-- The first reading marks the body and gives what the payload has. -/
theorem act_of_unused (h : m.body.used = false) {a : Action} (reading : m.reads a = true)
    (host : Host) (s : Session) :
    (act host m a s).1.2 = m.withBody ⟨m.body.payload, true⟩ ∧
      ∃ requests, Delivers host s m a (act host m a s).1.1 requests ∧
        s.Sends requests (act host m a s).2 := by
  cases a with
  | arrayBuffer =>
    rw [act_arrayBuffer, Body.arrayBuffer_of_unused h]
    exact ⟨rfl, [], .arrayBuffer, .refl s⟩
  | text =>
    obtain ⟨read, logged⟩ := Body.text_of_unused h host s
    rw [act_text, read]
    exact ⟨rfl, [], .text, logged⟩
  | json =>
    obtain ⟨read, logged⟩ := Body.json_of_unused h host s
    rw [act_json, read]
    exact ⟨rfl, [], .json, logged⟩
  | clone => cases reading
  | send =>
    cases m with
    | response r => cases reading
    | request r =>
      have full := reads_send_iff.mp reading
      have taken := Request.takeBody_of_unused full h
      cases payload : r.body.payload with
      | empty => exact absurd payload full
      | failed cause =>
        rw [payload] at taken
        rw [act_send, Request.send_of_error taken, body, payload]
        exact ⟨rfl, [], .sendFailed rfl payload, .refl s⟩
      | bytes content =>
        rw [payload] at taken
        obtain ⟨answer, sent⟩ := Request.send_of_ok taken host s
        have shown : r.Shows s (r.outbound (s.url r.url) (some content)) :=
          Request.shows_outbound s (by simp [payload]) (by simp [payload])
        rw [act_send, answer, body, payload]
        exact ⟨rfl, _, .send rfl payload rfl shown, sent⟩

theorem act_of_no_reading {a : Action} (reading : m.reads a = false) :
    (act host m a s).1.2 = m := by
  cases a with
  | arrayBuffer | text | json => cases reading
  | clone =>
    cases m with
    | request r => rfl
    | response r => rfl
  | send =>
    cases m with
    | response r => rfl
    | request r =>
      obtain ⟨answer, _⟩ :=
        Request.send_of_ok (Request.takeBody_of_empty (empty_of_not_reads_send reading)) host s
      rw [act_send, answer]

theorem act_message (a : Action) :
    (act host m a s).1.2 = m.withBody ⟨m.body.payload, m.body.used || m.reads a⟩ := by
  cases hr : m.reads a with
  | false =>
    rw [act_of_no_reading hr, Bool.or_false]
    exact withBody_body.symm
  | true =>
    cases hu : m.body.used with
    | true =>
      rw [act_of_used hu hr, Bool.true_or, ← hu]
      exact withBody_body.symm
    | false =>
      rw [(act_of_unused hu hr host s).1, Bool.false_or]

/-- No other action than cloning makes a message. -/
theorem act_of_copy {a : Action} {copy : Message} (made : (act host m a s).1.1.copy? = some copy) :
    a = .clone := by
  cases a with
  | clone => rfl
  | arrayBuffer =>
    rw [act_arrayBuffer] at made
    cases made
  | text =>
    rw [act_text] at made
    cases made
  | json =>
    rw [act_json] at made
    cases made
  | send =>
    cases m with
    | request r => cases made
    | response r => cases made

/-- A clone begins with the same payload and unread, and there is none of a used body. -/
theorem act_copy {a : Action} {copy : Message} (made : (act host m a s).1.1.copy? = some copy) :
    m.body.used = false ∧ copy.body = ⟨m.body.payload, false⟩ := by
  have cloned := act_of_copy made
  subst cloned
  cases m with
  | request r =>
    change Answer.copy? (.clone ((r.clone host s).1.map .request)) = some copy at made
    cases hc : (r.clone host s).1 with
    | error e =>
      rw [hc] at made
      cases made
    | ok cloned =>
      rw [hc] at made
      cases made
      exact Body.copy_eq_ok_iff.mp (Request.body_of_clone hc)
  | response r =>
    change Answer.copy? (.clone ((r.body.copy.map fun b => { r with body := b }).map .response)) =
      some copy at made
    cases hc : r.body.copy with
    | error e =>
      rw [hc] at made
      cases made
    | ok copied =>
      rw [hc] at made
      cases made
      exact Body.copy_eq_ok_iff.mp hc

/-- No action writes to a cell, and only sending reaches the host. -/
theorem act_grows (a : Action) :
    ∃ requests, s.Grows requests (act host m a s).2 ∧ (a ≠ .send → requests = []) := by
  cases hr : m.reads a with
  | true =>
    cases hu : m.body.used with
    | true =>
      rw [act_of_used hu hr]
      exact ⟨[], .refl s, fun _ => rfl⟩
    | false =>
      obtain ⟨_, requests, delivered, sent⟩ := act_of_unused hu hr host s
      refine ⟨requests, .of_sends sent, fun other => ?_⟩
      generalize (act host m a s).1.1 = answer at delivered
      cases delivered with
      | arrayBuffer | text | json | sendFailed => rfl
      | send => exact absurd rfl other
  | false =>
    cases a with
    | arrayBuffer | text | json => cases hr
    | clone =>
      refine ⟨[], ?_, fun _ => rfl⟩
      cases m with
      | request r => exact Request.create_grows host (.request r) .empty s
      | response r => exact .refl s
    | send =>
      cases m with
      | response r => exact ⟨[], .refl s, fun _ => rfl⟩
      | request r =>
        obtain ⟨_, sent⟩ :=
          Request.send_of_ok (Request.takeBody_of_empty (empty_of_not_reads_send hr)) host s
        exact ⟨_, .of_sends sent, fun other => absurd rfl other⟩

theorem act_url (a : Action) {u : UrlRef} (known : s.HasUrl u) :
    (act host m a s).2.url u = s.url u := by
  obtain ⟨_, grown, _⟩ := act_grows a
  exact (grown.keeps u known).2

end Step

/-! ## Runs -/

/-- The messages after an action on the `i`th. A clone that was made comes behind all of them. -/
def after (messages : List Message) (i : Nat) (outcome : Answer × Message) : List Message :=
  messages.set i outcome.2 ++ outcome.1.copy?.toList

/-- The actions that have led from some messages to others, each with the number of the message that
    it was done to. Between two of them anything may happen to the session. -/
inductive Reaches (host : Host) (start : List Message) :
    List (Nat × Action) → List Message → Prop where
  | start : Reaches host start [] start
  | act {history : List (Nat × Action)} {messages : List Message} {i : Nat} {m : Message}
      (before : Reaches host start history messages) (found : messages[i]? = some m) (a : Action)
      (s : Session) : Reaches host start (history ++ [(i, a)]) (after messages i (act host m a s).1)

/-- The body of the `i`th message was read before the run or in it. -/
def spent (start : List Message) (history : List (Nat × Action)) (i : Nat) (m : Message) : Bool :=
  (start[i]?.any fun first => first.body.used) ||
    history.any fun entry => entry.1 == i && m.reads entry.2

theorem reads_withBody (m : Message) (used : Bool) :
    (m.withBody ⟨m.body.payload, used⟩).reads = m.reads := by
  funext a
  cases m with
  | request r => cases a <;> rfl
  | response r => cases a <;> rfl

theorem spent_withBody (start : List Message) (history : List (Nat × Action)) (i : Nat)
    (m : Message) (used : Bool) :
    spent start history i (m.withBody ⟨m.body.payload, used⟩) = spent start history i m := by
  rw [spent, reads_withBody]
  rfl

theorem spent_concat (start : List Message) (history : List (Nat × Action)) (i j : Nat)
    (a : Action) (m : Message) :
    spent start (history ++ [(j, a)]) i m = (spent start history i m || (j == i && m.reads a)) := by
  rw [spent, spent, List.any_append, List.any_cons, List.any_nil, Bool.or_false, Bool.or_assoc]

section After

variable {messages : List Message} {i k : Nat} {m : Message} {outcome : Answer × Message}

theorem lt_length_of_found (found : messages[i]? = some m) : i < messages.length :=
  (List.getElem?_eq_some_iff.mp found).choose

theorem length_le_after : messages.length ≤ (after messages i outcome).length := by
  rw [after, List.length_append, List.length_set]
  exact Nat.le_add_right _ _

theorem getElem?_after_self (found : messages[i]? = some m) :
    (after messages i outcome)[i]? = some outcome.2 := by
  have h := lt_length_of_found found
  rw [after, List.getElem?_append_left (by rw [List.length_set]; exact h),
    List.getElem?_set_self h]

theorem getElem?_after_of_ne (other : k ≠ i) (h : k < messages.length) :
    (after messages i outcome)[k]? = messages[k]? := by
  rw [after, List.getElem?_append_left (by rw [List.length_set]; exact h),
    List.getElem?_set_ne (Ne.symm other)]

theorem copy_of_getElem?_after (h : messages.length ≤ k)
    (found : (after messages i outcome)[k]? = some m) :
    outcome.1.copy? = some m := by
  rw [after, List.getElem?_append_right (by rw [List.length_set]; exact h)] at found
  cases hc : outcome.1.copy? with
  | none =>
    rw [hc] at found
    cases found
  | some copy =>
    rw [hc] at found
    exact congrArg some (List.mem_singleton.mp (List.mem_of_getElem? found)).symm

end After

/-- What a history says about the messages that it has led to. -/
structure Follows (start : List Message) (history : List (Nat × Action))
    (messages : List Message) : Prop where
  grown : start.length ≤ messages.length
  known : ∀ entry, entry ∈ history → entry.1 < messages.length
  kept : ∀ (i : Nat) (first : Message), start[i]? = some first →
    messages[i]? = some (first.withBody ⟨first.body.payload, spent start history i first⟩)
  used : ∀ (i : Nat) (m : Message), messages[i]? = some m → m.body.used = spent start history i m

theorem follows_start (start : List Message) : Follows start [] start := by
  have begins (i : Nat) (m : Message) (found : start[i]? = some m) :
      spent start [] i m = m.body.used := by
    rw [spent, found]
    simp
  constructor
  · exact Nat.le_refl _
  · intro entry h
    cases h
  · intro i first found
    rw [begins i first found, found]
    exact congrArg some withBody_body.symm
  · intro i m found
    exact (begins i m found).symm

/-- A number that no message has yet was not in the history, so that a clone begins unspent. -/
theorem Follows.unspent {start messages : List Message} {history : List (Nat × Action)}
    (f : Follows start history messages) {k : Nat} (h : messages.length ≤ k) (m : Message) :
    spent start history k m = false := by
  have none_ : start[k]? = none := List.getElem?_eq_none (Nat.le_trans f.grown h)
  rw [spent, none_]
  change (history.any fun entry => entry.1 == k && m.reads entry.2) = false
  rw [List.any_eq_false]
  intro entry he hk
  have lt := f.known entry he
  rw [Bool.and_eq_true, beq_iff_eq] at hk
  omega

theorem Follows.act {host : Host} {start messages : List Message} {history : List (Nat × Action)}
    {i : Nat} {m : Message} (f : Follows start history messages) (found : messages[i]? = some m)
    (a : Action) (s : Session) :
    Follows start (history ++ [(i, a)]) (after messages i (act host m a s).1) := by
  have present := lt_length_of_found found
  have own : (Message.act host m a s).1.2 =
      m.withBody ⟨m.body.payload, m.body.used || m.reads a⟩ := act_message a
  constructor
  · exact Nat.le_trans f.grown length_le_after
  · intro entry h
    refine Nat.lt_of_lt_of_le ?_ length_le_after
    rcases List.mem_append.mp h with old | new
    · exact f.known entry old
    · rw [List.mem_singleton.mp new]
      exact present
  -- What the start gave: only the message that is acted on can get a mark.
  · intro k first begun
    have before := f.kept k first begun
    rw [spent_concat]
    by_cases hk : k = i
    · subst hk
      rw [found] at before
      cases Option.some.inj before
      rw [getElem?_after_self found, own, reads_withBody, body_withBody, beq_self_eq_true,
        Bool.true_and, withBody_withBody]
    · have h : k < messages.length := lt_length_of_found before
      rw [getElem?_after_of_ne hk h, before, beq_eq_false_iff_ne.mpr (Ne.symm hk), Bool.false_and,
        Bool.or_false]
  -- What is there now: the message itself, one of the others, or the clone behind them.
  · intro k other hother
    rw [spent_concat]
    by_cases h : k < messages.length
    · by_cases hk : k = i
      · subst hk
        rw [getElem?_after_self found, own] at hother
        cases Option.some.inj hother
        rw [body_withBody, spent_withBody, reads_withBody, f.used k m found, beq_self_eq_true,
          Bool.true_and]
      · rw [getElem?_after_of_ne hk h] at hother
        rw [f.used k other hother, beq_eq_false_iff_ne.mpr (Ne.symm hk), Bool.false_and,
          Bool.or_false]
    · have late : messages.length ≤ k := Nat.le_of_not_lt h
      have fresh := (act_copy (copy_of_getElem?_after late hother)).2
      have ne : i ≠ k := by omega
      rw [fresh, f.unspent late, beq_eq_false_iff_ne.mpr ne, Bool.false_and, Bool.or_false]

theorem Reaches.follows {host : Host} {start messages : List Message}
    {history : List (Nat × Action)} (run : Reaches host start history messages) :
    Follows start history messages := by
  induction run with
  | start => exact follows_start start
  | act _ found a s ih => exact ih.act found a s

theorem getElem?_after_copy {messages : List Message} {i : Nat} {outcome : Answer × Message}
    {copy : Message} (made : outcome.1.copy? = some copy) :
    (after messages i outcome)[messages.length]? = some copy := by
  have length_eq : (messages.set i outcome.2).length = messages.length := List.length_set
  rw [after, made, ← length_eq]
  exact List.getElem?_concat_length

/-- Whatever is done to some messages in whatever order, each one stays what it was at the start but
    for the mark that its own readings have left; its payload and its buffer never change. A reading
    of an unmarked body gives what the payload has, and leaves the mark. Every later one fails and
    leaves the host alone. A clone has the payload of its original, is unread and comes behind all
    messages, and no action reaches any other message or the URL of one. -/
theorem first_reading_only {host : Host} {start messages : List Message}
    {history : List (Nat × Action)} (run : Reaches host start history messages) {i : Nat}
    {m : Message} (found : messages[i]? = some m) (a : Action) (s : Session) :
    let outcome := act host m a s
    let next := after messages i outcome.1
    (∀ first : Message, start[i]? = some first →
      m = first.withBody ⟨first.body.payload, spent start history i first⟩ ∧
        m.body.buffer? = first.body.buffer?) ∧
    m.body.used = spent start history i m ∧
    (m.reads a = true → spent start history i m = true →
      outcome = ((a.failed .consumption, m), s)) ∧
    (m.reads a = true → spent start history i m = false →
      ∃ requests, Delivers host s m a outcome.1.1 requests ∧
        outcome.2.contacts = s.contacts ++ requests) ∧
    next[i]? = some (m.withBody ⟨m.body.payload, m.body.used || m.reads a⟩) ∧
    (∀ copy, outcome.1.1.copy? = some copy →
      next[messages.length]? = some copy ∧ copy.body = ⟨m.body.payload, false⟩) ∧
    (∀ k, k ≠ i → k < messages.length → next[k]? = messages[k]?) ∧
    (∀ u, s.HasUrl u → outcome.2.url u = s.url u) := by
  intro outcome next
  have f := run.follows
  have used := f.used i m found
  refine ⟨?_, used, ?_, ?_, ?_, ?_, ?_, ?_⟩
  · intro first begun
    have own := Option.some.inj (found.symm.trans (f.kept i first begun))
    refine ⟨own, ?_⟩
    rw [own, body_withBody]
    rfl
  · intro reading h
    exact act_of_used (used.trans h) reading
  · intro reading h
    obtain ⟨_, requests, delivered, sent⟩ := act_of_unused (used.trans h) reading host s
    exact ⟨requests, delivered, sent.contacts⟩
  · rw [← act_message a]
    exact getElem?_after_self found
  · intro copy made
    exact ⟨getElem?_after_copy made, (act_copy made).2⟩
  · intro k other h
    exact getElem?_after_of_ne other h
  · intro u known
    exact act_url a known

/-- A request is cloned, and read through a host that cannot decode. Sending it then reaches
    nobody. -/
theorem first_reading_only_failed_decode :
    let host : Host := ⟨Utf8.encode, fun _ => [.error .aborted], fun _ _ => ⟨[], []⟩,
      fun _ => .error .aborted, fun _ _ => .error .aborted⟩
    let r (used : Bool) (u : UrlRef) : Message :=
      .request ⟨⟨"POST", ⟨.bytes [104, 105], used⟩, .empty, .follow, none, none, .unset⟩, u⟩
    let history : List (Nat × Action) := [(0, .clone), (0, .text)]
    Reaches host [r false ⟨0⟩] history [r true ⟨0⟩, r false ⟨0⟩] ∧
      (r true ⟨0⟩).reads .send = true ∧ spent [r false ⟨0⟩] history 0 (r true ⟨0⟩) = true ∧
      act host (r true ⟨0⟩) .send Session.empty =
        ((.sent (.error .consumption), r true ⟨0⟩), Session.empty) := by
  intro host r history
  have cloned : Reaches host [r false ⟨0⟩] [(0, .clone)] [r false ⟨0⟩, r false ⟨0⟩] :=
    @Reaches.act host _ [] _ 0 (r false ⟨0⟩) .start rfl .clone Session.empty
  have read : Reaches host [r false ⟨0⟩] history [r true ⟨0⟩, r false ⟨0⟩] :=
    @Reaches.act host _ _ _ 0 (r false ⟨0⟩) cloned rfl .text Session.empty
  have found : [r true ⟨0⟩, r false ⟨0⟩][0]? = some (r true ⟨0⟩) := rfl
  refine ⟨read, rfl, rfl, ?_⟩
  exact (first_reading_only read found .send Session.empty).2.2.1 rfl rfl

end Message

end WebFetch
