import WebFetch.Dispatch
import WebFetch.Proofs.Body.Reading
import WebFetch.Proofs.Headers.Record

/-!
What the host can rely on when it hands over a request. Whatever the handler does, the callback is
called once, with a whole result or with one error, and the handler is called once if the request
can be made and never otherwise. The result is one exactly if the handler has resolved to a response
whose body is empty or still holds its bytes.
-/

set_option autoImplicit false

namespace WebFetch

/-! ## Handlers, poll by poll -/

/-- Code of the user, with a state of its own. -/
abbrev Program (σ : Type) := StateT σ Run

/-- What a handler gives to be awaited. A poll that leaves it pending changes the state, and may
    settle by what it saw what the next poll does. -/
inductive Future (σ : Type) where
  | ended (result : Attempt HandlerResult)
  | polled (effect : σ → Session → σ × Session) (next : σ → Session → Future σ)

def Future.await {σ : Type} : Future σ → Program σ (Attempt HandlerResult)
  | .ended result => fun w s => ((result, w), s)
  | .polled effect next => fun w s => (next w s).await (effect w s).1 (effect w s).2

abbrev PolledHandler (σ : Type) := Request → Program σ (Attempt (Future σ))

/-- The ways in which a handler can end. -/
inductive Ending where
  | callPanicked (panic : Panic)
  | pollPanicked (panic : Panic)
  | failed (failure : String)
  | resolved (output : HandlerOutput)

def Ending.ofAwaited : Attempt HandlerResult → Ending
  | .panicked panic => .pollPanicked panic
  | .returned (.error failure) => .failed failure
  | .returned (.ok output) => .resolved output

/-- How a handler ends that is called with a request in some state. -/
def PolledHandler.ending {σ : Type} (handler : PolledHandler σ) (request : Request) (w : σ)
    (s : Session) : Ending :=
  match handler request w s with
  | ((.panicked panic, _), _) => .callPanicked panic
  | ((.returned future, w), s) => .ofAwaited (future.await w s).1.1

/-! ## Counting the calls -/

inductive Call where
  | handler (request : Request)
  | callback (outcome : Except FetchError DispatchResult)

abbrev Counted (σ : Type) := StateT (List Call) (Program σ)

section Counting

variable {σ : Type}

def countHandler (handler : PolledHandler σ) : Handler (Counted σ) := fun request => do
  modify fun calls => calls ++ [.handler request]
  match ← (handler request : Counted σ (Attempt (Future σ))) with
  | .panicked panic => return .panicked panic
  | .returned future => return .returned (future.await : Counted σ (Attempt HandlerResult))

def countCallback (complete : Except FetchError DispatchResult → Program σ Unit)
    (outcome : Except FetchError DispatchResult) : Counted σ Unit := do
  modify fun calls => calls ++ [.callback outcome]
  (complete outcome : Counted σ Unit)

/-- The calls of a dispatch that begins in some state, behind those that were counted before. -/
def callsOf (host : Host) (handler : PolledHandler σ) (raw : RawRequest)
    (complete : Except FetchError DispatchResult → Program σ Unit) (calls : List Call) (w : σ)
    (s : Session) : List Call :=
  (dispatch host (countHandler handler) raw (countCallback complete) calls w s).1.1.2

end Counting

/-! ## What the callback gets -/

/-- What the callback gets for the way in which the handler has ended. -/
inductive Answers : Ending → Except FetchError DispatchResult → Prop where
  | callPanicked (panic : Panic) :
      Answers (.callPanicked panic) (.error (.userHandler ("handler panicked: " ++ panic.message)))
  | pollPanicked (panic : Panic) :
      Answers (.pollPanicked panic) (.error (.userHandler ("handler panicked: " ++ panic.message)))
  | failed (failure : String) : Answers (.failed failure) (.error (.userHandler failure))
  | noResponse (typeName : String) :
      Answers (.resolved (.other typeName)) (.error (.contractViolation typeName))
  | empty {r : Response} {record : HeaderRecord} (payload : r.body.payload = .empty)
      (joined : record.Joins r.headers) :
      Answers (.resolved (.response r)) (.ok ⟨r.status, record, none⟩)
  | bytes {r : Response} {record : HeaderRecord} {content : Bytes}
      (payload : r.body.payload = .bytes content) (unread : r.body.used = false)
      (joined : record.Joins r.headers) :
      Answers (.resolved (.response r)) (.ok ⟨r.status, record, some content⟩)
  | usedBody {r : Response} (payload : r.body.payload ≠ .empty) (used : r.body.used = true) :
      Answers (.resolved (.response r)) (.error .consumption)
  | failedBody {r : Response} {cause : HostError} (payload : r.body.payload = .failed cause)
      (unread : r.body.used = false) : Answers (.resolved (.response r)) (.error (.host cause))

def Response.Whole (r : Response) : Prop :=
  r.body.payload = .empty ∨ r.body.used = false ∧ ∃ content, r.body.payload = .bytes content

theorem answers_flatten (output : HandlerOutput) : Answers (.resolved output) (flatten output) := by
  cases output with
  | other typeName => exact .noResponse typeName
  | response r =>
    have joined := Headers.joins_toRecord r.headers
    unfold flatten
    dsimp only
    by_cases he : r.body.payload = .empty
    · rw [if_pos (Body.isEmpty_iff.mpr he)]
      exact .empty he joined
    · rw [if_neg (fun h => he (Body.isEmpty_iff.mp h)), Response.arrayBuffer]
      cases hu : r.body.used with
      | true =>
        rw [Body.arrayBuffer_of_used hu]
        exact .usedBody he hu
      | false =>
        rw [Body.arrayBuffer_of_unused hu]
        cases payload : r.body.payload with
        | empty => exact absurd payload he
        | bytes content => exact .bytes payload hu joined
        | failed cause => exact .failedBody payload hu

theorem Answers.isOk_iff {ending : Ending} {outcome : Except FetchError DispatchResult}
    (h : Answers ending outcome) :
    (∃ result, outcome = .ok result) ↔ ∃ r, ending = .resolved (.response r) ∧ r.Whole := by
  cases h with
  | callPanicked panic | pollPanicked panic | failed failure | noResponse typeName => simp
  | empty payload joined => exact ⟨fun _ => ⟨_, rfl, .inl payload⟩, fun _ => ⟨_, rfl⟩⟩
  | bytes payload unread joined =>
    exact ⟨fun _ => ⟨_, rfl, .inr ⟨unread, _, payload⟩⟩, fun _ => ⟨_, rfl⟩⟩
  | usedBody payload used =>
    constructor
    · rintro ⟨result, h⟩
      cases h
    · rintro ⟨r, h, whole⟩
      cases h
      rcases whole with empty | ⟨unread, _⟩
      · exact absurd empty payload
      · cases used.symm.trans unread
  | failedBody payload unread =>
    constructor
    · rintro ⟨result, h⟩
      cases h
    · rintro ⟨r, h, whole⟩
      cases h
      rcases whole with empty | ⟨_, content, bytes⟩
      · cases payload.symm.trans empty
      · cases payload.symm.trans bytes

/-! ## Runs -/

section Runs

variable {σ : Type} {host : Host} {handler : PolledHandler σ}

theorem counted_bind {α β : Type} {first : Counted σ α} {next : α → Counted σ β}
    {calls calls' : List Call} {w w' : σ} {s s' : Session} {a : α}
    (h : first calls w s = (((a, calls'), w'), s')) :
    (first >>= next) calls w s = next a calls' w' s' := by
  change next (first calls w s).1.1.1 (first calls w s).1.1.2 (first calls w s).1.2
    (first calls w s).2 = _
  rw [h]

theorem counted_lift {α : Type} {program : Program σ α} {w w' : σ} {s s' : Session} {a : α}
    (h : program w s = ((a, w'), s')) (calls : List Call) :
    (program : Counted σ α) calls w s = (((a, calls), w'), s') := by
  show (match program w s with | ((a, w), s) => (((a, calls), w), s)) = _
  rw [h]

theorem counted_run {α : Type} {run : Run α} {s s' : Session} {a : α} (h : run s = (a, s'))
    (calls : List Call) (w : σ) :
    (run : Counted σ α) calls w s = (((a, calls), w), s') := by
  show (match run s with | (a, s) => (((a, calls), w), s)) = _
  rw [h]

theorem count_call (call : Call) (calls : List Call) (w : σ) (s : Session) :
    (modify (· ++ [call]) : Counted σ Unit) calls w s = ((((), calls ++ [call]), w), s) := rfl

theorem countHandler_of_panicked {request : Request} {w w' : σ} {s s' : Session} {panic : Panic}
    (h : handler request w s = ((.panicked panic, w'), s')) (calls : List Call) :
    countHandler handler request calls w s =
      (((.panicked panic, calls ++ [.handler request]), w'), s') := by
  unfold countHandler
  rw [counted_bind (count_call (.handler request) calls w s), counted_bind (counted_lift h _)]
  rfl

theorem countHandler_of_returned {request : Request} {w w' : σ} {s s' : Session}
    {future : Future σ} (h : handler request w s = ((.returned future, w'), s'))
    (calls : List Call) :
    countHandler handler request calls w s =
      (((.returned (future.await : Counted σ (Attempt HandlerResult)),
        calls ++ [.handler request]), w'), s') := by
  unfold countHandler
  rw [counted_bind (count_call (.handler request) calls w s), counted_bind (counted_lift h _)]
  rfl

/-- The handler is called once, and either panic ends at the barrier. -/
theorem callHandler_counted (handler : PolledHandler σ) (request : Request) (calls : List Call)
    (w : σ) (s : Session) :
    ∃ result w' s', callHandler (countHandler handler) request calls w s =
        (((result, calls ++ [.handler request]), w'), s') ∧
      Answers (handler.ending request w s) (result.bind flatten) := by
  unfold PolledHandler.ending callHandler
  rcases called : handler request w s with ⟨⟨attempt, w'⟩, s'⟩
  -- The first barrier: nothing is polled of a handler that panics when it is called.
  cases attempt with
  | panicked panic =>
    rw [counted_bind (countHandler_of_panicked called calls)]
    exact ⟨.error (.userHandler ("handler panicked: " ++ panic.message)), w',
      (reportPanic panic s').2, rfl, .callPanicked panic⟩
  | returned future =>
    rw [counted_bind (countHandler_of_returned called calls)]
    dsimp only
    rcases awaited : future.await w' s' with ⟨⟨attempt, w''⟩, s''⟩
    rw [counted_bind (counted_lift awaited _)]
    -- The second barrier, around all of the polls.
    cases attempt with
    | panicked panic =>
      exact ⟨.error (.userHandler ("handler panicked: " ++ panic.message)), w'',
        (reportPanic panic s'').2, rfl, .pollPanicked panic⟩
    | returned result =>
      cases result with
      | error failure => exact ⟨.error (.userHandler failure), w'', s'', rfl, .failed failure⟩
      | ok output => exact ⟨.ok output, w'', s'', rfl, answers_flatten output⟩

theorem answer_of_refused {raw : RawRequest} {s s' : Session} {e : FetchError}
    (h : Request.create host (.text raw.url) raw.init s = (.error e, s')) (calls : List Call)
    (w : σ) :
    answer host (countHandler handler) raw calls w s = (((.error e, calls), w), s') := by
  unfold answer
  rw [counted_bind (counted_run h calls w)]
  rfl

theorem answer_of_made {raw : RawRequest} {s s' : Session} {request : Request}
    (h : Request.create host (.text raw.url) raw.init s = (.ok request, s'))
    (handler : PolledHandler σ) (calls : List Call) (w : σ) :
    ∃ outcome w' s'', answer host (countHandler handler) raw calls w s =
        (((outcome, calls ++ [.handler request]), w'), s'') ∧
      Answers (handler.ending request w s') outcome := by
  obtain ⟨result, w', s'', run, answers⟩ :=
    callHandler_counted handler request calls w s'
  refine ⟨result.bind flatten, w', s'', ?_, answers⟩
  unfold answer
  rw [counted_bind (counted_run h calls w)]
  dsimp only
  rw [counted_bind run]
  rfl

theorem callsOf_of_answer {raw : RawRequest} {calls calls' : List Call} {w w' : σ} {s s' : Session}
    {outcome : Except FetchError DispatchResult}
    (h : answer host (countHandler handler) raw calls w s = (((outcome, calls'), w'), s'))
    (complete : Except FetchError DispatchResult → Program σ Unit) :
    callsOf host handler raw complete calls w s = calls' ++ [.callback outcome] := by
  unfold callsOf dispatch
  rw [counted_bind h]
  cases outcome with
  | ok result => rfl
  | error e => rfl

/-- A refused request ends in the callback alone. Any other goes to the handler, once, and then the
    callback gets what answers the way in which the handler has ended. -/
theorem dispatch_completes_once (host : Host) (handler : PolledHandler σ) (raw : RawRequest)
    (complete : Except FetchError DispatchResult → Program σ Unit) (calls : List Call) (w : σ)
    (s : Session) :
    match Request.create host (.text raw.url) raw.init s with
    | (.error e, _) =>
      callsOf host handler raw complete calls w s = calls ++ [.callback (.error e)]
    | (.ok request, s') =>
      ∃ outcome, callsOf host handler raw complete calls w s =
          calls ++ [.handler request, .callback outcome] ∧
        Answers (handler.ending request w s') outcome ∧
        ((∃ result, outcome = .ok result) ↔
          ∃ r, handler.ending request w s' = .resolved (.response r) ∧ r.Whole) := by
  rcases made : Request.create host (.text raw.url) raw.init s with ⟨result, s'⟩
  cases result with
  | error e => exact callsOf_of_answer (answer_of_refused made calls w) complete
  | ok request =>
    obtain ⟨outcome, w', s'', run, answers⟩ := answer_of_made made handler calls w
    refine ⟨outcome, ?_, answers, answers.isOk_iff⟩
    rw [callsOf_of_answer run complete, List.append_assoc]
    rfl

end Runs

end WebFetch
