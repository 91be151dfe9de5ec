import WebFetch.Fetch
import WebFetch.Panic

/-!
Inbound requests. The host describes a request, a handler answers it, and a callback gets the
outcome exactly once: the flattened response or the error that stopped it. The handler may panic
when it is called and again while its answer is awaited.
-/

set_option autoImplicit false

namespace WebFetch

/-- A request as the host describes it. No body and an empty one are the same. -/
structure RawRequest where
  method : String
  url : String
  headers : HeaderRecord
  body : Option Bytes

structure DispatchResult where
  status : Nat
  headers : HeaderRecord
  body : Option Bytes
  deriving DecidableEq

/-- What a handler resolves to: a response, or a value of another type, of which the name is
    known. -/
inductive HandlerOutput where
  | response (response : Response)
  | other (typeName : String)

def Panic.message : Panic → String
  | .text message => message
  | .opaqueValue => "non-string panic payload"

/-- The value of an awaited handler; a failure is known by its text. -/
abbrev HandlerResult := Except String HandlerOutput

/-- A handler in a monad `m`: called with a request, it panics or returns what is to be awaited,
    which again may panic. -/
abbrev Handler (m : Type → Type) := Request → m (Attempt (m (Attempt HandlerResult)))

namespace RawRequest

def init (raw : RawRequest) : RequestInit :=
  { RequestInit.empty with
    method := some raw.method
    headers := some (.ofRecord raw.headers)
    body := (raw.body.filter fun bytes => !bytes.isEmpty).map .bytes }

end RawRequest

def reportPanic (panic : Panic) : Run FetchError := do
  log .error ("dispatch: handler panicked: " ++ panic.message)
  return .userHandler ("handler panicked: " ++ panic.message)

/-- Calls the handler and awaits it, behind a barrier for either panic. -/
def callHandler {m : Type → Type} [Monad m] [MonadLiftT Run m] (handler : Handler m)
    (request : Request) : m (Except FetchError HandlerOutput) := do
  match ← handler request with
  | .panicked panic => return .error (← reportPanic panic)
  | .returned answer =>
    match ← answer with
    | .panicked panic => return .error (← reportPanic panic)
    | .returned (.error failure) => return .error (.userHandler failure)
    | .returned (.ok output) => return .ok output

/-- The response as the host gets it. An empty body is none, and any other is read. -/
def flatten : HandlerOutput → Except FetchError DispatchResult
  | .other typeName => .error (.contractViolation typeName)
  | .response r =>
    if r.body.isEmpty then .ok ⟨r.status, r.headers.toRecord, none⟩
    else r.arrayBuffer.1.map fun bytes => ⟨r.status, r.headers.toRecord, some bytes⟩

def answer {m : Type → Type} [Monad m] [MonadLiftT Run m] (host : Host) (handler : Handler m)
    (raw : RawRequest) : m (Except FetchError DispatchResult) := do
  match ← (Request.create host (.text raw.url) raw.init : Run _) with
  | .error e => return .error e
  | .ok request => return (← callHandler handler request).bind flatten

def logOutcome (raw : RawRequest) (outcome : Except FetchError DispatchResult) : Run Unit :=
  let call := "dispatch: " ++ raw.method ++ " " ++ raw.url
  match outcome with
  | .ok result => log .debug (call ++ " -> " ++ toString result.status)
  | .error e => log .warn (call ++ " failed: " ++ e.report)

/-- Answers a request and hands the outcome to the callback. -/
def dispatch {m : Type → Type} [Monad m] [MonadLiftT Run m] (host : Host) (handler : Handler m)
    (raw : RawRequest) (complete : Except FetchError DispatchResult → m Unit) : m Unit := do
  let outcome ← answer host handler raw
  logOutcome raw outcome
  complete outcome

end WebFetch
