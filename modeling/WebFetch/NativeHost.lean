import WebFetch.Config
import WebFetch.Headers.Wire
import WebFetch.Host

/-!
The ready-made host: URLs and text by their standards, and network calls that are checked before
they reach a transport.
-/

set_option autoImplicit false

namespace WebFetch

/-- A request that has passed the checks. -/
structure WireRequest where
  method : String
  url : String
  headers : HeaderMap
  body : Option Bytes

/-- Where calls are made: a runtime to run them on, and what carries them. -/
structure Transport where
  hasRuntime : Bool
  carry : WireRequest → Outcome Inbound

namespace NativeHost

/-- Strict decoding where it succeeds, and else decoding with replacement characters. -/
def decodeText (bytes : Bytes) : String := (Utf8.decode? bytes).getD (Utf8.decodeLossy bytes)

/-- Puts a request into the form in which it is sent, unless its method or its headers cannot be. -/
def write (request : Outbound) : Attempt (Outcome WireRequest) :=
  if !isToken request.method then .returned (.error .method)
  else match HeaderMap.ofHeaders (Headers.ofRecord request.headers) with
    | .panicked panic => .panicked panic
    | .returned (.error fault) => .returned (.error (.header fault))
    | .returned (.ok headers) =>
      .returned (.ok ⟨request.method, request.url, headers, request.body⟩)

/-- Where the task of a call is: it has not run yet, waits for the transport, or is over. -/
inductive Stage where
  | spawned
  | waiting (wire : WireRequest)
  | ended

/-- A call of the network, with what it has done so far. -/
structure Call where
  request : Outbound
  stage : Stage
  logs : List (Level × String)
  carried : List WireRequest
  settlements : List (Outcome Inbound)

/-- What a task finds when it is polled: the signals that are cancelled, and what has come of the
    requests that the transport carries. -/
structure Moment where
  isCancelled : Signal → Bool
  arrived : WireRequest → Option (Outcome Inbound)

namespace Call

def settle (outcome : Outcome Inbound) (call : Call) : Call :=
  { call with stage := .ended, settlements := call.settlements ++ [outcome] }

/-- The end of a task that panics. What it holds goes with it, the completion of the call too, which
    so is dropped without a settlement. -/
def unwind (call : Call) : Call := { call with stage := .ended }

/-- Hands the request to the transport. -/
def carry (wire : WireRequest) (call : Call) : Call :=
  { call with
    stage := .waiting wire
    logs := call.logs ++ [(.debug, "native host: " ++ wire.method ++ " " ++ wire.url)]
    carried := call.carried ++ [wire] }

def receive (moment : Moment) (wire : WireRequest) (call : Call) : Call :=
  match moment.arrived wire with
  | some outcome => call.settle outcome
  | none => call

/-- Spawns a task. Without a runtime to run it, the call fails at once. -/
def start (hasRuntime : Bool) (request : Outbound) : Call :=
  let call : Call := ⟨request, .spawned, [], [], []⟩
  if hasRuntime then call else call.settle (.error .noRuntime)

/-- One poll of the task. The signal comes before everything else, each time. -/
def poll (moment : Moment) (call : Call) : Call :=
  match call.stage with
  | .spawned =>
    if call.request.signal.any moment.isCancelled then call.settle (.error .aborted)
    else match write call.request with
      | .panicked _ => call.unwind
      | .returned (.error e) => call.settle (.error e)
      | .returned (.ok wire) => (call.carry wire).receive moment wire
  | .waiting wire =>
    if call.request.signal.any moment.isCancelled then call.settle (.error .aborted)
    else call.receive moment wire
  | .ended => call

end Call

/-- A call whose task is polled once; the transport has its answer right away. -/
def network (transport : Transport) (isCancelled : Signal → Bool) (request : Outbound) :
    NetworkReply :=
  let moment : Moment := ⟨isCancelled, fun wire => some (transport.carry wire)⟩
  let call := (Call.start transport.hasRuntime request).poll moment
  ⟨call.logs, call.settlements⟩

/-- The host over a transport. -/
def overTransport (transport : Transport) : Host where
  encode := Utf8.encode
  decode bytes := [.ok (decodeText bytes)]
  network := network transport
  parseUrl text := (Url.parse text).mapError HostError.url
  joinUrl base text :=
    match Url.parse base.href with
    | .ok base => (base.join text).mapError HostError.url
    | .error e => .error (.url e)

/-- Settings with which a client can be built: the user agent has to be a header value. -/
def acceptConfig (config : HostConfig) : Outcome HostConfig :=
  if isHeaderValue config.userAgent then .ok config else .error .client

end NativeHost

end WebFetch
