import Mathlib.Data.Nat.Find
import WebFetch.NativeHost
import WebFetch.Proofs.Headers.Wire
import WebFetch.Proofs.Host

/-!
Calls of the ready-made host. A call that has no runtime to run on fails before any task is spawned;
the first poll of the task looks at the signal, then at the method and the headers; and only what
has passed all of this is handed to the transport. Later polls find a call that is over, or wait for
the transport and the signal, so that no call is ever settled twice. A request with more headers
than a map can hold may pass the first three checks, and then its task panics and drops the call.
-/

set_option autoImplicit false

namespace WebFetch.NativeHost

/-- What speaks against a request, in the order in which it is looked at, with the error. The
    headers are those of the record as it is walked, and they are looked at if there is room for
    them in a map. -/
inductive Refuses (hasRuntime : Bool) (isCancelled : Signal → Bool) (request : Outbound) :
    Nat → HostError → Prop where
  | noRuntime (missing : hasRuntime = false) : Refuses hasRuntime isCancelled request 1 .noRuntime
  | aborted {signal : Signal} (given : request.signal = some signal)
      (cancelled : isCancelled signal = true) : Refuses hasRuntime isCancelled request 2 .aborted
  | method (bad : isToken request.method = false) :
      Refuses hasRuntime isCancelled request 3 .method
  | header {front back : Entries} {entry : String × String} {fault : Invalid}
      (fits : request.headers.length ≤ HeaderMap.maxEntries)
      (split : (Headers.ofRecord request.headers).entries = front ++ entry :: back)
      (sendable : ∀ sent ∈ front, Headers.Sendable sent) (faulty : Headers.Faulty entry fault) :
      Refuses hasRuntime isCancelled request 4 (.header fault)

variable {hasRuntime : Bool} {isCancelled : Signal → Bool} {request : Outbound}

/-! ## Refusals -/

namespace Call

def failed (request : Outbound) (e : HostError) : Call := ⟨request, .ended, [], [], [.error e]⟩

/-- A call whose task has panicked before anything was sent. -/
def lost (request : Outbound) : Call := ⟨request, .ended, [], [], []⟩

/-- A call that the transport carries and has no answer to. -/
def sent (request : Outbound) (wire : WireRequest) : Call :=
  ⟨request, .waiting wire, [(.debug, "native host: " ++ wire.method ++ " " ++ wire.url)],
    [wire], []⟩

variable {moment : Moment}

def polled (call : Call) (moments : List Moment) : Call :=
  moments.foldl (fun call moment => call.poll moment) call

theorem poll_of_ended {call : Call} (ended : call.stage = .ended) (moment : Moment) :
    call.poll moment = call := by
  rw [poll, ended]

/-- The request has been handed over, once; the call is open, or settled, once. -/
structure Carries (wire : WireRequest) (call : Call) : Prop where
  carried_eq : call.carried = [wire]
  once : call.stage = .waiting wire ∧ call.settlements = [] ∨
    call.stage = .ended ∧ ∃ outcome, call.settlements = [outcome]

variable {wire : WireRequest} {call : Call}

theorem Carries.settle (carries : call.Carries wire) (fresh : call.settlements = [])
    (outcome : Outcome Inbound) : (call.settle outcome).Carries wire where
  carried_eq := carries.carried_eq
  once := .inr ⟨rfl, outcome, by simp [Call.settle, fresh]⟩

theorem Carries.receive (carries : call.Carries wire) (fresh : call.settlements = [])
    (moment : Moment) : (call.receive moment wire).Carries wire := by
  rw [Call.receive]
  cases moment.arrived wire with
  | none => exact carries
  | some outcome => exact carries.settle fresh outcome

theorem Carries.poll (carries : call.Carries wire) (moment : Moment) :
    (call.poll moment).Carries wire := by
  obtain ⟨waiting, fresh⟩ | ⟨ended, _⟩ := carries.once
  · rw [Call.poll, waiting]
    cases call.request.signal.any moment.isCancelled with
    | true => exact carries.settle fresh _
    | false => exact carries.receive fresh moment
  · rw [poll_of_ended ended]
    exact carries

theorem Carries.polled (carries : call.Carries wire) (moments : List Moment) :
    (call.polled moments).Carries wire := by
  induction moments generalizing call with
  | nil => exact carries
  | cons moment moments ih => exact ih (carries.poll moment)

end Call

/-! ## Calls in a session -/

end WebFetch.NativeHost
