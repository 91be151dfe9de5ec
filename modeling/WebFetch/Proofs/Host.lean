import WebFetch.Host
import WebFetch.Proofs.Completion.Settlement

/-!
Calls of the host that are waited for. Each one comes to the first settlement, and only a network
call contacts anybody.
-/

set_option autoImplicit false

namespace WebFetch.Host

def decoded (host : Host) (bytes : Bytes) : Outcome String :=
  Channel.awaitedOutcome "decode" (host.decode bytes)

/-- What the host answers to a request that it gets in a session. -/
def answered (host : Host) (s : Session) (request : Outbound) : Outcome Inbound :=
  Channel.awaitedOutcome "network_fetch" (host.network s.isCancelled request).settlements

theorem decodeText_fst (host : Host) (bytes : Bytes) (s : Session) :
    (host.decodeText bytes s).1 = host.decoded bytes := by
  rw [decodeText, Channel.await_run]
  rfl

theorem decodeText_sends (host : Host) (bytes : Bytes) (s : Session) :
    s.Sends [] (host.decodeText bytes s).2 :=
  Channel.await_sends "decode" (host.decode bytes) s

/-- Before the answer there is nothing new in the journal but the contact and what the host logs. -/
theorem fetchOutbound_run (host : Host) (request : Outbound) (s : Session) :
    let reply := host.network s.isCancelled request
    host.fetchOutbound request s = Channel.await "network_fetch" reply.settlements
      ((s.note [.contacted request]).note
        (reply.logs.map fun line => .logged line.1 .library line.2)) := by
  intro reply
  let logged := ((forIn reply.logs PUnit.unit fun line _ => do
      log line.1 line.2
      pure (ForInStep.yield PUnit.unit) : Run PUnit) (s.note [.contacted request])).2
  have opened : host.fetchOutbound request s =
      Channel.await "network_fetch" reply.settlements logged := rfl
  rw [opened, show logged = _ from congrArg Prod.snd (forIn_log_run reply.logs _)]

/-- A network call is one contact; then the host may log, and its first settlement counts. -/
theorem fetchOutbound_spec (host : Host) (request : Outbound) (s : Session) :
    (host.fetchOutbound request s).1 = host.answered s request ∧
      s.Sends [request] (host.fetchOutbound request s).2 := by
  rw [fetchOutbound_run]
  constructor
  · rw [Channel.await_run]
    rfl
  · have contacted : s.Sends [request] (s.note [.contacted request]) := ⟨_, rfl, rfl⟩
    exact (contacted.trans (logged_sends _ _)).trans (Channel.await_sends "network_fetch" _ _)

end WebFetch.Host
