import WebFetch.Completion
import WebFetch.Url.Parser

/-!
What the library cannot do by itself and takes from the program it is embedded in. A primitive that
answers later answers with its settlements: none, one or, of a host that misbehaves, several.
-/

set_option autoImplicit false

namespace WebFetch

/-- How the host answers a network call: what it logs on the way, and its settlements. -/
structure NetworkReply where
  logs : List (Level × String)
  settlements : List (Outcome Inbound)

/-- The capabilities of a host. The network sees which signals are cancelled. -/
structure Host where
  encode : String → Bytes
  decode : Bytes → List (Outcome String)
  network : (isCancelled : Signal → Bool) → Outbound → NetworkReply
  parseUrl : String → Outcome Url
  joinUrl : (base : Url) → String → Outcome Url

namespace Host

/-- Decodes bytes and waits for the text. -/
def decodeText (host : Host) (bytes : Bytes) : Run (Outcome String) :=
  Channel.await "decode" (host.decode bytes)

/-- Hands a request to the network and waits for the result. -/
def fetchOutbound (host : Host) (request : Outbound) : Run (Outcome Inbound) := do
  record (.contacted request)
  let reply := host.network (← get).isCancelled request
  for (level, text) in reply.logs do
    log level text
  Channel.await "network_fetch" reply.settlements

/-- Parses a URL, against a base if there is one. -/
def resolveUrl (host : Host) (text : String) (base : Option String) : Outcome Url :=
  match base with
  | some base => do host.joinUrl (← host.parseUrl base) text
  | none => host.parseUrl text

end Host

end WebFetch
