import WebFetch.Request.Basic
import WebFetch.Response

/-!
Sending requests. The body is consumed before the host is contacted, the host is contacted at most
once, and its first answer decides.
-/

set_option autoImplicit false

namespace WebFetch

namespace Request

/-- The body as it is sent; an empty one is left out and stays unread. -/
def takeBody (r : Request) : Except FetchError (Option Bytes) × Request :=
  if r.body.isEmpty then (.ok none, r)
  else
    let (result, r) := r.arrayBuffer
    (result.map some, r)

/-- The request as the host gets it. -/
def outbound (r : Request) (url : Url) (body : Option Bytes) : Outbound :=
  ⟨r.method, url.href, r.headers.toRecord, body, r.signal⟩

/-- Sends a request through the host. -/
def send (host : Host) (r : Request) : Run (Except FetchError Response × Request) := do
  let (taken, r) := r.takeBody
  match taken with
  | .error e => return (.error e, r)
  | .ok body =>
    let request := r.outbound (← r.url.read) body
    log .debug ("fetch: " ++ request.method ++ " " ++ request.url)
    match ← host.fetchOutbound request with
    | .error e =>
      let url := (← r.url.read).href
      log .debug ("fetch: " ++ r.method ++ " " ++ url ++ " failed: " ++ e.report)
      return (.error (.host e), r)
    | .ok result =>
      log .debug ("fetch: " ++ r.method ++ " " ++ result.url ++ " -> " ++ toString result.status)
      return (.ok (.ofInbound result), r)

end Request

/-- Makes a request and sends it. What keeps it from being made keeps the host out of it. -/
def fetch (host : Host) (input : RequestInput) (init : RequestInit) :
    Run (Except FetchError Response) := do
  match ← Request.create host input init with
  | .error e => return .error e
  | .ok r => return (← r.send host).1

end WebFetch
