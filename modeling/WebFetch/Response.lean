import WebFetch.Body
import WebFetch.Json.Printer

/-!
Responses. Those that a program makes are checked; those that the host brings keep whatever status
they have.
-/

set_option autoImplicit false

namespace WebFetch

inductive ResponseKind where
  | default
  | error
  deriving DecidableEq

def ResponseKind.name : ResponseKind → String
  | .default => "default"
  | .error => "error"

structure Response where
  status : Nat
  statusText : String
  headers : Headers
  body : Body
  kind : ResponseKind
  url : String
  deriving DecidableEq

structure ResponseInit where
  status : Option Nat
  statusText : Option String
  headers : Option Headers

def ResponseInit.empty : ResponseInit := ⟨none, none, none⟩

def bodylessStatuses : List Nat := [204, 205, 304]

def redirectStatuses : List Nat := [301, 302, 303, 307, 308]

def jsonContentType : String := "application/json"

/-- The phrase that goes with a status, empty for a status that is not assigned. -/
def reasonPhrase : Nat → String
  | 100 => "Continue"
  | 101 => "Switching Protocols"
  | 102 => "Processing"
  | 103 => "Early Hints"
  | 200 => "OK"
  | 201 => "Created"
  | 202 => "Accepted"
  | 203 => "Non Authoritative Information"
  | 204 => "No Content"
  | 205 => "Reset Content"
  | 206 => "Partial Content"
  | 207 => "Multi-Status"
  | 208 => "Already Reported"
  | 226 => "IM Used"
  | 300 => "Multiple Choices"
  | 301 => "Moved Permanently"
  | 302 => "Found"
  | 303 => "See Other"
  | 304 => "Not Modified"
  | 305 => "Use Proxy"
  | 307 => "Temporary Redirect"
  | 308 => "Permanent Redirect"
  | 400 => "Bad Request"
  | 401 => "Unauthorized"
  | 402 => "Payment Required"
  | 403 => "Forbidden"
  | 404 => "Not Found"
  | 405 => "Method Not Allowed"
  | 406 => "Not Acceptable"
  | 407 => "Proxy Authentication Required"
  | 408 => "Request Timeout"
  | 409 => "Conflict"
  | 410 => "Gone"
  | 411 => "Length Required"
  | 412 => "Precondition Failed"
  | 413 => "Payload Too Large"
  | 414 => "URI Too Long"
  | 415 => "Unsupported Media Type"
  | 416 => "Range Not Satisfiable"
  | 417 => "Expectation Failed"
  | 418 => "I'm a teapot"
  | 421 => "Misdirected Request"
  | 422 => "Unprocessable Entity"
  | 423 => "Locked"
  | 424 => "Failed Dependency"
  | 425 => "Too Early"
  | 426 => "Upgrade Required"
  | 428 => "Precondition Required"
  | 429 => "Too Many Requests"
  | 431 => "Request Header Fields Too Large"
  | 451 => "Unavailable For Legal Reasons"
  | 500 => "Internal Server Error"
  | 501 => "Not Implemented"
  | 502 => "Bad Gateway"
  | 503 => "Service Unavailable"
  | 504 => "Gateway Timeout"
  | 505 => "HTTP Version Not Supported"
  | 506 => "Variant Also Negotiates"
  | 507 => "Insufficient Storage"
  | 508 => "Loop Detected"
  | 510 => "Not Extended"
  | 511 => "Network Authentication Required"
  | _ => ""

namespace Response

/-- Makes a response; status 200 unless one is given. A text body brings its type, unless there is
    one. -/
def create (host : Host) (body : Option BodyInit) (init : ResponseInit) :
    Except FetchError Response :=
  let status := init.status.getD 200
  if status < 200 ∨ 599 < status then .error (.validation (.status status))
  else if body.isSome ∧ status ∈ bodylessStatuses then .error (.validation (.bodyWithStatus status))
  else
    let headers := init.headers.getD .empty
    .ok {
      status := status
      statusText := init.statusText.getD ""
      headers :=
        if body.any BodyInit.isText then headers.setDefault contentType textContentType else headers
      body := .ofInit host body
      kind := .default
      url := "" }

def error : Response := ⟨0, "", .empty, .empty, .error, ""⟩

/-- A response whose body is the text of a JSON value. -/
def json (host : Host) (data : Json.Value) (init : ResponseInit) : Except FetchError Response :=
  let headers := (init.headers.getD .empty).setDefault contentType jsonContentType
  create host (some (.text data.render)) { init with headers := some headers }

/-- The failure for data that JSON cannot hold, with the reason. -/
def notSerializable (reason : String) : FetchError := .validation (.notSerializable reason)

/-- A redirect to a URL. The URL is checked before the status. -/
def redirect (host : Host) (url : String) (status : Nat) : Except FetchError Response :=
  match host.parseUrl url with
  | .error e => .error (.host e)
  | .ok target =>
    if status ∈ redirectStatuses then
      create host none
        { status := some status
          statusText := none
          headers := some (Headers.empty.set "location" target.href) }
    else .error (.validation (.redirectStatus status))

def ofInbound (result : Inbound) : Response where
  status := result.status
  statusText := reasonPhrase result.status
  headers := .ofRecord result.headers
  body := match result.body with
    | some bytes => ⟨.bytes bytes, false⟩
    | none => .empty
  kind := .default
  url := result.url

def clone (r : Response) : Except FetchError Response :=
  r.body.copy.map fun body => { r with body := body }

def isOk (r : Response) : Bool := 200 ≤ r.status && r.status < 300

def mapHeaders (r : Response) (change : Headers → Headers) : Response :=
  { r with headers := change r.headers }

def withBody (r : Response) (body : Body) : Response := { r with body := body }

def arrayBuffer (r : Response) : Except FetchError Bytes × Response :=
  let (result, body) := r.body.arrayBuffer
  (result, r.withBody body)

def text (host : Host) (r : Response) : Run (Except FetchError String × Response) := do
  let (result, body) ← r.body.text host
  return (result, r.withBody body)

def jsonBody (host : Host) (r : Response) : Run (Except FetchError Json.Value × Response) := do
  let (result, body) ← r.body.json host
  return (result, r.withBody body)

end Response

end WebFetch
