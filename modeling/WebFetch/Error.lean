import WebFetch.Json.Error
import WebFetch.Text.Quoted
import WebFetch.Url.Error

/-!
What can go wrong: faults of the arguments, failures of the host, and the failures of a fetch, which
carry those of the host as they came.
-/

set_option autoImplicit false

namespace WebFetch

/-- An argument that is refused. -/
inductive Invalid where
  | credentials (href : String)
  | bodyNotAllowed (method : String)
  | copyOfUsedBody
  | redirectMode (text : String)
  | referrerPolicy (text : String)
  | status (code : Nat)
  | bodyWithStatus (code : Nat)
  | redirectStatus (code : Nat)
  | notSerializable (reason : String)
  | pairLength (length : Nat)
  | headerName (name : String)
  | headerValue (value : String)
  deriving DecidableEq

def Invalid.message : Invalid → String
  | .credentials href => "request URL must not include credentials: " ++ href
  | .bodyNotAllowed method => "request with " ++ method ++ " method cannot have a body"
  | .copyOfUsedBody => "cannot clone a body that has already been consumed"
  | .redirectMode text => "invalid redirect mode " ++ Text.Quoted.render text
  | .referrerPolicy text => "invalid referrer policy " ++ Text.Quoted.render text
  | .status code => "response status " ++ toString code ++ " is outside 200..=599"
  | .bodyWithStatus code => "response with status " ++ toString code ++ " cannot have a body"
  | .redirectStatus code => "invalid redirect status " ++ toString code
  | .notSerializable reason => "value is not JSON serializable: " ++ reason
  | .pairLength length =>
    "search param pair must contain exactly two elements, got " ++ toString length
  | .headerName name =>
    "invalid header name " ++ Text.Quoted.render name ++ ": invalid HTTP header name"
  | .headerValue value =>
    "invalid header value " ++ Text.Quoted.render value ++ ": failed to parse header value"

/-- The message with the class of the failure in front. -/
def Invalid.report (e : Invalid) : String := "Validation error: " ++ e.message

/-- A failure of something that only the host can do. -/
inductive HostError where
  | message (text : String)
  | url (cause : UrlError)
  | method
  | header (cause : Invalid)
  | client
  | aborted
  | noRuntime
  | dropped (operation : String)
  deriving DecidableEq

def HostError.report : HostError → String
  | .message text => text
  | .url cause => cause.message
  | .method => "invalid HTTP method"
  | .header cause => cause.report
  | .client => "builder error"
  | .aborted => "The operation was aborted"
  | .noRuntime =>
    "there is no reactor running, must be called from the context of a Tokio 1.x runtime"
  | .dropped operation => "host dropped \x60" ++ operation ++ "\x60 without settling it"

/-- The failure is that a text is no URL. -/
def HostError.isUrlError : HostError → Bool
  | .url _ => true
  | _ => false

inductive FetchError where
  | validation (cause : Invalid)
  | consumption
  | host (cause : HostError)
  | contractViolation (typeName : String)
  | userHandler (report : String)
  | malformedJson (cause : Json.SyntaxError)
  deriving DecidableEq

def FetchError.report : FetchError → String
  | .validation cause => cause.report
  | .consumption => "Body has already been consumed"
  | .host cause => "Host error: " ++ cause.report
  | .contractViolation typeName =>
    "Contract violation: handler must resolve to a Response, got " ++ typeName
  | .userHandler report => "Handler error: " ++ report
  | .malformedJson cause => "Syntax error: " ++ cause.message

end WebFetch
