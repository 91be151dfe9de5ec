import WebFetch.Body
import WebFetch.Request.Fields
import WebFetch.Url.Shared

/-!
Requests. A request is made from a text, a URL or another request, and from optional fields that
take the place of what it would inherit. The checks run in a fixed order, and the first that fails
decides the error: the URL, its credentials, a body where the method has none, a used body, the
referrer, the referrer policy.
-/

set_option autoImplicit false

namespace WebFetch

/-- Everything about a request but its URL, which is shared. -/
structure RequestFields where
  method : String
  body : Body
  headers : Headers
  redirect : RedirectMode
  signal : Option Signal
  referrer : Option Referrer
  referrerPolicy : ReferrerPolicy
  deriving DecidableEq

structure Request extends RequestFields where
  url : UrlRef
  deriving DecidableEq

inductive RequestInput where
  | text (url : String)
  | url (url : UrlRef)
  | request (request : Request)

def RequestInput.source? : RequestInput → Option Request
  | .request r => some r
  | _ => none

/-- The fields that are given. An empty referrer means that there is none. -/
structure RequestInit where
  method : Option String
  headers : Option Headers
  body : Option BodyInit
  redirect : Option RedirectMode
  signal : Option Signal
  referrer : Option String
  referrerPolicy : Option String

def RequestInit.empty : RequestInit := ⟨none, none, none, none, none, none, none⟩

/-- Every spelling of the client as a URL. -/
def isClientUrl (u : Url) : Bool :=
  u.protocol == "about:" &&
    (u.pathname == "client" || (u.host == "client" && (u.pathname == "" || u.pathname == "/")))

def Referrer.parse (host : Host) (text : String) : Except FetchError Referrer :=
  if text = "" then .ok .noReferrer
  else match host.parseUrl text with
    | .error e => .error (.host e)
    | .ok u => .ok (if isClientUrl u then .client else .url u.href)

namespace RequestFields

def resolveMethod (source : Option RequestFields) (init : RequestInit) : String :=
  match init.method, source with
  | some method, _ => normalizeMethod method
  | none, some source => source.method
  | none, none => "GET"

def wouldHaveBody (source : Option RequestFields) (init : RequestInit) : Bool :=
  init.body.isSome || source.any fun source => !source.body.isEmpty

def resolveBody (host : Host) (source : Option RequestFields) (init : RequestInit) :
    Except FetchError Body :=
  match init.body, source with
  | some body, _ => .ok (.ofInit host (some body))
  | none, some source => source.body.copy
  | none, none => .ok .empty

/-- A text body that is given here brings its type, unless there is one. -/
def resolveHeaders (source : Option RequestFields) (init : RequestInit) : Headers :=
  let headers := init.headers.getD ((source.map RequestFields.headers).getD .empty)
  if init.body.any BodyInit.isText then headers.setDefault contentType textContentType else headers

def resolveReferrer (host : Host) (source : Option RequestFields) (init : RequestInit) :
    Except FetchError (Option Referrer) :=
  match init.referrer with
  | some text => some <$> Referrer.parse host text
  | none => .ok (source.bind RequestFields.referrer)

def resolveReferrerPolicy (source : Option RequestFields) (init : RequestInit) :
    Except FetchError ReferrerPolicy :=
  match init.referrerPolicy with
  | some text => ReferrerPolicy.parse text
  | none => .ok ((source.map RequestFields.referrerPolicy).getD .unset)

def resolve (host : Host) (url : Url) (source : Option RequestFields) (init : RequestInit) :
    Except FetchError RequestFields := do
  if url.hasCredentials then throw (.validation (.credentials url.href))
  let method := resolveMethod source init
  if isBodyless method && wouldHaveBody source init then
    throw (.validation (.bodyNotAllowed method))
  let body ← resolveBody host source init
  let referrer ← resolveReferrer host source init
  let referrerPolicy ← resolveReferrerPolicy source init
  return {
    method := method
    body := body
    headers := resolveHeaders source init
    redirect := init.redirect.getD ((source.map RequestFields.redirect).getD .follow)
    signal := init.signal.or (source.bind RequestFields.signal)
    referrer := referrer
    referrerPolicy := referrerPolicy }

end RequestFields

namespace Request

/-- The URL that the input stands for at this moment. -/
def inputUrl (host : Host) : RequestInput → Run (Except FetchError Url)
  | .text text => return (host.parseUrl text).mapError FetchError.host
  | .url u => do return .ok (← u.read)
  | .request r => do return .ok (← r.url.read)

/-- Makes a request. Its URL is always a new cell. -/
def create (host : Host) (input : RequestInput) (init : RequestInit) :
    Run (Except FetchError Request) := do
  match ← inputUrl host input with
  | .error e => return .error e
  | .ok url =>
    match RequestFields.resolve host url (input.source?.map Request.toRequestFields) init with
    | .error e => return .error e
    | .ok fields => return .ok { fields with url := ← UrlRef.create url }

def clone (host : Host) (r : Request) : Run (Except FetchError Request) :=
  create host (.request r) .empty

def setReferrerPolicy (r : Request) (text : String) : Except FetchError Request :=
  (ReferrerPolicy.parse text).map fun policy => { r with referrerPolicy := policy }

def mapHeaders (r : Request) (change : Headers → Headers) : Request :=
  { r with headers := change r.headers }

def withBody (r : Request) (body : Body) : Request := { r with body := body }

def arrayBuffer (r : Request) : Except FetchError Bytes × Request :=
  let (result, body) := r.body.arrayBuffer
  (result, r.withBody body)

def text (host : Host) (r : Request) : Run (Except FetchError String × Request) := do
  let (result, body) ← r.body.text host
  return (result, r.withBody body)

def json (host : Host) (r : Request) : Run (Except FetchError Json.Value × Request) := do
  let (result, body) ← r.body.json host
  return (result, r.withBody body)

end Request

end WebFetch
