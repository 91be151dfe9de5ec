import WebFetch.Host
import WebFetch.Json.Parser

/-!
Bodies: a payload that can be read once. Reading marks the body as used before anything can fail, so
every later read fails, whatever came of the first one.
-/

set_option autoImplicit false

namespace WebFetch

/-- What a body is made from. A payload that could not be produced keeps the cause. -/
inductive BodyInit where
  | bytes (bytes : Bytes)
  | text (text : String)
  | failed (cause : HostError)
  deriving DecidableEq

def BodyInit.isText : BodyInit → Bool
  | .text _ => true
  | _ => false

inductive Payload where
  | empty
  | bytes (bytes : Bytes)
  | failed (cause : HostError)
  deriving DecidableEq

structure Body where
  payload : Payload
  used : Bool
  deriving DecidableEq

def textContentType : String := "text/plain;charset=UTF-8"

def contentType : String := "content-type"

namespace Body

def empty : Body := ⟨.empty, false⟩

def ofInit (host : Host) : Option BodyInit → Body
  | none => empty
  | some (.bytes bytes) => ⟨.bytes bytes, false⟩
  | some (.text text) => ⟨.bytes (host.encode text), false⟩
  | some (.failed cause) => ⟨.failed cause, false⟩

/-- A fresh copy of a body that was not read. -/
def copy (b : Body) : Except FetchError Body :=
  if b.used then .error (.validation .copyOfUsedBody) else .ok b

def isEmpty (b : Body) : Bool :=
  match b.payload with
  | .empty => true
  | _ => false

def buffer? (b : Body) : Option Bytes :=
  match b.payload with
  | .bytes bytes => some bytes
  | _ => none

def arrayBuffer (b : Body) : Except FetchError Bytes × Body :=
  if b.used then (.error .consumption, b)
  else
    let result := match b.payload with
      | .empty => .ok []
      | .bytes bytes => .ok bytes
      | .failed cause => .error (.host cause)
    (result, { b with used := true })

def text (host : Host) (b : Body) : Run (Except FetchError String × Body) := do
  let (result, b) := b.arrayBuffer
  match result with
  | .error e => return (.error e, b)
  | .ok bytes => return ((← host.decodeText bytes).mapError FetchError.host, b)

def json (host : Host) (b : Body) : Run (Except FetchError Json.Value × Body) := do
  let (result, b) ← b.text host
  return (result.bind fun text => (Json.parse text).mapError FetchError.malformedJson, b)

end Body

end WebFetch
