import WebFetch.Request.Basic
import WebFetch.Response
import WebFetch.SearchParams

/-!
Objects as text for the eyes of a programmer: type names, field names and quoted strings.
-/

set_option autoImplicit false

namespace WebFetch.Inspect
open Text

def list (items : List String) : String := "[" ++ ", ".intercalate items ++ "]"

def pair (entry : String × String) : String :=
  "(" ++ Quoted.render entry.1 ++ ", " ++ Quoted.render entry.2 ++ ")"

/-- A type and its fields; `rest` says that there are others. -/
def fields (type : String) (items : List (String × String)) (rest : Bool) : String :=
  let shown := items.map fun item => item.1 ++ ": " ++ item.2
  type ++ " \x7b " ++ ", ".intercalate (shown ++ if rest then [".."] else []) ++ " \x7d"

def pairs (entries : List (String × String)) : String := list (entries.map pair)

def headers (h : Headers) : String := fields "Headers" [("entries", pairs h.entries)] false

def hostError (e : HostError) : String := "HostError(" ++ Quoted.render e.report ++ ")"

def url (u : Url) : String := "Url(" ++ Quoted.render u.href ++ ")"

def payload : Payload → String
  | .empty => "Empty"
  | .bytes bytes => "Bytes(" ++ list (bytes.map fun b => toString b.toNat) ++ ")"
  | .failed cause => "Errored(" ++ hostError cause ++ ")"

def body (b : Body) : String :=
  fields "Body" [("state", payload b.payload), ("disturbed", toString b.used)] true

def redirect : RedirectMode → String
  | .follow => "Follow"
  | .error => "Error"
  | .manual => "Manual"

def referrer : Option Referrer → String
  | none => "None"
  | some .noReferrer => "Some(NoReferrer)"
  | some .client => "Some(Client)"
  | some (.url href) => "Some(Url(" ++ Quoted.render href ++ "))"

def referrerPolicy : ReferrerPolicy → String
  | .unset => "Unset"
  | .noReferrer => "NoReferrer"
  | .noReferrerWhenDowngrade => "NoReferrerWhenDowngrade"
  | .sameOrigin => "SameOrigin"
  | .origin => "Origin"
  | .strictOrigin => "StrictOrigin"
  | .originWhenCrossOrigin => "OriginWhenCrossOrigin"
  | .strictOriginWhenCrossOrigin => "StrictOriginWhenCrossOrigin"
  | .unsafeUrl => "UnsafeUrl"

/-- `u` is the content of the URL of the request. -/
def request (r : RequestFields) (u : Url) : String :=
  fields "Request"
    [("method", Quoted.render r.method), ("url", url u), ("headers", headers r.headers),
      ("body", body r.body), ("redirect", redirect r.redirect), ("referrer", referrer r.referrer),
      ("referrer_policy", referrerPolicy r.referrerPolicy)]
    true

def responseKind : ResponseKind → String
  | .default => "Default"
  | .error => "Error"

def response (r : Response) : String :=
  fields "Response"
    [("status", toString r.status), ("status_text", Quoted.render r.statusText),
      ("type", responseKind r.kind), ("url", Quoted.render r.url), ("headers", headers r.headers),
      ("body", body r.body)]
    true

end WebFetch.Inspect
