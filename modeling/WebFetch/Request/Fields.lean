import WebFetch.Error

/-!
The enumerated fields of a request, each with its names.
-/

set_option autoImplicit false

namespace WebFetch

inductive RedirectMode where
  | follow
  | error
  | manual
  deriving DecidableEq

namespace RedirectMode

def name : RedirectMode → String
  | .follow => "follow"
  | .error => "error"
  | .manual => "manual"

def parse (text : String) : Except FetchError RedirectMode :=
  match [follow, error, manual].find? fun mode => mode.name == text with
  | some mode => .ok mode
  | none => .error (.validation (.redirectMode text))

end RedirectMode

/-- How much of the referrer is told. `unset` leaves it to the host. -/
inductive ReferrerPolicy where
  | unset
  | noReferrer
  | noReferrerWhenDowngrade
  | sameOrigin
  | origin
  | strictOrigin
  | originWhenCrossOrigin
  | strictOriginWhenCrossOrigin
  | unsafeUrl
  deriving DecidableEq

namespace ReferrerPolicy

def name : ReferrerPolicy → String
  | .unset => ""
  | .noReferrer => "no-referrer"
  | .noReferrerWhenDowngrade => "no-referrer-when-downgrade"
  | .sameOrigin => "same-origin"
  | .origin => "origin"
  | .strictOrigin => "strict-origin"
  | .originWhenCrossOrigin => "origin-when-cross-origin"
  | .strictOriginWhenCrossOrigin => "strict-origin-when-cross-origin"
  | .unsafeUrl => "unsafe-url"

def all : List ReferrerPolicy :=
  [unset, noReferrer, noReferrerWhenDowngrade, sameOrigin, origin, strictOrigin,
    originWhenCrossOrigin, strictOriginWhenCrossOrigin, unsafeUrl]

def parse (text : String) : Except FetchError ReferrerPolicy :=
  match all.find? fun policy => policy.name == text with
  | some policy => .ok policy
  | none => .error (.validation (.referrerPolicy text))

end ReferrerPolicy

/-- Where a request says it comes from. -/
inductive Referrer where
  | noReferrer
  | client
  | url (href : String)
  deriving DecidableEq

namespace Referrer

def clientText : String := "about:client"

def text : Referrer → String
  | .noReferrer => ""
  | .client => clientText
  | .url href => href

end Referrer

/-- The methods that are written in upper case whatever their spelling. -/
def knownMethods : List String := ["DELETE", "GET", "HEAD", "OPTIONS", "POST", "PUT"]

def upperAscii (text : String) : String := String.ofList (text.toList.map Char.toUpper)

/-- A known method in upper case, any other as it stands. -/
def normalizeMethod (method : String) : String :=
  if knownMethods.contains (upperAscii method) then upperAscii method else method

def isBodyless (method : String) : Bool := method == "GET" || method == "HEAD"

end WebFetch
