import WebFetch.Url.HostName
import WebFetch.Url.Scheme

/-!
URLs as records of their components, with the text of each part as the URL interface shows it.
-/

set_option autoImplicit false

namespace WebFetch

/-- What stands between `//` and the path. Credentials are percent-encoded, an absent one is
    empty, and the port of the scheme itself is absent. -/
structure Authority where
  username : String
  password : String
  host : HostName
  port : Option Nat
  deriving DecidableEq

namespace Authority

def ofHost (host : HostName) : Authority := ⟨"", "", host, none⟩

def hasCredentials (a : Authority) : Bool := a.username != "" || a.password != ""

def portText (a : Authority) : String :=
  match a.port with
  | some port => toString port
  | none => ""

def hostText (a : Authority) : String :=
  match a.port with
  | some port => a.host.render ++ ":" ++ toString port
  | none => a.host.render

def userinfoText (a : Authority) : String :=
  if a.hasCredentials then
    a.username ++ (if a.password = "" then "" else ":" ++ a.password) ++ "@"
  else ""

def render (a : Authority) : String := a.userinfoText ++ a.hostText

end Authority

/-- `dotGuard` says that `/.` is written in front of the path, so that a path that starts with two
    slashes is not read as an authority. -/
structure Url where
  scheme : String
  authority : Option Authority
  dotGuard : Bool
  path : String
  query : Option String
  fragment : Option String
  deriving DecidableEq

namespace Url

def kind (u : Url) : SchemeKind := .ofScheme u.scheme

def hasOpaquePath (u : Url) : Bool :=
  u.authority.isNone && !u.dotGuard && u.path.toList.head? != some '/'

def trunk (u : Url) : String :=
  u.scheme ++ ":" ++
    (match u.authority with
      | some a => "//" ++ a.render
      | none => "") ++
    (if u.dotGuard then "/." else "") ++ u.path

def href (u : Url) : String :=
  u.trunk ++
    (match u.query with
      | some q => "?" ++ q
      | none => "") ++
    (match u.fragment with
      | some f => "#" ++ f
      | none => "")

def protocol (u : Url) : String := u.scheme ++ ":"

def username (u : Url) : String := (u.authority.map Authority.username).getD ""

def password (u : Url) : String := (u.authority.map Authority.password).getD ""

def hasCredentials (u : Url) : Bool := u.username != "" || u.password != ""

def host (u : Url) : String := (u.authority.map Authority.hostText).getD ""

def hostname (u : Url) : String := (u.authority.map fun a => a.host.render).getD ""

def port (u : Url) : String := (u.authority.map Authority.portText).getD ""

def pathname (u : Url) : String := u.path

/-- A part behind its mark. An empty part shows no mark. -/
def marked (mark : String) : Option String → String
  | none => ""
  | some text => if text = "" then "" else mark ++ text

def search (u : Url) : String := marked "?" u.query

def hash (u : Url) : String := marked "#" u.fragment

def origin (u : Url) : String := u.protocol ++ "//" ++ u.host

end Url

end WebFetch
