import WebFetch.Host
import WebFetch.Url.Query

/-!
URL objects. They share cells: what is written through one object is read at once through every
other object of the same cell, and through no other.
-/

set_option autoImplicit false

namespace WebFetch

/-- The components of a URL that can be set one by one. -/
inductive Component where
  | protocol
  | username
  | password
  | host
  | hostname
  | port
  | pathname
  | search
  | hash
  deriving DecidableEq

namespace Url

def component (u : Url) : Component → String
  | .protocol => u.protocol
  | .username => u.username
  | .password => u.password
  | .host => u.host
  | .hostname => u.hostname
  | .port => u.port
  | .pathname => u.pathname
  | .search => u.search
  | .hash => u.hash

def setComponent (u : Url) (component : Component) (value : String) : Url :=
  match component with
  | .protocol => u.setProtocol value
  | .username => u.setUsername value
  | .password => u.setPassword value
  | .host => u.setHost value
  | .hostname => u.setHostname value
  | .port => u.setPort value
  | .pathname => u.setPathname value
  | .search => u.setSearch value
  | .hash => u.setHash value

end Url

namespace UrlRef

/-- Parses a URL, against a base if there is one. -/
def parse (host : Host) (text : String) (base : Option String) : Run (Except FetchError UrlRef) :=
  match host.resolveUrl text base with
  | .ok u => do return .ok (← create u)
  | .error e => return .error (.host e)

def canParse (host : Host) (text : String) (base : Option String) : Bool :=
  (host.resolveUrl text base).isOk

/-- A new object for the same cell. -/
def share (u : UrlRef) : UrlRef := u

def set (u : UrlRef) (component : Component) (value : String) : Run Unit :=
  u.update fun url => url.setComponent component value

/-- Replaces the whole URL; a text that is none changes nothing. -/
def setHref (u : UrlRef) (value : String) : Run (Except FetchError Unit) :=
  match Url.parse value with
  | .ok url => do return .ok (← u.write url)
  | .error e => return .error (.host (.url e))

end UrlRef

end WebFetch
