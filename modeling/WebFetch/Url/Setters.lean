import WebFetch.Url.Parser

/-!
Changing one component of a URL. A value that the component's grammar does not take leaves the URL
as it is.
-/

set_option autoImplicit false

namespace WebFetch
open UrlInput UrlPath

namespace Url

def mapAuthority (u : Url) (f : Authority → Authority) : Url :=
  { u with authority := u.authority.map f }

def hasHost (u : Url) : Bool := u.authority.any fun a => a.host != .empty

/-- Credentials and a port need a host, and `file` URLs have none of them. -/
def takesCredentials (u : Url) : Bool := u.hasHost && u.kind != .file

/-- An explicit port takes the place of a guard in front of the path. -/
def withPort (u : Url) (port : Option Nat) : Url :=
  let changed := u.authority.any fun a => a.port != port
  { u.mapAuthority fun a => { a with port := port } with dotGuard := u.dotGuard && !changed }

def setProtocol (u : Url) (value : String) : Url :=
  match readScheme? true (Text.upTo ':' value.toList) with
  | none => u
  | some (scheme, _) =>
    let kind := SchemeKind.ofScheme scheme
    if kind.isSpecial != u.kind.isSpecial || (kind == .file && u.authority.isSome) ||
        (kind.isSpecial && !u.hasHost) then u
    else
      let v := { u with scheme := scheme }
      if v.takesCredentials then
        v.mapAuthority fun a => { a with port := a.port.filter (some · != defaultPort? scheme) }
      else v

def encodeUserinfo (value : String) : String :=
  String.ofList (Percent.encode Percent.userinfo value.toList)

def setUsername (u : Url) (value : String) : Url :=
  if u.takesCredentials then u.mapAuthority fun a => { a with username := encodeUserinfo value }
  else u

def setPassword (u : Url) (value : String) : Url :=
  if u.takesCredentials then u.mapAuthority fun a => { a with password := encodeUserinfo value }
  else u

/-- Puts a host in its place. A URL without an authority gets one. `port` is what becomes of the
    port: nothing where it stays. -/
def withHost (u : Url) (host : HostName) (port : Option (Option Nat)) : Url :=
  let a := u.authority.getD (.ofHost .empty)
  match port with
  | none => { u with authority := some { a with host := host } }
  | some port =>
    { u with authority := some { a with host := host, port := port }, dotGuard := false }

/-- The port of a component: digits, of which the port of the scheme counts as none. Text without a
    digit in front is refused. -/
def readComponentPort? (scheme : String) (input : List Char) : Option (Option Nat) :=
  match readPortNumber? input with
  | none => none
  | some (none, rest) => if isEmpty rest then some none else none
  | some (some port, _) => some (if some port = defaultPort? scheme then none else some port)

def setHost (u : Url) (value : String) : Url :=
  if u.hasOpaquePath then u
  else if u.kind = .file ∧ value = "" then u.withHost .empty none
  else match readHost u.kind value.toList with
    | .error _ => u
    | .ok (host, rest) =>
      let port := match after? ':' rest with
        | some digits => if isEmpty digits then none else readComponentPort? u.scheme digits
        | none => none
      if host = .empty ∧ (u.username ≠ "" ∨ (port.bind id).isSome ∨ u.port ≠ "") then u
      else u.withHost host port

def setHostname (u : Url) (value : String) : Url :=
  if u.hasOpaquePath then u
  else if u.kind = .file ∧ value = "" then u.withHost .empty none
  else match readHost u.kind value.toList with
    | .error _ => u
    | .ok (host, rest) =>
      if peek? rest = some ':' then u
      else if host = .empty ∧ (u.kind = .web ∨ u.port ≠ "" ∨ u.hasCredentials) then u
      else u.withHost host none

def setPort (u : Url) (value : String) : Url :=
  if u.takesCredentials then
    match readComponentPort? u.scheme value.toList with
    | some port => u.withPort port
    | none => u
  else u

def withPathText (u : Url) (input : List Char) : Url :=
  let (path, _) := readFromRoot u.kind .component u.hasHost input
  { u with path := path.finish u.kind }

def setPathname (u : Url) (value : String) : Url :=
  if u.hasOpaquePath then u
  else
    let cs := value.toList
    let hasSlash := match cs with
      | c :: _ => c == '/' || (c == '\\' && u.kind.isSpecial)
      | [] => false
    if hasSlash || !(u.kind.isSpecial || !cs.isEmpty || !u.hasHost) then u.withPathText cs
    else u.withPathText ('/' :: cs)

def dropTrailing (c : Char) (text : String) : String :=
  String.ofList ((text.toList.reverse.dropWhile (· == c)).reverse)

/-- Blanks at the end of an opaque path do not outlast the query and the fragment behind them. -/
def trimOpaque (u : Url) : Url :=
  if u.hasOpaquePath && u.query.isNone && u.fragment.isNone then
    { u with path := dropTrailing ' ' u.path }
  else u

/-- Sets the query to a text that is encoded as far as it has to be, or removes it. -/
def withQuery (u : Url) (text : Option (List Char)) : Url :=
  match text with
  | some cs => { u with query := some (encodeQuery u.kind (visible cs)) }
  | none => { u with query := none }.trimOpaque

def withFragment (u : Url) (text : Option (List Char)) : Url :=
  match text with
  | some cs => { u with fragment := some (encodeFragment (visible cs)) }
  | none => { u with fragment := none }.trimOpaque

/-- The text behind one mark in front; nothing for the empty text. -/
def behindMark (mark : Char) : List Char → Option (List Char)
  | [] => none
  | c :: rest => some (if c = mark then rest else c :: rest)

def setSearch (u : Url) (value : String) : Url := u.withQuery (behindMark '?' value.toList)

def setHash (u : Url) (value : String) : Url := u.withFragment (behindMark '#' value.toList)

end Url

end WebFetch
