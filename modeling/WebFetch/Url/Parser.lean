import WebFetch.Url.Basic
import WebFetch.Url.Path

/-!
Reading URLs: absolute ones, and relative ones against a base. Every part is read by a function
that returns the part and what follows it.
-/

set_option autoImplicit false

namespace WebFetch
open UrlInput UrlPath

namespace Url

/-- The scheme in lower case and what follows its colon. Where `optionalColon` holds, the scheme may
    be all there is. -/
def readScheme? (optionalColon : Bool) (input : List Char) : Option (String × List Char) :=
  match peek? input with
  | none => none
  | some first =>
    if !isAlpha first then none
    else
      let (name, rest) := span (fun c => isAlpha c || isDigit c || ['+', '-', '.'].contains c) input
      let scheme := String.ofList (Text.lowerAscii name)
      match next? rest with
      | some (':', after) => some (scheme, after)
      | some _ => none
      | none => if optionalColon then some (scheme, []) else none

/-- A query also encodes its apostrophes if the scheme is special. -/
def encodeQuery (kind : SchemeKind) (text : List Char) : String :=
  String.ofList
    (Percent.encode (if kind.isSpecial then Percent.specialQuery else Percent.query) text)

def encodeFragment (text : List Char) : String :=
  String.ofList (Percent.encode Percent.fragment text)

def readFragment? (input : List Char) : Option String :=
  (after? '#' input).map fun rest => encodeFragment (visible rest)

def readQueryAndFragment (kind : SchemeKind) (input : List Char) : Option String × Option String :=
  match after? '?' input with
  | some rest =>
    let (text, after) := span (· != '#') rest
    (some (encodeQuery kind text), readFragment? after)
  | none => (none, readFragment? input)

/-- Puts the parts together. Without an authority a path that starts with two slashes is guarded. -/
def assemble (scheme : String) (authority : Option Authority) (path : String)
    (after : List Char) : Url :=
  let (query, fragment) := readQueryAndFragment (.ofScheme scheme) after
  let dotGuard := authority.isNone && ['/', '/'].isPrefixOf path.toList
  ⟨scheme, authority, dotGuard, path, query, fragment⟩

def endsAuthority (kind : SchemeKind) (c : Char) : Bool :=
  c == '/' || c == '?' || c == '#' || (c == '\\' && kind.isSpecial)

/-- The text before the last `@` of a list, and the text behind it. -/
def cutLastAt? (cs : List Char) : Option (List Char × List Char) :=
  if cs.contains '@' then
    let after := (cs.reverse.takeWhile (· != '@')).reverse
    some (cs.take (cs.length - after.length - 1), after)
  else none

/-- Credentials, and the input from the host on. The first colon divides the name from the
    password. -/
def readCredentials (kind : SchemeKind) (input : List Char) :
    Except UrlError (String × String × List Char) :=
  let inside := input.takeWhile fun c => !endsAuthority kind c
  let beyond := input.drop inside.length
  match cutLastAt? inside with
  | none => .ok ("", "", input)
  | some (userinfo, after) =>
    let rest := after ++ beyond
    let text := visible userinfo
    if text.isEmpty then
      if (peek? rest).any (endsAuthority kind) then .error .emptyHost else .ok ("", "", rest)
    else
      let (name, password) := (Text.cut? ':' text).getD (text, [])
      let encode := fun cs => String.ofList (Percent.encode Percent.userinfo cs)
      .ok (encode name, encode password, rest)

/-- The text of a host with its brackets, up to a colon outside of them or the end of the
    authority. -/
def hostExtent (kind : SchemeKind) : (inBrackets : Bool) → List Char → Nat
  | _, [] => 0
  | inBrackets, c :: rest =>
    if (c == ':' && !inBrackets) || endsAuthority kind c then 0
    else
      let inBrackets := if c = '[' then true else if c = ']' then false else inBrackets
      hostExtent kind inBrackets rest + 1

/-- The host of a `file` URL, as text. A drive letter is no host and stays in the input. -/
def readFileHost (input : List Char) : List Char × List Char :=
  let (text, rest) := span (fun c => !endsAuthority .file c) input
  if isDriveLetter text then ([], input) else (text, rest)

/-- A name for this machine is left out of `file` URLs. -/
def localToEmpty (host : HostName) : HostName :=
  if host = .name "localhost" then .empty else host

def readHost (kind : SchemeKind) (input : List Char) : Except UrlError (HostName × List Char) :=
  match kind with
  | .file => do
    let (text, rest) := readFileHost input
    return (localToEmpty (← HostName.parse text), rest)
  | .web => do
    let n := hostExtent kind false input
    let text := visible (input.take n)
    if text.isEmpty then throw .emptyHost
    return (← HostName.parse text, input.drop n)
  | .other => do
    let n := hostExtent kind false input
    return (← HostName.parseOpaque (visible (input.take n)), input.drop n)

/-- The number that the digits in front make, and what follows; a number over 65535 is none. -/
def readPortNumber? (input : List Char) : Option (Option Nat × List Char) :=
  let (digits, rest) := span isDigit input
  let value := digits.foldl (fun n c => n * 10 + (c.toNat - 48)) 0
  if value > 65535 then none
  else some (if digits.isEmpty then none else some value, rest)

/-- The port of a whole URL. Only the end of the authority may follow it. -/
def readPort (scheme : String) (input : List Char) : Except UrlError (Option Nat × List Char) :=
  match readPortNumber? input with
  | none => .error .port
  | some (port, rest) =>
    if (peek? rest).all ['/', '\\', '?', '#'].contains then
      .ok (port.filter (some · != defaultPort? scheme), rest)
    else .error .port

def readAuthority (scheme : String) (input : List Char) :
    Except UrlError (Authority × List Char) := do
  let kind := SchemeKind.ofScheme scheme
  let (username, password, input) ← readCredentials kind input
  let (host, input) ← readHost kind input
  let portInput? := after? ':' input
  if host = .empty ∧ (portInput?.isSome ∨ kind.isSpecial) then throw .emptyHost
  let (port, input) ←
    match portInput? with
    | some rest => readPort scheme rest
    | none => pure (none, input)
  if host = .empty ∧ (username ≠ "" ∨ password ≠ "") then throw .emptyHost
  return (⟨username, password, host, port⟩, input)

def readAfterSlashes (scheme : String) (input : List Char) : Except UrlError Url := do
  let kind := SchemeKind.ofScheme scheme
  let (authority, input) ← readAuthority scheme input
  let (path, after) := readFromRoot kind .wholeUrl true input
  return assemble scheme authority (path.finish kind) after

/-- A URL with a scheme that is not special and no authority may have an opaque path. -/
def readOther (scheme : String) (input : List Char) : Except UrlError Url :=
  match afterSlashes? input with
  | some rest => readAfterSlashes scheme rest
  | none =>
    match after? '/' input with
    | some rest =>
      let (path, after) := readSegments .other .wholeUrl .root [] rest
      .ok (assemble scheme none (path.finish .other) after)
    | none =>
      let (path, after) := readOpaque .wholeUrl input
      .ok (assemble scheme none (String.ofList path) after)

def withPath (base : Url) (path : Partial) (after : List Char) : Url :=
  assemble base.scheme base.authority (path.finish base.kind) after

/-- A reference that has no path of its own: nothing, a query or a fragment. -/
def readPathless? (base : Url) (input : List Char) : Option Url :=
  match peek? input with
  | none => some { base with fragment := none }
  | some '?' =>
    let (query, fragment) := readQueryAndFragment base.kind input
    some { base with query := query, fragment := fragment }
  | some '#' => some { base with fragment := readFragment? input }
  | _ => none

/-- A reference with the scheme of a base that is no `file` URL. -/
def readRelative (base : Url) (input : List Char) : Except UrlError Url :=
  match readPathless? base input, next? input with
  | some u, _ => .ok u
  | none, some (first, rest) =>
    if isSlash first then
      let (slashes, behind) := span isSlash input
      if slashes.length ≥ 2 then readAfterSlashes base.scheme ((afterSlashes? input).getD behind)
      else
        let (path, after) := readSegments base.kind .wholeUrl .root [] rest
        .ok (base.withPath path after)
    else
      let (start, _) := cutLast base.path
      let start := if start.closed.isEmpty then .root else start
      let (path, after) := readSegments base.kind .wholeUrl start [] input
      .ok (base.withPath path after)
  | none, none => .ok base

def fileAuthority (host : HostName) : Option Authority := some (.ofHost host)

def fileUrl (host : HostName) (path : Partial) (after : List Char) : Url :=
  assemble "file" (fileAuthority host) (path.finish .file) after

/-- Reads a `file` URL behind its two slashes. A path that starts with a drive letter drops the
    host. -/
def readFileAuthority (input : List Char) : Except UrlError Url := do
  let (text, rest) := readFileHost input
  let host ← if text.isEmpty then pure .empty else localToEmpty <$> HostName.parse text
  let (path, after) :=
    if host = .empty then readSegments .file .wholeUrl .root [] rest
    else readFromRoot .file .wholeUrl true rest
  return fileUrl (if path.droppedHost then .empty else host) path after

def baseHost (base : Option Url) : HostName :=
  ((base.bind Url.authority).map Authority.host).getD .empty

/-- A path with one slash in front keeps the drive letter of the base, or else its host. -/
def readFileAbsolute (base : Option Url) (input rest : List Char) : Url :=
  let baseDrive := match base with
    | some b => Text.upTo '/' (b.path.toList.drop 1)
    | none => []
  if base.isNone || startsWithDriveLetter rest then
    let (path, after) := readSegments .file .wholeUrl .empty [] input
    fileUrl .empty path after
  else if isNormalDriveLetter baseDrive then
    let (path, after) := readSegments .file .wholeUrl ⟨[[]], baseDrive, false⟩ [] input
    fileUrl .empty path after
  else
    let (path, after) := readSegments .file .wholeUrl .empty [] input
    fileUrl (baseHost base) path after

/-- Where a relative path of a `file` URL starts. A drive letter at the end of the base path is not
    removed. -/
def fileStart (basePath : String) : Partial :=
  let (start, last) := cutLast basePath
  if isNormalDriveLetter last then
    if start.closed = [[]] then start.close last else { start with stem := last }
  else start

def readFile (base : Option Url) (input : List Char) : Except UrlError Url :=
  match next? input with
  | some (first, rest) =>
    if isSlash first then
      match next? rest with
      | some (second, behind) =>
        if isSlash second then readFileAuthority behind
        else .ok (readFileAbsolute base input rest)
      | none => .ok (readFileAbsolute base input rest)
    else
      match base with
      | some b =>
        match readPathless? b input with
        | some u => .ok u
        | none =>
          if startsWithDriveLetter input then
            let (path, after) := readSegments .file .wholeUrl .root [] input
            .ok (fileUrl .empty path after)
          else
            let (path, after) := readSegments .file .wholeUrl (fileStart b.path) [] input
            .ok (b.withPath path after)
      | none =>
        let (path, after) := readSegments .file .wholeUrl .root [] input
        .ok (fileUrl .empty path after)
  | none =>
    match base with
    | some b => .ok { b with fragment := none }
    | none => .ok (fileUrl .empty .root [])

def readWithScheme (base : Option Url) (scheme : String) (input : List Char) :
    Except UrlError Url :=
  match SchemeKind.ofScheme scheme with
  | .file => readFile (base.filter fun b => b.scheme = "file") input
  | .web =>
    let (slashes, rest) := span isSlash input
    match base with
    | some b =>
      if slashes.length < 2 ∧ b.scheme = scheme then readRelative b input
      else readAfterSlashes scheme rest
    | none => readAfterSlashes scheme rest
  | .other => readOther scheme input

/-- Reads a URL, against a base if there is one. -/
def read (base : Option Url) (text : String) : Except UrlError Url :=
  let input := trim text.toList
  match readScheme? false input, base with
  | some (scheme, rest), _ => readWithScheme base scheme rest
  | none, none => .error .relativeWithoutBase
  | none, some b =>
    if peek? input = some '#' then .ok { b with fragment := readFragment? input }
    else if b.hasOpaquePath then .error .relativeToOpaque
    else if b.kind = .file then readFile base input
    else readRelative b input

def parse (text : String) : Except UrlError Url := read none text

def join (base : Url) (text : String) : Except UrlError Url := read (some base) text

end Url

end WebFetch
