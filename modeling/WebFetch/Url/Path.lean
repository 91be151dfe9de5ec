import WebFetch.Percent
import WebFetch.Text.Split
import WebFetch.Url.Input
import WebFetch.Url.Scheme

/-!
Hierarchical paths. A path is read segment by segment; `.` and `..` are resolved while it is read,
and in a `file` URL a drive letter in front is never removed.
-/

set_option autoImplicit false

namespace WebFetch.UrlPath
open UrlInput

/-- Where a component ends: in a whole URL at `?` and `#`, in a component of its own nowhere. -/
inductive Extent where
  | wholeUrl
  | component
  deriving DecidableEq

def Extent.ends (extent : Extent) (c : Char) : Bool :=
  extent == .wholeUrl && (c == '?' || c == '#')

def isDriveLetter : List Char → Bool
  | [a, b] => isAlpha a && (b == ':' || b == '|')
  | _ => false

def isNormalDriveLetter : List Char → Bool
  | [a, b] => isAlpha a && b == ':'
  | _ => false

/-- The text starts with a drive letter that is a segment. -/
def startsWithDriveLetter (cs : List Char) : Bool :=
  match visible cs with
  | [a, b] => isDriveLetter [a, b]
  | a :: b :: c :: _ => isDriveLetter [a, b] && ['/', '\\', '?', '#'].contains c
  | _ => false

def isDot (segment : List Char) : Bool :=
  segment == ['.'] || segment.map Char.toLower == ['%', '2', 'e']

def isDoubleDot (segment : List Char) : Bool :=
  let s := segment.map Char.toLower
  segment == ['.', '.'] || s == ['.', '%', '2', 'e'] || s == ['%', '2', 'e', '.'] ||
    s == ['%', '2', 'e', '%', '2', 'e']

/-- A path while it is read. `closed` holds the segments that a slash follows, the last one first,
    and `stem` a text in front of the segment that is read next. -/
structure Partial where
  closed : List (List Char)
  stem : List Char
  droppedHost : Bool

namespace Partial

def empty : Partial := ⟨[], [], false⟩

def root : Partial := ⟨[[]], [], false⟩

def text (p : Partial) : List Char :=
  p.closed.reverse.flatMap (· ++ ['/']) ++ p.stem

/-- Removes the last segment, unless it is the only one or a drive letter. -/
def up (p : Partial) : Partial :=
  match p.closed with
  | last :: before :: rest => if isDriveLetter last then p else { p with closed := before :: rest }
  | _ => p

def close (p : Partial) (segment : List Char) : Partial :=
  { p with closed := (p.stem ++ segment) :: p.closed, stem := [] }

/-- Ends the segment `segment`. `slash` says that a slash follows it; the last segment of a path
    stays in `stem`. -/
def push (kind : SchemeKind) (p : Partial) (segment : List Char) (slash : Bool) : Partial :=
  if isDoubleDot segment then
    if p.stem.isEmpty then p.up else if slash then p.close [] else p
  else if isDot segment then
    if p.stem.isEmpty then p else p.close []
  else
    let isDrive := kind == .file && p.closed == [[]] && p.stem.isEmpty && isDriveLetter segment
    let p := if isDrive then { p with droppedHost := true } else p
    let segment := if isDrive then segment.take 1 ++ [':'] else segment
    if slash then p.close segment else { p with stem := p.stem ++ segment }

/-- A drive letter in front of a `file` path is a segment of its own where a tab or a line end
    divides it from the rest. -/
def splitDrive? (kind : SchemeKind) (p : Partial) (raw : List Char) :
    Option (List Char × List Char) :=
  if kind == .file && p.closed == [[]] && p.stem.isEmpty then do
    let (letter, rest) ← next? raw
    let rest ← after? ':' rest
    if isAlpha letter && rest.head?.any isSkipped && !isEmpty rest then
      some ([letter, ':'], visible rest)
    else none
  else none

/-- Ends a segment as it stands in the input. What follows a divided drive letter is not looked at
    for dots. -/
def pushRaw (kind : SchemeKind) (p : Partial) (raw : List Char) (slash : Bool) : Partial :=
  match p.splitDrive? kind raw with
  | some (drive, rest) =>
    let p := p.close drive
    let rest := Percent.encode Percent.path rest
    if slash then p.close rest else { p with stem := rest }
  | none => p.push kind (Percent.encode Percent.path (visible raw)) slash

/-- The text of a finished path. In a `file` URL only one slash stays in front. -/
def finish (kind : SchemeKind) (p : Partial) : String :=
  String.ofList (if kind == .file then '/' :: p.text.dropWhile (· == '/') else p.text)

end Partial

/-- Reads the segments of a path and leaves what follows it. `segment` is the one being read, in
    reverse. -/
def readSegments (kind : SchemeKind) (extent : Extent) (p : Partial) :
    (segment input : List Char) → Partial × List Char
  | segment, [] => (p.pushRaw kind segment.reverse false, [])
  | segment, c :: rest =>
    if c = '/' ∨ (c = '\\' ∧ kind.isSpecial) then
      readSegments kind extent (p.pushRaw kind segment.reverse true) [] rest
    else if extent.ends c then (p.pushRaw kind segment.reverse false, c :: rest)
    else readSegments kind extent p (c :: segment) rest

/-- Reads a path that starts at an authority. `hasHost` is false for a `file` URL without one, whose
    path brings its own slash. -/
def readFromRoot (kind : SchemeKind) (extent : Extent) (hasHost : Bool) (input : List Char) :
    Partial × List Char :=
  if kind.isSpecial then
    if kind = .file ∧ !hasHost then readSegments kind extent .empty [] input
    else
      match next? input with
      | some (c, rest) =>
        readSegments kind extent .root [] (if isSlash c then rest else input)
      | none => readSegments kind extent .root [] []
  else
    match next? input with
    | none => (.empty, input)
    | some (c, _) =>
      if c = '?' ∨ c = '#' then (.empty, input)
      else if c = '/' then readSegments kind extent .empty [] input
      else readSegments kind extent .root [] input

def readOpaque (extent : Extent) (input : List Char) : List Char × List Char :=
  let (text, rest) := span (fun c => !extent.ends c) input
  (Percent.encode Percent.controls text, rest)

/-- The segments of a written path up to its last slash, and the segment behind it. -/
def cutLast (path : String) : Partial × List Char :=
  match (Text.splitOn '/' path.toList).reverse with
  | last :: before => (⟨before, [], false⟩, last)
  | [] => (.empty, [])

end WebFetch.UrlPath
