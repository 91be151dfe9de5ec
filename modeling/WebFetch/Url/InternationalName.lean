import WebFetch.Percent
import WebFetch.Unicode.Direction
import WebFetch.Unicode.Joining
import WebFetch.Unicode.Marks
import WebFetch.Unicode.NameMapping
import WebFetch.Unicode.Normalization
import WebFetch.Url.Punycode

/-!
Host names outside ASCII in their ASCII form. A name is mapped and composed, cut into labels, and
each label is checked and written in Punycode behind `xn--`. A label that comes in this form is
decoded and has to pass the same checks unchanged.
-/

set_option autoImplicit false

namespace WebFetch.InternationalName
open Unicode

/-- ASCII characters that no label may hold. -/
def isForbidden (c : Char) : Bool :=
  c ≤ ' ' || c == '\x7f' ||
    ['%', '#', '/', ':', '<', '>', '?', '@', '[', '\\', ']', '^', '|'].contains c

def encodedMark : List Char := ['x', 'n', '-', '-']

def isAscii (cs : List Char) : Bool := cs.all fun c => c.toNat < 128

/-- The longest Punycode text that is decoded and the longest label that is encoded. -/
def decodeLimit : Nat := 2000
def encodeLimit : Nat := 1000

def map? (cs : List Char) : Option (List Char) :=
  (cs.mapM mapNameChar?).map fun parts => normalize parts.flatten

/-- A joiner may follow a virama; a non-joiner also stands between characters that it keeps from
    joining. `before` holds the characters to the left, the nearest first. -/
def joinersAllowed : (before rest : List Char) → Bool
  | _, [] => true
  | before, c :: rest =>
    let afterVirama := match before with
      | d :: _ => combiningClass d == viramaClass
      | [] => false
    let between :=
      (match before.dropWhile joinsThrough.containsChar with
        | d :: _ => joinsForward.containsChar d
        | [] => false) &&
      (match rest.dropWhile joinsThrough.containsChar with
        | d :: _ => joinsBackward.containsChar d
        | [] => false)
    (if c = '\u200d' then afterVirama
      else if c = '\u200c' then afterVirama || between
      else true) &&
    joinersAllowed (c :: before) rest

/-- What holds for every label, however it was written. -/
def isValidLabel (label : List Char) : Bool :=
  !(match label with
    | c :: _ => isMark c
    | [] => false) &&
  label.all (fun c => !isForbidden c && c != '.') &&
  joinersAllowed [] label

/-- The text of a label that came as Punycode; `code` follows the mark. It has to decode to
    something outside ASCII that mapping and composition leave as it is. -/
def decodeLabel? (code : List Char) : Option (List Char) :=
  if code.isEmpty || code.getLast? == some '-' || code.length > decodeLimit || !isAscii code then
    none
  else do
    let label ← Punycode.decode? code
    let mapped ← map? label
    if isAscii label || mapped != label then none else some label

/-- The text of a mapped label, decoded if it has to be. -/
def labelText? (label : List Char) : Option (List Char) :=
  if encodedMark.isPrefixOf label then
    (decodeLabel? (label.drop encodedMark.length)).filter isValidLabel
  else if isValidLabel label then some label
  else none

def isNumber (d : Direction) : Bool := d == .arabicNumber || d == .europeanNumber

/-- A label of a name with right-to-left text reads in one direction from its first character to
    its last, marks at the end aside. -/
def directionAllowed (label : List Char) : Bool :=
  match label.map direction with
  | [] => true
  | first :: rest =>
    let body := (rest.reverse.dropWhile (· == .nonspacing)).reverse
    match first with
    | .leftToRight =>
      body.all (fun d => [.leftToRight, .europeanNumber, .nonspacing, .neutral].contains d) &&
      (match body.getLast? with
        | none => true
        | some d => d == .leftToRight || d == .europeanNumber)
    | .rightToLeft =>
      body.all (fun d => d != .leftToRight && d != .excluded) &&
      (match body.getLast? with
        | none => true
        | some d => d == .rightToLeft || isNumber d) &&
      !(body.contains .arabicNumber && body.contains .europeanNumber)
    | _ => false

def isRightToLeft (label : List Char) : Bool :=
  label.any fun c => direction c == .rightToLeft || direction c == .arabicNumber

def encodeLabel? (label : List Char) : Option (List Char) :=
  if isAscii label then some label
  else if label.length > encodeLimit then none
  else some (encodedMark ++ Punycode.encode label)

/-- The ASCII form of a host name, or nothing if the name is not valid. -/
def toAscii? (name : List Char) : Option (List Char) := do
  let mapped ← map? name
  let labels ← (Text.splitOn '.' mapped).mapM labelText?
  if labels.any isRightToLeft && !labels.all directionAllowed then none
  let written ← labels.mapM encodeLabel?
  return ['.'].intercalate written

end WebFetch.InternationalName
