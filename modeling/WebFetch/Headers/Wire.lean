import WebFetch.Error
import WebFetch.Headers.Basic
import WebFetch.Panic
import WebFetch.Text.Utf8

/-!
Headers as they go over the wire: checked names, values as bytes, and the values of one name side by
side. A map has room for a limited number of entries only, and asking for more is a panic.
-/

set_option autoImplicit false

namespace WebFetch

/-- A character of a token: a letter, a digit or one of a few marks. -/
def isTokenChar (c : Char) : Bool :=
  ('a' ≤ c && c ≤ 'z') || ('A' ≤ c && c ≤ 'Z') || ('0' ≤ c && c ≤ '9') ||
    ['!', '#', '$', '%', '&', '\'', '*', '+', '-', '.', '^', '_', '\x60', '|', '~'].contains c

def isToken (text : String) : Bool := !text.isEmpty && text.toList.all isTokenChar

def headerNameLimit : Nat := 65535

def isHeaderName (name : String) : Bool := isToken name && name.utf8ByteSize ≤ headerNameLimit

/-- No controls but tabs; bytes outside ASCII are taken as they are. -/
def isHeaderByte (b : UInt8) : Bool := (b ≥ 0x20 && b != 0x7F) || b == 0x09

def isHeaderValue (value : String) : Bool := (Utf8.encode value).all isHeaderByte

/-- Names in the order in which they first came, each with its values. -/
structure HeaderMap where
  groups : List (String × List Bytes)
  deriving DecidableEq

namespace HeaderMap

def empty : HeaderMap := ⟨[]⟩

def appendTo (name : String) (value : Bytes) :
    List (String × List Bytes) → List (String × List Bytes)
  | [] => [(name, [value])]
  | group :: rest =>
    if group.1 = name then (name, group.2 ++ [value]) :: rest else group :: appendTo name value rest

/-- Adds a value behind those of its name, which is taken in lower case. -/
def append (map : HeaderMap) (name : String) (value : Bytes) : HeaderMap :=
  ⟨appendTo (Headers.lower name) value map.groups⟩

def entries (map : HeaderMap) : List (String × Bytes) :=
  map.groups.flatMap fun group => group.2.map fun value => (group.1, value)

/-- The slots that a number of entries asks for: three quarters of them can be taken. -/
def slots (count : Nat) : Nat := count + count / 3

/-- The most slots that a map can have. It is a power of two, as the number of slots of any map is,
    so rounding `slots` up to one changes nothing. -/
def maxSlots : Nat := 32768

def overflow : Panic := .text "size overflows MAX_SIZE: MaxSizeReached"

end HeaderMap

namespace Headers

/-- The first fault of an entry, that of its name before that of its value. -/
def entryFault? (entry : String × String) : Option Invalid :=
  if !isHeaderName entry.1 then some (.headerName entry.1)
  else if !isHeaderValue entry.2 then some (.headerValue entry.2)
  else none

/-- Checks all entries in order and groups them by name, in a map that has room for them. -/
def toHeaderMap (h : Headers) : Except Invalid HeaderMap :=
  h.entries.foldlM
    (fun map entry =>
      match entryFault? entry with
      | some fault => .error fault
      | none => .ok (map.append entry.1 (Utf8.encode entry.2)))
    .empty

/-- Reads values as UTF-8; ill-formed parts become replacement characters. -/
def ofHeaderMap (map : HeaderMap) : Headers :=
  ofList (map.entries.map fun (name, value) => (name, Utf8.decodeLossy value))

end Headers

/-- Makes room for all entries before it looks at any of them. A map with room for its entries takes
    them all, whatever the hashes of their names. -/
def HeaderMap.ofHeaders (h : Headers) : Attempt (Except Invalid HeaderMap) :=
  if slots h.size ≤ maxSlots then .returned h.toHeaderMap else .panicked overflow

end WebFetch
