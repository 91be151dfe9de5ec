import WebFetch.Entries
import WebFetch.Percent
import WebFetch.Text.Split

/-!
Name and value pairs as form text, `name=value` divided by `&`. A blank is written as a plus sign
and every other character but letters, digits and `*-._` as its bytes.
-/

set_option autoImplicit false

namespace WebFetch.Form

def isPlain (c : Char) : Bool :=
  ('a' ≤ c && c ≤ 'z') || ('A' ≤ c && c ≤ 'Z') || ('0' ≤ c && c ≤ '9') ||
    ['*', '-', '.', '_'].contains c

def encodeChar (c : Char) : List Char :=
  if c = ' ' then ['+'] else Percent.encodeChar (fun c => !isPlain c) c

def encode (text : String) : List Char := text.toList.flatMap encodeChar

def renderPair (pair : String × String) : List Char := encode pair.1 ++ '=' :: encode pair.2

def renderChars (pairs : Entries) : List Char := ['&'].intercalate (pairs.map renderPair)

def render (pairs : Entries) : String := String.ofList (renderChars pairs)

/-- A plus sign stands for a blank. -/
def unplus (c : Char) : Char := if c = '+' then ' ' else c

/-- Undoes `encode`. What is not well-formed becomes replacement characters. -/
def decode (cs : List Char) : String :=
  Utf8.decodeLossy (Percent.decode (Utf8.encodeChars (cs.map unplus)))

def parsePair (cs : List Char) : String × String :=
  let (name, value) := (Text.cut? '=' cs).getD (cs, [])
  (decode name, decode value)

/-- Reads every non-empty part; one without `=` is a name with an empty value. -/
def parseChars (cs : List Char) : Entries :=
  ((Text.splitOn '&' cs).filter fun part => !part.isEmpty).map parsePair

def parse (text : String) : Entries := parseChars text.toList

end WebFetch.Form
