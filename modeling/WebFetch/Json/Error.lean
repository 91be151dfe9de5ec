/-!
Why a text is no JSON, and where. Lines count from one and columns count bytes.
-/

set_option autoImplicit false

namespace WebFetch.Json

inductive Reason where
  | endInList
  | endInObject
  | endInString
  | endInValue
  | expectedColon
  | expectedListEnd
  | expectedObjectEnd
  | expectedIdent
  | expectedValue
  | invalidEscape
  | invalidNumber
  | numberOutOfRange
  | controlCharacter
  | keyNotString
  | loneSurrogate
  | surrogateUnpaired
  | trailingComma
  | trailingCharacters
  | tooDeep
  deriving DecidableEq

def Reason.message : Reason → String
  | .endInList => "EOF while parsing a list"
  | .endInObject => "EOF while parsing an object"
  | .endInString => "EOF while parsing a string"
  | .endInValue => "EOF while parsing a value"
  | .expectedColon => "expected \x60:\x60"
  | .expectedListEnd => "expected \x60,\x60 or \x60]\x60"
  | .expectedObjectEnd => "expected \x60,\x60 or \x60\x7d\x60"
  | .expectedIdent => "expected ident"
  | .expectedValue => "expected value"
  | .invalidEscape => "invalid escape"
  | .invalidNumber => "invalid number"
  | .numberOutOfRange => "number out of range"
  | .controlCharacter => "control character (\\u0000-\\u001F) found while parsing a string"
  | .keyNotString => "key must be a string"
  | .loneSurrogate => "lone leading surrogate in hex escape"
  | .surrogateUnpaired => "unexpected end of hex escape"
  | .trailingComma => "trailing comma"
  | .trailingCharacters => "trailing characters"
  | .tooDeep => "recursion limit exceeded"

/-- A place in a text: the line, and the bytes of it that lie before. -/
structure Place where
  line : Nat
  column : Nat
  deriving DecidableEq

def Place.start : Place := ⟨1, 0⟩

def Place.after (p : Place) (c : Char) : Place :=
  if c = '\n' then ⟨p.line + 1, 0⟩ else ⟨p.line, p.column + c.utf8Size⟩

/-- The place `n` bytes further on, at most at the end of the text. -/
def Place.advance (p : Place) : (n : Nat) → List Char → Place
  | 0, _ | _, [] => p
  | n + 1, c :: rest =>
    if c.utf8Size ≤ n + 1 then (p.after c).advance (n + 1 - c.utf8Size) rest
    else ⟨p.line, p.column + (n + 1)⟩
termination_by _ cs => cs.length

structure SyntaxError where
  reason : Reason
  place : Place
  deriving DecidableEq

def SyntaxError.message (e : SyntaxError) : String :=
  e.reason.message ++ " at line " ++ toString e.place.line ++ " column " ++ toString e.place.column

/-- A failure while reading: what is left of the text, and how many bytes of that were looked at. -/
structure Fault where
  reason : Reason
  rest : List Char
  ahead : Nat

def Fault.locate (f : Fault) (text : List Char) : SyntaxError :=
  let consumed := text.take (text.length - f.rest.length)
  ⟨f.reason, (consumed.foldl Place.after .start).advance f.ahead f.rest⟩

end WebFetch.Json
