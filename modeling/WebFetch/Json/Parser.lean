import WebFetch.Json.Error
import WebFetch.Json.Value

/-!
Reading JSON. Each reader takes the text that is left and returns what it read with the text behind
it, or the first fault. Arrays and objects nest to a bounded depth.
-/

set_option autoImplicit false

namespace WebFetch.Json

abbrev Reader (α : Type) := List Char → Except Fault (α × List Char)

/-- A fault in front of what is left. -/
def failAt {α : Type} (reason : Reason) (rest : List Char) : Except Fault α :=
  .error ⟨reason, rest, 0⟩

/-- A fault at the byte that comes next. -/
def failOn {α : Type} (reason : Reason) (rest : List Char) : Except Fault α :=
  .error ⟨reason, rest, 1⟩

def isBlank (c : Char) : Bool := c == ' ' || c == '\n' || c == '\t' || c == '\r'

def skipBlanks (cs : List Char) : List Char := cs.dropWhile isBlank

def isDigit (c : Char) : Bool := '0' ≤ c && c ≤ '9'

def digit (c : Char) : Nat := c.toNat - 48

/-! ## Words and strings -/

/-- Reads the rest of a word whose first letter is read. -/
def readWord (value : Value) : List Char → Reader Value
  | [], cs => .ok (value, cs)
  | expected :: word, cs =>
    match cs with
    | [] => failAt .endInValue []
    | c :: rest => if c = expected then readWord value word rest else failOn .expectedIdent cs

def hexValue? (c : Char) : Option Nat :=
  if '0' ≤ c ∧ c ≤ '9' then some (c.toNat - 48)
  else if 'a' ≤ c ∧ c ≤ 'f' then some (c.toNat - 87)
  else if 'A' ≤ c ∧ c ≤ 'F' then some (c.toNat - 55)
  else none

def hasBytes : (n : Nat) → List Char → Bool
  | 0, _ => true
  | _ + 1, [] => false
  | n + 1, c :: rest => hasBytes (n + 1 - c.utf8Size) rest
termination_by _ cs => cs.length

def readHex (cs : List Char) : Except Fault (Nat × List Char) :=
  match cs with
  | a :: b :: c :: d :: rest =>
    match hexValue? a, hexValue? b, hexValue? c, hexValue? d with
    | some a, some b, some c, some d => .ok (((a * 16 + b) * 16 + c) * 16 + d, rest)
    | _, _, _, _ => .error ⟨.invalidEscape, cs, 4⟩
  | _ => if hasBytes 4 cs then .error ⟨.invalidEscape, cs, 4⟩ else failAt .endInString []

/-- Reads one expected character of the second half of a pair of surrogates. -/
def readPairChar (expected : Char) : Reader Unit
  | [] => failAt .endInString []
  | c :: rest => if c = expected then .ok ((), rest) else failOn .surrogateUnpaired (c :: rest)

/-- The character of an escape `\u`; one outside the basic plane is written as two of them. -/
def readUnicode (cs : List Char) : Except Fault (Char × List Char) := do
  let (n, rest) ← readHex cs
  if 0xDC00 ≤ n ∧ n ≤ 0xDFFF then failAt .loneSurrogate rest
  else if n < 0xD800 ∨ 0xDBFF < n then return (Char.ofNat n, rest)
  else
    let (_, rest) ← readPairChar '\\' rest
    let (_, rest) ← readPairChar 'u' rest
    let (m, rest) ← readHex rest
    if m < 0xDC00 ∨ 0xDFFF < m then failAt .loneSurrogate rest
    else return (Char.ofNat (0x10000 + (n - 0xD800) * 0x400 + (m - 0xDC00)), rest)

/-- The character of an escape, behind the backslash. -/
def readEscape (cs : List Char) : Except Fault (Char × List Char) :=
  match cs with
  | [] => failAt .endInString []
  | '"' :: rest => .ok ('"', rest)
  | '\\' :: rest => .ok ('\\', rest)
  | '/' :: rest => .ok ('/', rest)
  | 'b' :: rest => .ok ('\x08', rest)
  | 'f' :: rest => .ok ('\x0c', rest)
  | 'n' :: rest => .ok ('\n', rest)
  | 'r' :: rest => .ok ('\r', rest)
  | 't' :: rest => .ok ('\t', rest)
  | 'u' :: rest => readUnicode rest
  | _ => failOn .invalidEscape cs

/-- Reads a string behind its first quote. `fuel` bounds the characters. -/
def readStringChars : (fuel : Nat) → List Char → Except Fault (List Char × List Char)
  | 0, cs => failAt .endInString cs
  | _, [] => failAt .endInString []
  | fuel + 1, c :: rest =>
    if c = '"' then .ok ([], rest)
    else if c = '\\' then do
      let (x, rest) ← readEscape rest
      let (xs, rest) ← readStringChars fuel rest
      return (x :: xs, rest)
    else if c < ' ' then failOn .controlCharacter (c :: rest)
    else do
      let (xs, rest) ← readStringChars fuel rest
      return (c :: xs, rest)

def readString (cs : List Char) : Except Fault (String × List Char) := do
  let (xs, rest) ← readStringChars (cs.length + 1) cs
  return (String.ofList xs, rest)

/-! ## Numbers -/

/-- The largest whole number that is kept exactly while digits are read. -/
def largest : Nat := 0xFFFFFFFFFFFFFFFF

/-- Adds digits to `n` as long as the result is at most `largest`. Also counts them. -/
def readDigits : (n count : Nat) → List Char → Nat × Nat × List Char
  | n, count, [] => (n, count, [])
  | n, count, c :: rest =>
    if isDigit c ∧ n * 10 + digit c ≤ largest then readDigits (n * 10 + digit c) (count + 1) rest
    else (n, count, c :: rest)

def tenTo (n : Nat) : Float := Float.ofScientific 1 false n

def greatestPower : Nat := 308

/-- `n * 10 ^ exponent`, by one multiplication or division with a power of ten after as many
    divisions by the greatest power as it takes; `none` where it is too large. -/
def scale? : (fuel : Nat) → Float → (exponent : Int) → Option Float
  | 0, x, _ => some x
  | fuel + 1, x, exponent =>
    if exponent.natAbs ≤ greatestPower then
      if exponent ≥ 0 then
        let y := x * tenTo exponent.natAbs
        if y.isInf then none else some y
      else some (x / tenTo exponent.natAbs)
    else if x == 0 then some x
    else if exponent ≥ 0 then none
    else scale? fuel (x / tenTo greatestPower) (exponent + greatestPower)

/-- The double for `n * 10 ^ exponent` with its sign. -/
def readFloat (negative : Bool) (n : Nat) (exponent : Int) (rest : List Char) :
    Except Fault (Number × List Char) :=
  -- A double below 10 ^ 20 is zero after three divisions by 10 ^ 308.
  match scale? 8 (Float.ofNat n) exponent with
  | some x => .ok (.float (if negative then -x else x), rest)
  | none => failAt .numberOutOfRange rest

/-- Exponents beyond this are not told apart. -/
def exponentLimit : Nat := 0x7FFFFFFF

def clampExponent (e : Int) : Int := max (-0x80000000) (min e 0x7FFFFFFF)

/-- Adds digits to an exponent; stops behind the digit that makes it too large. -/
def readExponentDigits : (n : Nat) → List Char → Option Nat × List Char
  | n, [] => (some n, [])
  | n, c :: rest =>
    if isDigit c then
      if n * 10 + digit c ≤ exponentLimit then readExponentDigits (n * 10 + digit c) rest
      else (none, rest)
    else (some n, c :: rest)

def readExponent (negative : Bool) (n : Nat) (exponent : Int) (cs : List Char) :
    Except Fault (Number × List Char) :=
  let (down, cs) := match cs with
    | '+' :: rest => (false, rest)
    | '-' :: rest => (true, rest)
    | _ => (false, cs)
  match cs with
  | [] => failAt .endInValue []
  | c :: rest =>
    if !isDigit c then failOn .invalidNumber cs
    else match readExponentDigits (digit c) rest with
      | (some e, rest) =>
        readFloat negative n (clampExponent (if down then exponent - e else exponent + e)) rest
      | (none, rest) =>
        if n ≠ 0 ∧ !down then failAt .numberOutOfRange rest
        else .ok (.float (if negative then -0.0 else 0.0), rest.dropWhile isDigit)

def readTail (negative : Bool) (n : Nat) (exponent : Int) (cs : List Char) :
    Except Fault (Number × List Char) :=
  match cs with
  | c :: rest =>
    if c = 'e' ∨ c = 'E' then readExponent negative n exponent rest
    else readFloat negative n exponent cs
  | [] => readFloat negative n exponent []

/-- Reads the places behind the point. Those that do not fit are passed over. -/
def readPlaces (negative : Bool) (n : Nat) (exponent : Int) (cs : List Char) :
    Except Fault (Number × List Char) :=
  let (n, count, rest) := readDigits n 0 cs
  let exponent := exponent - count
  match rest with
  | c :: _ =>
    if isDigit c then readTail negative n exponent (rest.dropWhile isDigit)
    else if count = 0 then failOn .invalidNumber rest
    else readTail negative n exponent rest
  | [] => if count = 0 then failOn .endInValue [] else readTail negative n exponent []

/-- A whole number, if 64 bits hold it. -/
def wholeNumber (negative : Bool) (n : Nat) : Number :=
  if negative then
    if n = 0 ∨ n > 0x8000000000000000 then .float (-(Float.ofNat n)) else .integer (-n)
  else .integer n

/-- Reads what follows the whole part. `exponent` counts digits that were passed over; with it the
    number is a double in any case. -/
def readAfterWhole (negative : Bool) (n : Nat) (exponent : Option Int) (cs : List Char) :
    Except Fault (Number × List Char) :=
  match cs, exponent with
  | '.' :: rest, _ => readPlaces negative n (exponent.getD 0) rest
  | 'e' :: rest, _ | 'E' :: rest, _ => readExponent negative n (exponent.getD 0) rest
  | _, some e => readFloat negative n e cs
  | _, none => .ok (wholeNumber negative n, cs)

def readNumber (negative : Bool) (cs : List Char) : Except Fault (Number × List Char) :=
  match cs with
  | [] => failAt .endInValue []
  | c :: rest =>
    if c = '0' then
      match rest with
      | d :: _ =>
        if isDigit d then failOn .invalidNumber rest else readAfterWhole negative 0 none rest
      | [] => readAfterWhole negative 0 none []
    else if isDigit c then
      let (n, _, rest) := readDigits (digit c) 1 rest
      let beyond := rest.takeWhile isDigit
      if beyond.isEmpty then readAfterWhole negative n none rest
      else readAfterWhole negative n (some beyond.length) (rest.drop beyond.length)
    else failOn .invalidNumber cs

/-! ## Arrays, objects and whole texts -/

/-- Reads items behind the opening bracket. `fuel` bounds their number. -/
def readItems (item : Reader Value) : (fuel : Nat) → (first : Bool) → Reader (List Value)
  | 0, _, cs => failAt .endInList cs
  | fuel + 1, first, cs =>
    match skipBlanks cs with
    | [] => failOn .endInList []
    | c :: rest =>
      if c = ']' then .ok ([], rest)
      else if first then more fuel (c :: rest)
      else if c = ',' then
        match skipBlanks rest with
        | [] => failOn .endInValue []
        | d :: rest => if d = ']' then failOn .trailingComma (d :: rest) else more fuel (d :: rest)
      else failOn .expectedListEnd (c :: rest)
where
  more (fuel : Nat) (cs : List Char) : Except Fault (List Value × List Char) := do
    let (value, rest) ← item cs
    let (values, rest) ← readItems item fuel false rest
    return (value :: values, rest)

def readColon : Reader Unit := fun cs =>
  match skipBlanks cs with
  | [] => failOn .endInObject []
  | c :: rest => if c = ':' then .ok ((), rest) else failOn .expectedColon (c :: rest)

/-- Reads members behind the opening brace. `fuel` bounds their number. -/
def readMembers (item : Reader Value) :
    (fuel : Nat) → (first : Bool) → Reader (List (String × Value))
  | 0, _, cs => failAt .endInObject cs
  | fuel + 1, first, cs =>
    match skipBlanks cs with
    | [] => failOn .endInObject []
    | c :: rest =>
      if c = '\x7d' then .ok ([], rest)
      else if first then
        if c = '"' then more fuel rest else failOn .keyNotString (c :: rest)
      else if c = ',' then
        match skipBlanks rest with
        | [] => failOn .endInValue []
        | d :: rest =>
          if d = '"' then more fuel rest
          else if d = '\x7d' then failOn .trailingComma (d :: rest)
          else failOn .keyNotString (d :: rest)
      else failOn .expectedObjectEnd (c :: rest)
where
  more (fuel : Nat) (cs : List Char) : Except Fault (List (String × Value) × List Char) := do
    let (key, rest) ← readString cs
    let (_, rest) ← readColon rest
    let (value, rest) ← item rest
    let (members, rest) ← readMembers item fuel false rest
    return ((key, value) :: members, rest)

/-- Reads a value that holds arrays and objects `room` levels deep at most. -/
def readValue : (room : Nat) → Reader Value
  | room, cs =>
    match skipBlanks cs with
    | [] => failOn .endInValue []
    | c :: rest =>
      if c = 'n' then readWord .null ['u', 'l', 'l'] rest
      else if c = 't' then readWord (.bool true) ['r', 'u', 'e'] rest
      else if c = 'f' then readWord (.bool false) ['a', 'l', 's', 'e'] rest
      else if c = '"' then do
        let (s, rest) ← readString rest
        return (.string s, rest)
      else if c = '-' then do
        let (n, rest) ← readNumber true rest
        return (.number n, rest)
      else if isDigit c then do
        let (n, rest) ← readNumber false (c :: rest)
        return (.number n, rest)
      else if c = '[' then
        match room with
        | 0 => failOn .tooDeep (c :: rest)
        | room + 1 => do
          let (items, rest) ← readItems (readValue room) (rest.length + 1) true rest
          return (.array items, rest)
      else if c = '\x7b' then
        match room with
        | 0 => failOn .tooDeep (c :: rest)
        | room + 1 => do
          let (members, rest) ← readMembers (readValue room) (rest.length + 1) true rest
          return (Value.ofMembers members, rest)
      else failOn .expectedValue (c :: rest)

def depthLimit : Nat := 127

/-- Reads a text that is one value with blanks around it. -/
def parse (text : String) : Except SyntaxError Value :=
  let cs := text.toList
  let read : Except Fault Value := do
    let (value, rest) ← readValue depthLimit cs
    match skipBlanks rest with
    | [] => return value
    | more => failOn .trailingCharacters more
  match read with
  | .ok value => .ok value
  | .error fault => .error (fault.locate cs)

end WebFetch.Json
