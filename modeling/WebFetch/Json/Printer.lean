import WebFetch.Decimal.Shortest
import WebFetch.Json.Value

/-!
The compact text of a JSON value: no blanks, escapes only where the grammar asks for them, and
doubles by their shortest digits.
-/

set_option autoImplicit false

namespace WebFetch.Json

def hexDigit (n : Nat) : Char := Char.ofNat (if n < 10 then 48 + n else 87 + n)

def escapeChar (c : Char) : List Char :=
  if c = '"' then ['\\', '"']
  else if c = '\\' then ['\\', '\\']
  else if c = '\x08' then ['\\', 'b']
  else if c = '\x0c' then ['\\', 'f']
  else if c = '\n' then ['\\', 'n']
  else if c = '\r' then ['\\', 'r']
  else if c = '\t' then ['\\', 't']
  else if c < ' ' then
    ['\\', 'u', '0', '0', hexDigit (c.toNat / 16), hexDigit (c.toNat % 16)]
  else [c]

def quote (s : String) : List Char := '"' :: (s.toList.flatMap escapeChar ++ ['"'])

/-- Where doubles are written without an exponent: from `10 ^ low` on and below `10 ^ high`. -/
structure FloatLayout where
  low : Int
  high : Int

/-- Doubles are positional from 0.00001 on and below 10 ^ 16, and then have at least one place. -/
def floatLayout : FloatLayout := ⟨-5, 16⟩

/-- Lays out digits of which the first has the weight `10 ^ top`. -/
def layDigits (layout : FloatLayout) (digits : List Char) (top : Int) : List Char :=
  if layout.low ≤ top ∧ top < layout.high then
    if top < 0 then '0' :: '.' :: (List.replicate (-top - 1).toNat '0' ++ digits)
    else
      let whole := top.toNat + 1
      let places := digits.drop whole
      digits.take whole ++ List.replicate (whole - digits.length) '0' ++
        '.' :: (if places.isEmpty then ['0'] else places)
  else
    let sign := if top < 0 then '-' else '+'
    let tail := match digits.drop 1 with
      | [] => []
      | places => '.' :: places
    digits.take 1 ++ tail ++ 'e' :: sign :: Nat.toDigits 10 top.natAbs

def Number.render : Number → List Char
  | .integer n => (toString n).toList
  | .float x =>
    if x.isNaN || x.isInf then ['n', 'u', 'l', 'l']
    else
      let sign := if x.toBits ≥ 0x8000000000000000 then ['-'] else []
      if x == 0 then sign ++ ['0', '.', '0']
      else
        let d := Decimal.shortest x
        let digits := Nat.toDigits 10 d.digits
        sign ++ layDigits floatLayout digits (d.exponent + digits.length - 1)

mutual

def Value.chars : Value → List Char
  | .null => ['n', 'u', 'l', 'l']
  | .bool true => ['t', 'r', 'u', 'e']
  | .bool false => ['f', 'a', 'l', 's', 'e']
  | .number n => n.render
  | .string s => quote s
  | .array items => '[' :: (itemChars items ++ [']'])
  | .object members => '\x7b' :: (memberChars members ++ ['\x7d'])

/-- Items divided by commas. -/
def itemChars : List Value → List Char
  | [] => []
  | [item] => item.chars
  | item :: rest => item.chars ++ ',' :: itemChars rest

/-- Members divided by commas. -/
def memberChars : List (String × Value) → List Char
  | [] => []
  | [(key, value)] => quote key ++ ':' :: value.chars
  | (key, value) :: rest => quote key ++ ':' :: (value.chars ++ ',' :: memberChars rest)

end

def Value.render (v : Value) : String := String.ofList v.chars

end WebFetch.Json
