import WebFetch.Text.Split
import WebFetch.Url.Error

/-!
Hosts that are addresses. A dotted address may have fewer than four parts, each of them decimal,
octal or hexadecimal; a bracketed one has eight pieces, of which one run of zeros may be left out
and the last two may be written as a dotted address.
-/

set_option autoImplicit false

namespace WebFetch

def digitIn? (radix : Nat) (c : Char) : Option Nat :=
  let d := if '0' ≤ c ∧ c ≤ '9' then c.toNat - 48
    else if 'a' ≤ c ∧ c ≤ 'f' then c.toNat - 87
    else if 'A' ≤ c ∧ c ≤ 'F' then c.toNat - 55
    else radix
  if d < radix then some d else none

namespace Ipv4

/-- The value of a run of digits, if all are digits of the radix. -/
def digits? (radix : Nat) (cs : List Char) : Option Nat :=
  cs.foldl (fun n c => do return (← n) * radix + (← digitIn? radix c)) (some 0)

/-- A number in the radix that its first characters announce. After `0x` it may be empty. -/
def number? : List Char → Option Nat
  | [] => none
  | ['0'] => some 0
  | '0' :: 'x' :: rest | '0' :: 'X' :: rest => digits? 16 rest
  | '0' :: rest => digits? 8 rest
  | cs => digits? 10 cs

def parts (cs : List Char) : List (List Char) :=
  let all := Text.splitOn '.' cs
  if all.length > 1 ∧ all.getLast? = some [] then all.dropLast else all

/-- The last part is digits only or a number; then the host has to be an address. -/
def endsInNumber (cs : List Char) : Bool :=
  match (parts cs).getLast? with
  | none => false
  | some last => (!last.isEmpty && last.all fun c => '0' ≤ c && c ≤ '9') || (number? last).isSome

/-- Every part but the last is one byte; the last fills the bytes that remain. -/
def parse (cs : List Char) : Except UrlError UInt32 :=
  let parts := parts cs
  if parts.length > 4 then .error .ipv4
  else match parts.mapM number? with
    | none => .error .ipv4
    | some numbers =>
      let leading := numbers.dropLast
      let last := numbers.getLastD 0
      if last ≥ Nat.pow 256 (4 - leading.length) ∨ leading.any (· > 255) then .error .ipv4
      else
        let high := leading.foldl (fun n part => n * 256 + part) 0
        .ok (UInt32.ofNat (high * Nat.pow 256 (4 - leading.length) + last))

def render (address : UInt32) : String :=
  let n := address.toNat
  ".".intercalate ([n / 16777216, n / 65536 % 256, n / 256 % 256, n % 256].map toString)

end Ipv4

namespace Ipv6

/-- Pieces read so far, with the place of the gap. The gap itself counts as one piece. -/
structure Pieces where
  values : List Nat
  gap : Option Nat

def hexDigits : (n value : Nat) → List Char → Nat × List Char
  | 0, value, cs => (value, cs)
  | _, value, [] => (value, [])
  | n + 1, value, c :: rest =>
    match digitIn? 16 c with
    | some d => hexDigits n (value * 16 + d) rest
    | none => (value, c :: rest)

/-- A decimal number up to 255 that has no leading zero. -/
def byte? (cs : List Char) : Option Nat :=
  match cs with
  | [] => none
  | '0' :: _ :: _ => none
  | _ => if cs.length ≤ 3 then (Ipv4.digits? 10 cs).filter (· ≤ 255) else none

/-- Four bytes as two pieces. -/
def dotted? (cs : List Char) : Option (List Nat) :=
  match (Text.splitOn '.' cs).mapM byte? with
  | some [a, b, c, d] => some [a * 256 + b, c * 256 + d]
  | _ => none

/-- Reads pieces divided by colons. -/
def pieces? : (fuel : Nat) → Pieces → List Char → Option Pieces
  | 0, _, _ => none
  | _, p, [] => some p
  | fuel + 1, p, ':' :: rest =>
    if p.values.length ≥ 8 ∨ p.gap.isSome then none
    else pieces? fuel ⟨p.values ++ [0], some (p.values.length + 1)⟩ rest
  | fuel + 1, p, c :: rest =>
    if p.values.length ≥ 8 then none
    else
      let (value, after) := hexDigits 4 0 (c :: rest)
      let next : Pieces := ⟨p.values ++ [value], p.gap⟩
      match after with
      | [] => some next
      | ':' :: more => if more.isEmpty then none else pieces? fuel next more
      | '.' :: _ =>
        if c = '.' ∨ p.values.length > 6 then none
        else (dotted? (c :: rest)).map fun last => ⟨p.values ++ last, p.gap⟩
      | _ => none

/-- All eight pieces, with zeros put in at the gap. -/
def fill? (p : Pieces) : Option (List Nat) :=
  match p.gap with
  | none => if p.values.length = 8 then some p.values else none
  | some gap =>
    some (p.values.take gap ++ List.replicate (8 - p.values.length) 0 ++ p.values.drop gap)

def parse (cs : List Char) : Except UrlError (List Nat) :=
  let read := match cs with
    | ':' :: ':' :: rest => pieces? (rest.length + 1) ⟨[0], some 1⟩ rest
    | ':' :: _ => none
    | _ => if cs.length < 2 then none else pieces? (cs.length + 1) ⟨[], none⟩ cs
  match read.bind fill? with
  | some pieces => .ok pieces
  | none => .error .ipv6

/-- The length of the run of zeros in front. -/
def zeros (pieces : List Nat) : Nat := (pieces.takeWhile (· == 0)).length

/-- Start and length of the first longest run of at least two zeros. -/
def longestGap? (pieces : List Nat) : Option (Nat × Nat) :=
  (List.range pieces.length).foldl
    (fun best i =>
      let n := zeros (pieces.drop i)
      match best with
      | some (_, m) => if n > m then some (i, n) else best
      | none => if n ≥ 2 then some (i, n) else none)
    none

def hex (pieces : List Nat) : String :=
  ":".intercalate (pieces.map fun n => String.ofList (Nat.toDigits 16 n))

/-- The canonical text, without brackets. -/
def render (pieces : List Nat) : String :=
  match longestGap? pieces with
  | some (start, length) => hex (pieces.take start) ++ "::" ++ hex (pieces.drop (start + length))
  | none => hex pieces

end Ipv6

end WebFetch
