import WebFetch.Text.Split

/-!
The encoding of labels outside ASCII by letters, digits and hyphens: the ASCII characters first,
then every insertion as a number of variable length, weighted by an adapting bias.
-/

set_option autoImplicit false

namespace WebFetch.Punycode

def base : Nat := 36
def lowest : Nat := 1
def highest : Nat := 26
def initialBias : Nat := 72
def initialPoint : Nat := 128

/-- Quotients of `delta` until it is small, with the weight of their number. -/
def shrink : (fuel delta k : Nat) → Nat × Nat
  | 0, delta, k => (delta, k)
  | fuel + 1, delta, k =>
    if delta > (base - lowest) * highest / 2 then shrink fuel (delta / (base - lowest)) (k + base)
    else (delta, k)

def adapt (delta points : Nat) (first : Bool) : Nat :=
  let delta := if first then delta / 700 else delta / 2
  let (delta, k) := shrink 64 (delta + delta / points) 0
  k + (base - lowest + 1) * delta / (delta + 38)

def threshold (k bias : Nat) : Nat :=
  if k ≤ bias then lowest else if bias + highest ≤ k then highest else k - bias

def digitChar (d : Nat) : Char := Char.ofNat (if d < 26 then 97 + d else 22 + d)

def digitValue? (c : Char) : Option Nat :=
  if 'a' ≤ c ∧ c ≤ 'z' then some (c.toNat - 97)
  else if 'A' ≤ c ∧ c ≤ 'Z' then some (c.toNat - 65)
  else if '0' ≤ c ∧ c ≤ '9' then some (c.toNat - 22)
  else none

/-- The digits of one number, least significant first. -/
def encodeNumber : (fuel q k bias : Nat) → List Char
  | 0, _, _, _ => []
  | fuel + 1, q, k, bias =>
    let t := threshold k bias
    if q < t then [digitChar q]
    else digitChar (t + (q - t) % (base - t)) ::
      encodeNumber fuel ((q - t) / (base - t)) (k + base) bias

/-- Where encoding stands: the point reached, the delta gathered, the bias, and how many
    characters are written. -/
structure Encoder where
  delta : Nat
  bias : Nat
  written : Nat
  output : List Char

def encodePoint (basics point : Nat) (label : List Char) (e : Encoder) : Encoder :=
  label.foldl
    (fun e c =>
      if c.toNat < point then { e with delta := e.delta + 1 }
      else if c.toNat = point then
        ⟨0, adapt e.delta (e.written + 1) (e.written == basics), e.written + 1,
          e.output ++ encodeNumber 64 e.delta base e.bias⟩
      else e)
    e

/-- Passes in ascending order of the points that have to be inserted. -/
def encodePoints (basics : Nat) (label : List Char) :
    (points : List Nat) → (previous : Nat) → Encoder → Encoder
  | [], _, e => e
  | point :: points, previous, e =>
    let e := { e with delta := e.delta + (point - previous) * (e.written + 1) }
    let e := encodePoint basics point label e
    encodePoints basics label points (point + 1) { e with delta := e.delta + 1 }

def encode (label : List Char) : List Char :=
  let basic := label.filter fun c => c.toNat < initialPoint
  let points := ((label.map Char.toNat).filter fun n => initialPoint ≤ n).mergeSort (· ≤ ·)
  let e := encodePoints basic.length label points.eraseDups initialPoint
    ⟨0, initialBias, basic.length, []⟩
  (if basic.isEmpty then [] else basic ++ ['-']) ++ e.output

/-- The bound on every sum while a number is read. -/
def limit : Nat := 0x100000000

def decodeNumber? (bias : Nat) : (i weight k : Nat) → List Char → Option (Nat × List Char)
  | _, _, _, [] => none
  | i, weight, k, c :: rest =>
    match digitValue? c with
    | none => none
    | some d =>
      let i := i + d * weight
      if limit ≤ i then none
      else
        let t := threshold k bias
        if d < t then some (i, rest)
        else if limit ≤ weight * (base - t) then none
        else decodeNumber? bias i (weight * (base - t)) (k + base) rest

def scalar? (n : Nat) : Option Char := if n.isValidChar then some (Char.ofNat n) else none

/-- Carries out the insertions; `fuel` bounds their number. -/
def insertAll : (fuel : Nat) → (input : List Char) → (point i bias : Nat) → (label : List Char) →
    Option (List Char)
  | 0, _, _, _, _, _ => none
  | _, [], _, _, _, label => some label
  | fuel + 1, input, point, i, bias, label =>
    match decodeNumber? bias i 1 base input with
    | none => none
    | some (j, rest) =>
      let size := label.length + 1
      let point := point + j / size
      match scalar? point with
      | none => none
      | some c =>
        let at' := j % size
        insertAll fuel rest point (at' + 1) (adapt (j - i) size (i == 0))
          (label.take at' ++ c :: label.drop at')

/-- The text before the last hyphen and the text after it; a hyphen in front counts as a digit. -/
def divide (input : List Char) : List Char × List Char :=
  let tail := (input.reverse.takeWhile (· != '-')).reverse
  let head := input.take (input.length - tail.length - 1)
  if head.isEmpty then ([], input) else (head, tail)

def decode? (input : List Char) : Option (List Char) :=
  let (basic, insertions) := divide input
  insertAll (insertions.length + 1) insertions initialPoint 0 initialBias basic

end WebFetch.Punycode
