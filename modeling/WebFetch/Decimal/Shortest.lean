/-!
The shortest decimal that reads back as a given double, and the nearest of those. Everything is
computed exactly: a double is `m * 2 ^ q`, and the numbers that read back as it form an interval
around it.
-/

set_option autoImplicit false

namespace WebFetch.Decimal

/-- A positive double `significand * 2 ^ exponent`. `atBinade` says that the next smaller double is
    only half as far away as the next larger one. -/
structure Binary where
  significand : Nat
  exponent : Int
  atBinade : Bool

/-- The first bit of a normal significand, which is not stored. -/
def hiddenBit : Nat := 0x10000000000000

def binary (x : Float) : Binary :=
  let bits := x.toBits.toNat
  let fraction := bits % hiddenBit
  let biased := bits / hiddenBit % 2048
  if biased = 0 then ⟨fraction, -1074, false⟩
  else ⟨hiddenBit + fraction, (biased : Int) - 1075, fraction == 0 && biased > 1⟩

/-- `digits * 10 ^ exponent`. -/
structure Scaled where
  digits : Nat
  exponent : Int
  deriving DecidableEq

/-- The numbers that read back as a double, over one denominator. Four times the value is taken as
    the unit, so that half the distance to either neighbour is whole. -/
structure Interval where
  low : Nat
  value : Nat
  high : Nat
  denominator : Nat
  closed : Bool

def interval (b : Binary) : Interval :=
  let up := Nat.pow 2 (b.exponent - 2).toNat
  let low := 4 * b.significand - (if b.atBinade then 1 else 2)
  ⟨low * up, 4 * b.significand * up, (4 * b.significand + 2) * up, Nat.pow 2 (2 - b.exponent).toNat,
    b.significand % 2 = 0⟩

def Interval.holds (i : Interval) (numerator denominator : Nat) : Bool :=
  let n := numerator * i.denominator
  let low := i.low * denominator
  let high := i.high * denominator
  if i.closed then low ≤ n && n ≤ high else low < n && n < high

/-- How many digits `n / d` has before the point; less than one for a number below one tenth. -/
def magnitude (n d : Nat) : Int :=
  if d ≤ n then ((Nat.toDigits 10 (n / d)).length : Int)
  else below 400 n
where
  /-- Counts the zeros behind the point. -/
  below : (fuel n : Nat) → Int
    | 0, _ => 0
    | fuel + 1, n => if d ≤ n * 10 then 0 else below fuel (n * 10) - 1

/-- The candidates with unit `10 ^ exponent` next to the value, the nearer one first; of two that
    are equally near the even one. -/
def candidates (i : Interval) (exponent : Int) : List Scaled :=
  let n := i.value * Nat.pow 10 (-exponent).toNat
  let d := i.denominator * Nat.pow 10 exponent.toNat
  let floor := n / d
  let up := ⟨floor + 1, exponent⟩
  let down := ⟨floor, exponent⟩
  let rest := 2 * (n % d)
  if rest < d ∨ (rest = d ∧ floor % 2 = 0) then [down, up] else [up, down]

def Interval.holdsScaled (i : Interval) (x : Scaled) : Bool :=
  i.holds (x.digits * Nat.pow 10 x.exponent.toNat) (Nat.pow 10 (-x.exponent).toNat)

/-- Tries one digit, then two, and so on up to seventeen, which always suffice. -/
def search (i : Interval) (top : Int) : (fuel : Nat) → (digits : Nat) → Scaled
  | 0, digits => ⟨i.value, top - digits⟩
  | fuel + 1, digits =>
    match (candidates i (top - digits)).find? i.holdsScaled with
    | some x => x
    | none => search i top fuel (digits + 1)

def trimZeros : (fuel : Nat) → Scaled → Scaled
  | 0, x => x
  | fuel + 1, x =>
    if x.digits % 10 = 0 ∧ x.digits ≠ 0 then trimZeros fuel ⟨x.digits / 10, x.exponent + 1⟩ else x

/-- The shortest decimal for the magnitude of a finite double other than zero. -/
def shortest (x : Float) : Scaled :=
  let i := interval (binary x)
  trimZeros 20 (search i (magnitude i.value i.denominator) 20 1)

end WebFetch.Decimal
