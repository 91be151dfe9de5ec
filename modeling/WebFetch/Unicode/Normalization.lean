import WebFetch.Unicode.CombiningClass
import WebFetch.Unicode.Composition

/-!
Canonical composition of text: every character is decomposed, marks are put in the order of their
combining classes, and what composes is composed again.
-/

set_option autoImplicit false

namespace WebFetch.Unicode

namespace Hangul

def firstSyllable : Nat := 0xAC00
def firstLead : Nat := 0x1100
def firstVowel : Nat := 0x1161
/-- One before the first trailing consonant, so that index zero means there is none. -/
def trailBase : Nat := 0x11A7
def leads : Nat := 19
def vowels : Nat := 21
def trails : Nat := 28

def decompose? (n : Nat) : Option (List Nat) :=
  if firstSyllable ≤ n ∧ n < firstSyllable + leads * vowels * trails then
    let i := n - firstSyllable
    let lead := firstLead + i / (vowels * trails)
    let vowel := firstVowel + i % (vowels * trails) / trails
    if i % trails = 0 then some [lead, vowel] else some [lead, vowel, trailBase + i % trails]
  else none

def compose? (a b : Nat) : Option Nat :=
  if firstLead ≤ a ∧ a < firstLead + leads ∧ firstVowel ≤ b ∧ b < firstVowel + vowels then
    some (firstSyllable + ((a - firstLead) * vowels + (b - firstVowel)) * trails)
  else if firstSyllable ≤ a ∧ a < firstSyllable + leads * vowels * trails ∧
      (a - firstSyllable) % trails = 0 ∧ trailBase < b ∧ b < trailBase + trails then
    some (a + (b - trailBase))
  else none

end Hangul

/-- Decomposes to the end; a character decomposes at most four times in a row. -/
def decomposeNat : (fuel n : Nat) → List Nat
  | 0, n => [n]
  | fuel + 1, n =>
    match Hangul.decompose? n with
    | some parts => parts
    | none =>
      match composedRuns.find? n with
      | some run => run.image.flatMap (decomposeNat fuel)
      | none =>
        match decomposedRuns.find? n with
        | some run => run.image
        | none => [n]

def decompose (c : Char) : List Char := (decomposeNat 8 c.toNat).map Char.ofNat

/-- Puts a mark in its place among those already read, which are kept in reverse. -/
def insertMark (c : Char) : List Char → List Char
  | [] => [c]
  | d :: before =>
    if combiningClass c < combiningClass d then d :: insertMark c before else c :: d :: before

/-- Sorts each run of marks by combining class, stably. -/
def orderMarks (cs : List Char) : List Char :=
  (cs.foldl (fun seen c => if combiningClass c = 0 then c :: seen else insertMark c seen) []).reverse

/-- Pairs that compose, in ascending order of `pairKey`. -/
def composedPairs : Array (Nat × Nat) :=
  let keyed := composedRuns.table.toList.filterMap fun run =>
    match run.image with
    | [a, b] => some (a * 0x200000 + b, run.low)
    | _ => none
  (keyed.mergeSort fun x y => x.1 ≤ y.1).toArray

def compose? (a b : Char) : Option Char :=
  match Hangul.compose? a.toNat b.toNat with
  | some n => some (Char.ofNat n)
  | none =>
    let key := a.toNat * 0x200000 + b.toNat
    match lastAtMost? Prod.fst composedPairs key with
    | some (k, n) => if k = key then some (Char.ofNat n) else none
    | none => none

/-- Composes from left to right. `starter` is the character that later ones may compose with, and
    `marks` are those after it that did not, the last one first. A mark composes unless one of
    those has its class or a higher one. -/
def composeFrom (starter : Char) : (marks rest : List Char) → List Char
  | marks, [] => starter :: marks.reverse
  | marks, c :: rest =>
    let free := match marks with
      | [] => true
      | m :: _ => combiningClass m < combiningClass c
    match if free then compose? starter c else none with
    | some composite => composeFrom composite marks rest
    | none =>
      if combiningClass c = 0 then starter :: (marks.reverse ++ composeFrom c [] rest)
      else composeFrom starter (c :: marks) rest

def compose : List Char → List Char
  | [] => []
  | c :: rest => if combiningClass c = 0 then composeFrom c [] rest else c :: compose rest

/-- The composed form in which canonically equivalent texts agree. -/
def normalize (cs : List Char) : List Char := compose (orderMarks (cs.flatMap decompose))

end WebFetch.Unicode
