import Mathlib.Data.List.Forall2
import WebFetch.Text.Utf8.RoundTrip

/-!
Which bytes are UTF-8, and what stands for those that are not. A character is one of nine rows of
byte ranges, which keep out overlong forms, surrogates and values past U+10FFFF. Where no character
starts, one replacement character stands for the longest part that starts one, or for a single byte.
The main statements say that encoding yields exactly what is well-formed, and that decoding with
replacement is the only one that follows this rule.
-/

set_option autoImplicit false

namespace WebFetch.Utf8

/-- The least and the greatest value of a byte. -/
abbrev Range := Nat × Nat

def Range.Holds (r : Range) (b : UInt8) : Prop := r.1 ≤ b.toNat ∧ b.toNat ≤ r.2

instance (r : Range) (b : UInt8) : Decidable (r.Holds b) := inferInstanceAs (Decidable (_ ∧ _))

def tail : Range := (0x80, 0xBF)

/-- The first byte of a character, and the bytes behind it. -/
def rows : List (Range × List Range) :=
  [((0x00, 0x7F), []),
    ((0xC2, 0xDF), [tail]),
    ((0xE0, 0xE0), [(0xA0, 0xBF), tail]),
    ((0xE1, 0xEC), [tail, tail]),
    ((0xED, 0xED), [(0x80, 0x9F), tail]),
    ((0xEE, 0xEF), [tail, tail]),
    ((0xF0, 0xF0), [(0x90, 0xBF), tail, tail]),
    ((0xF1, 0xF3), [tail, tail, tail]),
    ((0xF4, 0xF4), [(0x80, 0x8F), tail, tail])]

/-- The bytes of one character. -/
inductive Sequence : Bytes → Prop where
  | row {first : Range} {following : List Range} (known : (first, following) ∈ rows) {b : UInt8}
      (leads : first.Holds b) {rest : Bytes} (follow : List.Forall₂ Range.Holds following rest) :
      Sequence (b :: rest)

inductive WellFormed : Bytes → Prop where
  | nil : WellFormed []
  | append {one rest : Bytes} (first : Sequence one) (others : WellFormed rest) :
      WellFormed (one ++ rest)

/-- Bytes with which a character starts, up to all of it. -/
def Starts (part : Bytes) : Prop := ∃ more, Sequence (part ++ more)

/-- No character stands in front of `part ++ rest`, and `part` is the longest part with which one
    starts, or, where there is none, a single byte. -/
structure MaximalPart (part rest : Bytes) : Prop where
  nonempty : part ≠ []
  no_sequence : ∀ one, Sequence one → ¬ one <+: part ++ rest
  starts : Starts part ∨ part.length = 1
  longest : ∀ longer, longer <+: part ++ rest → Starts longer → longer.length ≤ part.length

/-- The text that is read from bytes: each character for what it is encoded as, and one replacement
    character for each maximal part of what is none. -/
inductive Reads : Bytes → List Char → Prop where
  | nil : Reads [] []
  | char (c : Char) {rest : Bytes} {text : List Char} (others : Reads rest text) :
      Reads (encodeChar c ++ rest) (c :: text)
  | replaced {part rest : Bytes} {text : List Char} (maximal : MaximalPart part rest)
      (others : Reads rest text) : Reads (part ++ rest) (replacement :: text)

/-! ## Rows by their first byte -/

theorem forall_byte {P : UInt8 → Prop} (all : ∀ n : Fin 256, P (UInt8.ofNat n)) (b : UInt8) : P b := by
  have this := all ⟨b.toNat, b.toNat_lt⟩
  rwa [UInt8.ofNat_toNat] at this

/-- What has to follow a first byte. -/
def following? (b : UInt8) : Option (List Range) :=
  if b < 0x80 then some []
  else (lead? b).map fun l =>
    (l.low.toNat, l.high.toNat) :: List.replicate (l.following - 1) tail

/-- The rows do not overlap, and every first byte has its own. -/
theorem rows_of_byte (b : UInt8) :
    (rows.filter fun row => decide (row.1.Holds b)).map Prod.snd = (following? b).toList := by
  revert b
  exact forall_byte (by decide +kernel)

theorem following?_eq_some_iff {b : UInt8} {following : List Range} :
    following? b = some following ↔
      ∃ first : Range, (first, following) ∈ rows ∧ first.Holds b := by
  rw [← Option.mem_toList, ← rows_of_byte, List.mem_map]
  simp

theorem sequence_cons_iff {b : UInt8} {rest : Bytes} :
    Sequence (b :: rest) ↔ ∃ following, following? b = some following ∧
      List.Forall₂ Range.Holds following rest := by
  constructor
  · rintro ⟨known, leads, follow⟩
    exact ⟨_, following?_eq_some_iff.mpr ⟨_, known, leads⟩, follow⟩
  · rintro ⟨following, own, follow⟩
    obtain ⟨first, known, leads⟩ := following?_eq_some_iff.mp own
    exact .row known leads follow

theorem not_sequence_nil : ¬ Sequence [] := by
  intro h
  cases h

theorem starts_cons_iff {b : UInt8} {part : Bytes} :
    Starts (b :: part) ↔ ∃ following, following? b = some following ∧
      ∃ more, List.Forall₂ Range.Holds following (part ++ more) := by
  simp only [Starts, List.cons_append, sequence_cons_iff]
  constructor
  · rintro ⟨more, following, own, follow⟩
    exact ⟨following, own, more, follow⟩
  · rintro ⟨following, own, more, follow⟩
    exact ⟨more, following, own, follow⟩

/-! ## How far bytes follow their ranges -/

/-- How many bytes in front lie in the ranges, each in its own. -/
def matched : List Range → Bytes → Nat
  | r :: following, b :: rest => if r.Holds b then matched following rest + 1 else 0
  | _, _ => 0

section Matched

variable {following : List Range}

theorem matched_le_length (following : List Range) (rest : Bytes) :
    matched following rest ≤ following.length := by
  induction following generalizing rest with
  | nil => cases rest <;> exact Nat.le_refl 0
  | cons r following ih =>
    cases rest with
    | nil => exact Nat.zero_le _
    | cons b rest =>
      rw [matched]
      split
      · exact Nat.succ_le_succ (ih rest)
      · exact Nat.zero_le _

theorem forall₂_take_matched {rest : Bytes} (all : matched following rest = following.length) :
    List.Forall₂ Range.Holds following (rest.take following.length) := by
  induction following generalizing rest with
  | nil => exact .nil
  | cons r following ih =>
    cases rest with
    | nil => cases all
    | cons b rest =>
      rw [matched] at all
      split at all
      · next holds => exact .cons holds (ih (Nat.succ.inj all))
      · cases all

theorem length_le_matched {part more rest : Bytes}
    (follow : List.Forall₂ Range.Holds following (part ++ more)) (front : part <+: rest) :
    part.length ≤ matched following rest := by
  induction part generalizing following rest with
  | nil => exact Nat.zero_le _
  | cons b part ih =>
    obtain ⟨back, rfl⟩ := front
    cases follow with
    | cons holds follow =>
      rw [List.cons_append, matched, if_pos holds]
      exact Nat.succ_le_succ (ih follow (List.prefix_append part back))

/-- What follows as far as it does can be continued, for no range is empty. -/
theorem exists_forall₂_take_matched (inhabited : ∀ r ∈ following, ∃ b, r.Holds b) (rest : Bytes) :
    ∃ more, List.Forall₂ Range.Holds following (rest.take (matched following rest) ++ more) := by
  induction following generalizing rest with
  | nil =>
    have none_ : matched [] rest = 0 := by cases rest <;> rfl
    rw [none_, List.take_zero]
    exact ⟨[], .nil⟩
  | cons r following ih =>
    have others : ∀ r ∈ following, ∃ b, r.Holds b :=
      fun r there => inhabited r (List.mem_cons_of_mem _ there)
    have fresh : ∃ more, List.Forall₂ Range.Holds (r :: following) more := by
      obtain ⟨b, holds⟩ := inhabited r List.mem_cons_self
      obtain ⟨more, follow⟩ := ih others []
      rw [List.take_nil, List.nil_append] at follow
      exact ⟨b :: more, .cons holds follow⟩
    cases rest with
    | nil =>
      rw [List.take_nil]
      exact fresh
    | cons b rest =>
      rw [matched]
      split
      · next holds =>
        obtain ⟨more, follow⟩ := ih others rest
        exact ⟨more, .cons holds follow⟩
      · exact fresh

end Matched

theorem inhabited_of_following? {b : UInt8} {following : List Range}
    (own : following? b = some following) : ∀ r ∈ following, ∃ x, r.Holds x := by
  have all : ∀ row ∈ rows, ∀ r ∈ row.2, r.1 ≤ r.2 ∧ r.1 < 256 := by decide
  intro r there
  obtain ⟨first, known, _⟩ := following?_eq_some_iff.mp own
  obtain ⟨ordered, small⟩ := all _ known r there
  refine ⟨UInt8.ofNat r.1, ?_⟩
  rw [Range.Holds, toNat_ofNat_of_lt small]
  exact ⟨Nat.le_refl _, ordered⟩

/-! ## One step of decoding -/

theorem lead?_following {b : UInt8} {l : Lead} (h : lead? b = some l) :
    l.following = 1 ∨ l.following = 2 ∨ l.following = 3 := by
  have all : ∀ b, ∀ l ∈ lead? b, l.following = 1 ∨ l.following = 2 ∨ l.following = 3 :=
    forall_byte (by decide +kernel)
  exact all b l h

theorem step_of_no_following {b : UInt8} (h : following? b = none) (rest : Bytes) :
    step b rest = (none, 0) := by
  unfold following? at h
  split at h
  · cases h
  · next high =>
    rw [Option.map_eq_none_iff] at h
    unfold step
    rw [if_neg high, h]

theorem outside_iff {low high b : UInt8} :
    (decide (b < low) || decide (high < b)) = true ↔
      ¬ Range.Holds (low.toNat, high.toNat) b := by
  rw [Bool.or_eq_true, decide_eq_true_eq, decide_eq_true_eq, UInt8.lt_iff_toNat_lt,
    UInt8.lt_iff_toNat_lt]
  unfold Range.Holds
  dsimp only
  omega

theorem isContinuation_eq (b : UInt8) : isContinuation b = decide (tail.Holds b) := by
  rw [Bool.eq_iff_iff]
  simp only [isContinuation, UInt8.le_iff_toNat_le, Bool.and_eq_true, decide_eq_true_eq]
  rfl

/-- A step takes as many bytes as follow, and there is a character if these are all. -/
theorem step_of_following {b : UInt8} {following : List Range} (h : following? b = some following)
    (rest : Bytes) :
    (step b rest).2 = matched following rest ∧
      ((step b rest).1 = none ↔ matched following rest ≠ following.length) := by
  unfold following? at h
  split at h
  · next low =>
    cases h
    simp [step, low, matched]
  · next high =>
    obtain ⟨l, lead, rfl⟩ := Option.map_eq_some_iff.mp h
    have three := lead?_following lead
    obtain ⟨n, low, top⟩ := l
    unfold step
    simp only [if_neg high, lead, outside_iff, isContinuation_eq]
    rcases rest with _ | ⟨x, rest⟩
    · simp [matched]
    by_cases hx : Range.Holds (low.toNat, top.toNat) x
    · rcases rest with _ | ⟨y, rest⟩
      · rcases three with rfl | rfl | rfl <;> simp [matched, hx]
      by_cases hy : tail.Holds y
      · rcases rest with _ | ⟨z, rest⟩
        · rcases three with rfl | rfl | rfl <;> simp [matched, hx, hy]
        by_cases hz : tail.Holds z
        · rcases three with rfl | rfl | rfl <;> simp [matched, hx, hy, hz]
        · rcases three with rfl | rfl | rfl <;> simp [matched, hx, hy, hz]
      · rcases three with rfl | rfl | rfl <;> simp [matched, hx, hy]
    · simp [matched, hx]

theorem not_starts_of_no_following {b : UInt8} (own : following? b = none) (part : Bytes) :
    ¬ Starts (b :: part) := by
  rw [starts_cons_iff, own]
  rintro ⟨_, found, _⟩
  cases found

theorem length_le_of_starts {b : UInt8} {following : List Range}
    (own : following? b = some following) {rest longer : Bytes} (front : longer <+: b :: rest)
    (starts : Starts longer) : longer.length ≤ matched following rest + 1 := by
  cases longer with
  | nil => exact Nat.zero_le _
  | cons c longer =>
    obtain ⟨same, behind⟩ := List.cons_prefix_cons.mp front
    obtain ⟨following', own', more, follow⟩ := starts_cons_iff.mp starts
    cases own.symm.trans (same ▸ own')
    exact Nat.succ_le_succ (length_le_matched follow behind)

theorem Sequence.starts {one : Bytes} (sequence : Sequence one) : Starts one :=
  ⟨[], by rwa [List.append_nil]⟩

theorem maximalPart_of_no_following {b : UInt8} (own : following? b = none) (rest : Bytes) :
    MaximalPart [b] rest where
  nonempty := List.cons_ne_nil b []
  no_sequence := by
    intro one sequence front
    cases one with
    | nil => exact not_sequence_nil sequence
    | cons c one =>
      obtain ⟨rfl, _⟩ := List.cons_prefix_cons.mp front
      exact not_starts_of_no_following own one sequence.starts
  starts := .inr rfl
  longest := by
    intro longer front starts
    cases longer with
    | nil => exact Nat.zero_le _
    | cons c longer =>
      obtain ⟨rfl, _⟩ := List.cons_prefix_cons.mp front
      exact absurd starts (not_starts_of_no_following own longer)

theorem maximalPart_of_unmatched {b : UInt8} {following : List Range}
    (own : following? b = some following) {rest : Bytes}
    (missing : matched following rest ≠ following.length) :
    MaximalPart (b :: rest.take (matched following rest)) (rest.drop (matched following rest)) where
  nonempty := List.cons_ne_nil _ _
  no_sequence := by
    -- A character in front would be longer than what has been matched.
    intro one sequence front
    rw [List.cons_append, List.take_append_drop] at front
    cases one with
    | nil => exact not_sequence_nil sequence
    | cons c one =>
      have short := length_le_of_starts own front sequence.starts
      obtain ⟨rfl, behind⟩ := List.cons_prefix_cons.mp front
      obtain ⟨following', own', follow⟩ := sequence_cons_iff.mp sequence
      cases own.symm.trans own'
      have bound := matched_le_length following rest
      rw [List.length_cons, ← follow.length_eq] at short
      omega
  starts := by
    refine .inl (starts_cons_iff.mpr ⟨following, own, ?_⟩)
    exact exists_forall₂_take_matched (inhabited_of_following? own) rest
  longest := by
    intro longer front starts
    rw [List.cons_append, List.take_append_drop] at front
    have bound := length_le_of_starts own front starts
    have available := front.length_le
    rw [List.length_cons] at available
    rw [List.length_cons, List.length_take]
    omega

/-- The bytes that a step takes are a character, or a maximal part of what is none. -/
theorem step_cases (b : UInt8) (rest : Bytes) :
    let n := (step b rest).2
    ((step b rest).1 ≠ none ∧ Sequence (b :: rest.take n)) ∨
      ((step b rest).1 = none ∧ MaximalPart (b :: rest.take n) (rest.drop n)) := by
  cases own : following? b with
  | none =>
    rw [step_of_no_following own]
    exact .inr ⟨rfl, maximalPart_of_no_following own rest⟩
  | some following =>
    obtain ⟨taken, missing⟩ := step_of_following own rest
    rw [taken]
    by_cases all : matched following rest = following.length
    · refine .inl ⟨fun h => missing.mp h all, sequence_cons_iff.mpr ⟨following, own, ?_⟩⟩
      rw [all]
      exact forall₂_take_matched all
    · exact .inr ⟨missing.mpr all, maximalPart_of_unmatched own all⟩

/-! ## Characters and their bytes -/

theorem encodeChar_eq (c : Char) : encodeChar c = String.utf8EncodeChar c := by
  have range := scalar_range c
  unfold encodeChar String.utf8EncodeChar
  rw [Char.toNat_val]
  dsimp only
  generalize c.toNat = n at range
  by_cases one : n < 0x80
  · rw [if_pos one, if_pos (by omega)]
  by_cases two : n < 0x800
  · rw [if_neg one, if_pos two, if_neg (by omega), if_pos (by omega),
      Nat.mod_eq_of_lt (a := n / 64) (by omega), Nat.add_comm 0xC0, Nat.add_comm 0x80]
  by_cases three : n < 0x10000
  · rw [if_neg one, if_neg two, if_pos three, if_neg (by omega), if_neg (by omega),
      if_pos (by omega), Nat.mod_eq_of_lt (a := n / 4096) (by omega), Nat.add_comm 0xE0,
      Nat.add_comm 0x80, Nat.add_comm 0x80]
  · rw [if_neg one, if_neg two, if_neg three, if_neg (by omega), if_neg (by omega),
      if_neg (by omega), Nat.mod_eq_of_lt (a := n / 262144) (by omega), Nat.add_comm 0xF0,
      Nat.add_comm 0x80, Nat.add_comm 0x80, Nat.add_comm 0x80]

theorem sequence_encodeChar (c : Char) : Sequence (encodeChar c) := by
  obtain ⟨b, more, encoded, stepped⟩ := step_encodeChar c []
  rw [List.append_nil] at stepped
  rcases step_cases b more with ⟨_, sequence⟩ | ⟨nothing, _⟩
  · rw [stepped, List.take_length] at sequence
    rw [encoded]
    exact sequence
  · rw [stepped] at nothing
    cases nothing

/-- A text is encoded as the bytes that it is stored in. -/
theorem encode_eq (text : String) : encode text = text.toByteArray.data.toList := by
  obtain ⟨cs, rfl⟩ : ∃ cs, text = String.ofList cs := ⟨text.toList, String.ofList_toList.symm⟩
  rw [String.toByteArray_ofList, List.utf8Encode, List.toList_data_toByteArray, encode,
    String.toList_ofList, encodeChars, funext encodeChar_eq]

theorem exists_toNat {n : Nat} (valid : n < 0xD800 ∨ 0xDFFF < n ∧ n < 0x110000) :
    ∃ c : Char, c.toNat = n :=
  ⟨Char.ofNatAux n valid, rfl⟩

theorem ofNat_eq {n : Nat} {b : UInt8} (h : n = b.toNat) : UInt8.ofNat n = b := by
  rw [h, UInt8.ofNat_toNat]

theorem exists_encodeChar_one {a : UInt8} (ha : a.toNat ≤ 0x7F) : ∃ c, encodeChar c = [a] := by
  obtain ⟨c, value⟩ := exists_toNat (n := a.toNat) (by omega)
  refine ⟨c, ?_⟩
  unfold encodeChar
  dsimp only
  rw [if_pos (by omega), ofNat_eq value]

theorem exists_encodeChar_two {a b : UInt8} (ha : 0xC2 ≤ a.toNat ∧ a.toNat ≤ 0xDF)
    (hb : 0x80 ≤ b.toNat ∧ b.toNat ≤ 0xBF) : ∃ c, encodeChar c = [a, b] := by
  obtain ⟨c, value⟩ := exists_toNat (n := (a.toNat - 0xC0) * 64 + (b.toNat - 0x80)) (by omega)
  refine ⟨c, ?_⟩
  unfold encodeChar
  dsimp only
  rw [if_neg (by omega), if_pos (by omega), ofNat_eq (b := a) (by omega),
    ofNat_eq (b := b) (by omega)]

section Longer

variable {a : UInt8} {r : Range} {rest : Bytes} (inside : 0x80 ≤ r.1 ∧ r.2 ≤ 0xBF)
include inside

theorem exists_encodeChar_three (follow : List.Forall₂ Range.Holds [r, tail] rest)
    (ha : 0xE0 ≤ a.toNat ∧ a.toNat ≤ 0xEF) (overlong : a.toNat = 0xE0 → 0xA0 ≤ r.1)
    (surrogate : a.toNat = 0xED → r.2 ≤ 0x9F) : ∃ c, encodeChar c = a :: rest := by
  obtain - | @⟨_, b, _, _, hb, - | @⟨_, d, _, _, hd, - | -⟩⟩ := follow
  have hb : r.1 ≤ b.toNat ∧ b.toNat ≤ r.2 := hb
  have hd : 0x80 ≤ d.toNat ∧ d.toNat ≤ 0xBF := hd
  obtain ⟨c, value⟩ := exists_toNat
    (n := (a.toNat - 0xE0) * 4096 + (b.toNat - 0x80) * 64 + (d.toNat - 0x80)) (by omega)
  refine ⟨c, ?_⟩
  unfold encodeChar
  dsimp only
  rw [if_neg (by omega), if_neg (by omega), if_pos (by omega), ofNat_eq (b := a) (by omega),
    ofNat_eq (b := b) (by omega), ofNat_eq (b := d) (by omega)]

theorem exists_encodeChar_four (follow : List.Forall₂ Range.Holds [r, tail, tail] rest)
    (ha : 0xF0 ≤ a.toNat ∧ a.toNat ≤ 0xF4) (overlong : a.toNat = 0xF0 → 0x90 ≤ r.1)
    (beyond : a.toNat = 0xF4 → r.2 ≤ 0x8F) : ∃ c, encodeChar c = a :: rest := by
  obtain - | @⟨_, b, _, _, hb, - | @⟨_, d, _, _, hd, - | @⟨_, e, _, _, he, - | -⟩⟩⟩ := follow
  have hb : r.1 ≤ b.toNat ∧ b.toNat ≤ r.2 := hb
  have hd : 0x80 ≤ d.toNat ∧ d.toNat ≤ 0xBF := hd
  have he : 0x80 ≤ e.toNat ∧ e.toNat ≤ 0xBF := he
  obtain ⟨c, value⟩ := exists_toNat
    (n := (a.toNat - 0xF0) * 262144 + (b.toNat - 0x80) * 4096 + (d.toNat - 0x80) * 64 +
      (e.toNat - 0x80)) (by omega)
  refine ⟨c, ?_⟩
  unfold encodeChar
  dsimp only
  rw [if_neg (by omega), if_neg (by omega), if_neg (by omega), ofNat_eq (b := a) (by omega),
    ofNat_eq (b := b) (by omega), ofNat_eq (b := d) (by omega), ofNat_eq (b := e) (by omega)]

end Longer

/-- Every row holds the encodings of some range of characters, and nothing else. -/
theorem Sequence.exists_encodeChar {one : Bytes} (sequence : Sequence one) :
    ∃ c, encodeChar c = one := by
  obtain @⟨first, following, known, a, leads, rest, follow⟩ := sequence
  unfold Range.Holds at leads
  simp only [rows, List.mem_cons, List.not_mem_nil, or_false, Prod.mk.injEq] at known
  rcases known with ⟨rfl, rfl⟩ | ⟨rfl, rfl⟩ | ⟨rfl, rfl⟩ | ⟨rfl, rfl⟩ | ⟨rfl, rfl⟩ | ⟨rfl, rfl⟩ |
    ⟨rfl, rfl⟩ | ⟨rfl, rfl⟩ | ⟨rfl, rfl⟩
  · cases follow
    exact exists_encodeChar_one leads.2
  · obtain - | ⟨hb, - | -⟩ := follow
    exact exists_encodeChar_two leads hb
  · exact exists_encodeChar_three (by decide) follow (by omega) (by omega) (by omega)
  · exact exists_encodeChar_three (by decide) follow (by omega) (by omega) (by omega)
  · exact exists_encodeChar_three (by decide) follow (by omega) (by omega) (by omega)
  · exact exists_encodeChar_three (by decide) follow (by omega) (by omega) (by omega)
  · exact exists_encodeChar_four (by decide) follow (by omega) (by omega) (by omega)
  · exact exists_encodeChar_four (by decide) follow (by omega) (by omega) (by omega)
  · exact exists_encodeChar_four (by decide) follow (by omega) (by omega) (by omega)

theorem wellFormed_iff {bytes : Bytes} : WellFormed bytes ↔ ∃ cs, bytes = encodeChars cs := by
  constructor
  · intro h
    induction h with
    | nil => exact ⟨[], rfl⟩
    | append first _ ih =>
      obtain ⟨c, rfl⟩ := first.exists_encodeChar
      obtain ⟨cs, rfl⟩ := ih
      exact ⟨c :: cs, rfl⟩
  · rintro ⟨cs, rfl⟩
    induction cs with
    | nil => exact .nil
    | cons c cs ih => exact .append (sequence_encodeChar c) ih

/-! ## Whole inputs -/

/-- A step that finds a character takes its encoding and nothing else. -/
theorem take_of_step {b : UInt8} {rest : Bytes} {c : Char} {n : Nat}
    (found : step b rest = (some c, n)) : b :: rest.take n = encodeChar c := by
  rcases step_cases b rest with ⟨_, sequence⟩ | ⟨nothing, _⟩
  · rw [found] at sequence
    obtain ⟨d, encoded⟩ := sequence.exists_encodeChar
    obtain ⟨x, more, encoded', stepped⟩ := step_encodeChar d (rest.drop n)
    obtain ⟨rfl, rfl⟩ := List.cons.inj (encoded'.symm.trans encoded)
    rw [List.take_append_drop, found] at stepped
    rw [← encoded, Option.some.inj (congrArg Prod.fst stepped)]
  · rw [found] at nothing
    cases nothing

theorem encodeChars_of_decodeChars? {bytes : Bytes} {cs : List Char}
    (h : decodeChars? bytes = some cs) : encodeChars cs = bytes := by
  fun_induction decodeChars? bytes generalizing cs with
  | case1 =>
    cases h
    rfl
  | case2 b rest c n found ih =>
    obtain ⟨ds, decoded, rfl⟩ := Option.map_eq_some_iff.mp h
    rw [encodeChars, List.flatMap_cons, ← encodeChars, ih decoded, ← take_of_step found,
      List.cons_append, List.take_append_drop]
  | case3 => cases h

theorem decode?_eq_some_iff {bytes : Bytes} {text : String} :
    decode? bytes = some text ↔ encode text = bytes := by
  constructor
  · intro h
    obtain ⟨cs, decoded, rfl⟩ := Option.map_eq_some_iff.mp h
    rw [encode, String.toList_ofList]
    exact encodeChars_of_decodeChars? decoded
  · rintro rfl
    exact decode?_encode text

theorem MaximalPart.length_le {part part' rest rest' : Bytes} (h : MaximalPart part rest)
    (h' : MaximalPart part' rest') (same : part ++ rest = part' ++ rest') :
    part.length ≤ part'.length := by
  rcases h.starts with starts | single
  · exact h'.longest part (same ▸ List.prefix_append part rest) starts
  · rw [single]
    exact List.length_pos_of_ne_nil h'.nonempty

/-- There is one maximal part in front of given bytes. -/
theorem MaximalPart.unique {part part' rest rest' : Bytes} (h : MaximalPart part rest)
    (h' : MaximalPart part' rest') (same : part ++ rest = part' ++ rest') :
    part = part' ∧ rest = rest' :=
  List.append_inj same (Nat.le_antisymm (h.length_le h' same) (h'.length_le h same.symm))

theorem decodeCharsLossy_cons (b : UInt8) (rest : Bytes) :
    decodeCharsLossy (b :: rest) =
      (step b rest).1.getD replacement :: decodeCharsLossy (rest.drop (step b rest).2) := by
  rw [decodeCharsLossy]

theorem decodeCharsLossy_of_maximalPart {part rest : Bytes} (maximal : MaximalPart part rest) :
    decodeCharsLossy (part ++ rest) = replacement :: decodeCharsLossy rest := by
  obtain ⟨b, more, rfl⟩ := List.exists_cons_of_ne_nil maximal.nonempty
  have whole (n : Nat) : b :: (more ++ rest).take n ++ (more ++ rest).drop n = b :: more ++ rest := by
    rw [List.cons_append, List.take_append_drop, List.cons_append]
  rw [List.cons_append, decodeCharsLossy_cons]
  rcases step_cases b (more ++ rest) with ⟨_, sequence⟩ | ⟨nothing, maximal'⟩
  · refine absurd ?_ (maximal.no_sequence _ sequence)
    rw [← whole]
    exact List.prefix_append _ _
  · obtain ⟨_, same⟩ := maximal'.unique maximal (whole _)
    rw [nothing, same]
    rfl

/-- Decoding with replacement is the one way to read bytes. -/
theorem reads_iff {bytes : Bytes} {text : List Char} :
    Reads bytes text ↔ text = decodeCharsLossy bytes := by
  constructor
  · intro h
    induction h with
    | nil => rw [decodeCharsLossy]
    | char c _ ih => rw [decodeCharsLossy_append, ih]
    | replaced maximal _ ih => rw [decodeCharsLossy_of_maximalPart maximal, ih]
  · rintro rfl
    fun_induction decodeCharsLossy bytes with
    | case1 => exact .nil
    | case2 b rest c n taken ih =>
      have whole : b :: rest = b :: rest.take n ++ rest.drop n := by
        rw [List.cons_append, List.take_append_drop]
      rw [whole]
      cases c with
      | some c =>
        rw [take_of_step taken]
        exact .char c ih
      | none =>
        rcases step_cases b rest with ⟨found, _⟩ | ⟨_, maximal⟩
        · rw [taken] at found
          exact absurd rfl found
        · rw [taken] at maximal
          exact .replaced maximal ih

/-- A form that breaks off is one part, and a surrogate is none: its second byte does not follow its
    first one. -/
example : decodeCharsLossy [0xE2, 0x82, 0x41, 0xED, 0xA0] = ['\ufffd', 'A', '\ufffd', '\ufffd'] := by
  cbv

end WebFetch.Utf8
