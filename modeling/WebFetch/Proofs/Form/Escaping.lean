import WebFetch.Proofs.Url.Pairs

/-!
Form text with some of its characters written as their bytes. What is written so is no mark and no
digit, so it neither divides the text nor takes part in an escape that was there before, whole or
broken. The main statement says that the text then reads as the same pairs.
-/

set_option autoImplicit false

namespace WebFetch

/-! ## Bytes -/

namespace Percent

/-- A byte that no escape holds: neither its mark nor a digit. -/
def isBare (b : UInt8) : Bool := b != 0x25 && (digitValue? b).isNone

/-- What a mark in front makes of a text: the byte that two digits stand for, and the rest. -/
def afterMark? : Bytes → Option (UInt8 × Bytes)
  | h :: l :: more =>
    match digitValue? h, digitValue? l with
    | some x, some y => some (UInt8.ofNat (x * 16 + y), more)
    | _, _ => none
  | _ => none

theorem decode_mark (rest : Bytes) :
    decode (0x25 :: rest) =
      match afterMark? rest with
      | some (b, more) => b :: decode more
      | none => 0x25 :: decode rest := by
  match rest with
  | [] => rfl
  | [_] => rfl
  | h :: l :: more =>
    rw [decode, if_pos rfl, afterMark?]
    cases digitValue? h with
    | none => rfl
    | some x =>
      cases digitValue? l with
      | none => rfl
      | some y => rfl

theorem afterMark?_of_first {h : UInt8} (no_digit : digitValue? h = none) (rest : Bytes) :
    afterMark? (h :: rest) = none := by
  cases rest with
  | nil => rfl
  | cons l more => rw [afterMark?, no_digit]

theorem afterMark?_of_second {l : UInt8} (no_digit : digitValue? l = none) (h : UInt8)
    (rest : Bytes) : afterMark? (h :: l :: rest) = none := by
  rw [afterMark?, no_digit]
  cases digitValue? h with
  | none => rfl
  | some x => rfl

theorem length_lt_of_afterMark? {b : UInt8} {rest more : Bytes}
    (h : afterMark? rest = some (b, more)) : more.length < rest.length := by
  unfold afterMark? at h
  split at h
  · split at h
    · cases h
      simp only [List.length_cons]
      omega
    · cases h
  · cases h

/-- The first text is the second one with some of its bare bytes written as escapes. -/
inductive Escapes : Bytes → Bytes → Prop where
  | nil : Escapes [] []
  | kept (b : UInt8) {written plain : Bytes} (rest : Escapes written plain) :
      Escapes (b :: written) (b :: plain)
  | escaped {b : UInt8} (bare : isBare b = true) {written plain : Bytes}
      (rest : Escapes written plain) :
      Escapes (Utf8.encodeChars (encodeByte b) ++ written) (b :: plain)

namespace Escapes

variable {written plain : Bytes}

theorem kept_all (bytes : Bytes) (h : Escapes written plain) :
    Escapes (bytes ++ written) (bytes ++ plain) := by
  induction bytes with
  | nil => exact h
  | cons b bytes ih => exact .kept b ih

theorem escaped_all {bytes : Bytes} (bare : ∀ b ∈ bytes, isBare b = true)
    (h : Escapes written plain) :
    Escapes (Utf8.encodeChars (bytes.flatMap encodeByte) ++ written) (bytes ++ plain) := by
  induction bytes with
  | nil => exact h
  | cons b bytes ih =>
    have rest := ih fun c hc => bare c (List.mem_cons_of_mem b hc)
    rw [List.flatMap_cons, Utf8.encodeChars, List.flatMap_append, List.append_assoc]
    exact .escaped (bare b List.mem_cons_self) rest

theorem ne_mark_of_bare {b : UInt8} (bare : isBare b = true) : b ≠ 0x25 := by
  rintro rfl
  cases bare

theorem no_digit_of_bare {b : UInt8} (bare : isBare b = true) : digitValue? b = none := by
  rw [isBare, Bool.and_eq_true] at bare
  exact Option.isNone_iff_eq_none.mp bare.2

/-- A mark is no digit, so an escape that takes the place of a byte completes no escape that this
    byte would not. -/
theorem after_mark (h : Escapes written plain) :
    (afterMark? written = none ∧ afterMark? plain = none) ∨
      ∃ b w p, afterMark? written = some (b, w) ∧ afterMark? plain = some (b, p) ∧
        Escapes w p := by
  have mark : digitValue? 0x25 = none := rfl
  cases h with
  | nil => exact .inl ⟨rfl, rfl⟩
  | escaped bare rest =>
    exact .inl ⟨afterMark?_of_first mark _, afterMark?_of_first (no_digit_of_bare bare) _⟩
  | kept first rest =>
    cases rest with
    | nil => exact .inl ⟨rfl, rfl⟩
    | escaped bare rest =>
      exact .inl ⟨afterMark?_of_second mark first _,
        afterMark?_of_second (no_digit_of_bare bare) first _⟩
    | kept second rest =>
      rw [afterMark?, afterMark?]
      cases digitValue? first with
      | none => exact .inl ⟨rfl, rfl⟩
      | some x =>
        cases digitValue? second with
        | none => exact .inl ⟨rfl, rfl⟩
        | some y => exact .inr ⟨_, _, _, rfl, rfl, rest⟩

theorem decode_eq (h : Escapes written plain) : decode written = decode plain := by
  -- An escape that was kept is read as a whole, so the induction is on the length.
  induction n : plain.length using Nat.strongRecOn generalizing written plain with
  | ind n ih =>
    subst n
    cases h with
    | nil => rfl
    | escaped bare rest =>
      rw [decode_encodeByte, decode_cons (ne_mark_of_bare bare), ih _ (Nat.lt_succ_self _) rest rfl]
    | kept b rest =>
      have tail := ih _ (Nat.lt_succ_self _) rest rfl
      by_cases mark : b = 0x25
      · subst mark
        rw [decode_mark, decode_mark]
        rcases rest.after_mark with ⟨none_, none_'⟩ | ⟨b, w, p, some_, some_', more⟩
        · rw [none_, none_', tail]
        · have shorter := length_lt_of_afterMark? some_'
          rw [some_, some_']
          exact congrArg (b :: ·) (ih p.length (Nat.lt_succ_of_lt shorter) more rfl)
      · rw [decode_cons mark, decode_cons mark, tail]

end Escapes

end Percent

/-! ## Parts -/

namespace Text

/-- A way of writing single characters that keeps the separator and makes no new one. -/
structure Spares (sep : Char) (write : Char → List Char) : Prop where
  keeps : write sep = [sep]
  adds_none : ∀ c, c ≠ sep → sep ∉ write c

variable {sep : Char} {write : Char → List Char}

theorem splitOn_ne_nil (sep : Char) (cs : List Char) : splitOn sep cs ≠ [] := by
  cases cs with
  | nil => exact List.cons_ne_nil _ _
  | cons c cs =>
    rw [splitOn]
    split
    · exact List.cons_ne_nil _ _
    · split
      · exact List.cons_ne_nil _ _
      · exact List.cons_ne_nil _ _

theorem splitOn_cons_of_ne {c : Char} (h : c ≠ sep) {cs part : List Char}
    {parts : List (List Char)} (rest : splitOn sep cs = part :: parts) :
    splitOn sep (c :: cs) = (c :: part) :: parts := by
  rw [splitOn, if_neg h, rest]

theorem splitOn_append_of_not_mem {front : List Char} (h : sep ∉ front) {cs part : List Char}
    {parts : List (List Char)} (rest : splitOn sep cs = part :: parts) :
    splitOn sep (front ++ cs) = (front ++ part) :: parts := by
  induction front with
  | nil => exact rest
  | cons c front ih =>
    rw [List.mem_cons, not_or] at h
    exact splitOn_cons_of_ne (Ne.symm h.1) (ih h.2)

theorem splitOn_flatMap (spares : Spares sep write) (cs : List Char) :
    splitOn sep (cs.flatMap write) = (splitOn sep cs).map fun part => part.flatMap write := by
  induction cs with
  | nil => rfl
  | cons c cs ih =>
    rw [List.flatMap_cons]
    by_cases h : c = sep
    · rw [h, spares.keeps, List.singleton_append, splitOn, if_pos rfl, ih, splitOn, if_pos rfl]
      rfl
    · obtain ⟨part, parts, split⟩ := List.exists_cons_of_ne_nil (splitOn_ne_nil sep cs)
      rw [split, List.map_cons] at ih
      rw [splitOn_append_of_not_mem (spares.adds_none c h) ih, splitOn_cons_of_ne h split]
      rfl

theorem cut?_append_of_not_mem {front : List Char} (h : sep ∉ front) (cs : List Char) :
    cut? sep (front ++ cs) =
      (cut? sep cs).map fun (before, after) => (front ++ before, after) := by
  induction front with
  | nil => exact Option.map_id.symm ▸ rfl
  | cons c front ih =>
    rw [List.mem_cons, not_or] at h
    rw [List.cons_append, cut?, if_neg (Ne.symm h.1), ih h.2, Option.map_map]
    rfl

theorem cut?_flatMap (spares : Spares sep write) (cs : List Char) :
    cut? sep (cs.flatMap write) =
      (cut? sep cs).map fun (before, after) => (before.flatMap write, after.flatMap write) := by
  induction cs with
  | nil => rfl
  | cons c cs ih =>
    rw [List.flatMap_cons]
    by_cases h : c = sep
    · rw [h, spares.keeps, List.singleton_append, cut?, if_pos rfl, cut?, if_pos rfl]
      rfl
    · rw [cut?_append_of_not_mem (spares.adds_none c h), ih, cut?, if_neg h, Option.map_map,
        Option.map_map]
      rfl

end Text

/-! ## Characters -/

namespace Form
open Percent (Escapes isBare)

theorem isBare_of_high {b : UInt8} (h : 0x80 ≤ b.toNat) : isBare b = true := by
  have above (d : UInt8) (low : d.toNat < 0x80) : ¬ b ≤ d := by
    rw [UInt8.le_iff_toNat_le]
    omega
  have not_digit : Percent.digitValue? b = none := by
    rw [Percent.digitValue?, if_neg (fun range => above 57 (by decide) range.2),
      if_neg (fun range => above 70 (by decide) range.2),
      if_neg (fun range => above 102 (by decide) range.2)]
  have not_mark : b ≠ 0x25 := by
    rintro rfl
    revert h
    decide
  rw [isBare, not_digit]
  simp [not_mark]

theorem high_of_mem_encodeChar {c : Char} (h : 0x80 ≤ c.toNat) {b : UInt8}
    (there : b ∈ Utf8.encodeChar c) : 0x80 ≤ b.toNat := by
  have range := Utf8.scalar_range c
  unfold Utf8.encodeChar at there
  generalize c.toNat = n at h range there
  have byte (m : Nat) (low : 0x80 ≤ m) (high : m < 256) (e : b = UInt8.ofNat m) :
      0x80 ≤ b.toNat := by
    rw [e, Utf8.toNat_ofNat_of_lt high]
    exact low
  simp only [Nat.not_lt.mpr h, if_false] at there
  split at there
  · simp only [List.mem_cons, List.not_mem_nil, or_false] at there
    rcases there with e | e
    all_goals exact byte _ (by omega) (by omega) e
  · split at there
    · simp only [List.mem_cons, List.not_mem_nil, or_false] at there
      rcases there with e | e | e
      all_goals exact byte _ (by omega) (by omega) e
    · simp only [List.mem_cons, List.not_mem_nil, or_false] at there
      rcases there with e | e | e | e
      all_goals exact byte _ (by omega) (by omega) e

theorem isBare_of_low : ∀ n : Fin 128, isText (Char.ofNat n) = false →
    isBare (UInt8.ofNat n) = true := by
  decide

/-- Marks and digits are text, so the bytes of any other character are bare. -/
theorem isBare_of_mem_encodeChar {c : Char} (h : isText c = false) {b : UInt8}
    (there : b ∈ Utf8.encodeChar c) : isBare b = true := by
  by_cases low : c.toNat < 0x80
  · have single : Utf8.encodeChar c = [UInt8.ofNat c.toNat] := by
      simp [Utf8.encodeChar, low]
    rw [single, List.mem_singleton] at there
    rw [there]
    refine isBare_of_low ⟨c.toNat, low⟩ ?_
    rw [Char.ofNat_toNat]
    exact h
  · exact isBare_of_high (high_of_mem_encodeChar (Nat.not_lt.mp low) there)

theorem isEmpty_percentEncode (set : Percent.Set) (cs : List Char) :
    (Percent.encode set cs).isEmpty = cs.isEmpty := by
  cases cs with
  | nil => rfl
  | cons c cs =>
    rw [Percent.encode, List.flatMap_cons, Percent.encodeChar]
    split
    · obtain ⟨b, more, bytes, _⟩ := Utf8.step_encodeChar c []
      rw [bytes]
      rfl
    · rfl

section

variable {set : Percent.Set} (spares : ∀ c, set c = true → isText c = false)
include spares

theorem spares_of_isText (sep : Char) (text : isText sep = true)
    (unwritten : isWritten sep = false) : Text.Spares sep (Percent.encodeChar set) where
  keeps := by
    have out : set sep = false := by
      rw [← Bool.not_eq_true]
      intro inside
      rw [spares sep inside] at text
      cases text
    rw [Percent.encodeChar, out]
    rfl
  adds_none c other there := by
    unfold Percent.encodeChar at there
    split at there
    · obtain ⟨b, _, digit⟩ := List.mem_flatMap.mp there
      rw [(mem_encodeByte digit).1] at unwritten
      cases unwritten
    · exact other (List.mem_singleton.mp there).symm

theorem escapes_encodeChar (c : Char) {written plain : Bytes} (rest : Escapes written plain) :
    Escapes (Utf8.encodeChars ((Percent.encodeChar set c).map unplus) ++ written)
      (Utf8.encodeChar (unplus c) ++ plain) := by
  unfold Percent.encodeChar
  split
  · next inside =>
    have not_text := spares c inside
    have whole : unplus c = c := by
      refine if_neg ?_
      rintro rfl
      cases not_text
    have wholes : ((Utf8.encodeChar c).flatMap Percent.encodeByte).map unplus =
        (Utf8.encodeChar c).flatMap Percent.encodeByte := by
      refine (List.map_congr_left fun d there => ?_).trans (List.map_id _)
      obtain ⟨b, _, digit⟩ := List.mem_flatMap.mp there
      exact if_neg (mem_encodeByte digit).2
    rw [wholes, whole]
    exact rest.escaped_all fun b => isBare_of_mem_encodeChar not_text
  · rw [List.map_singleton, Utf8.encodeChars, List.flatMap_singleton]
    exact rest.kept_all _

theorem escapes_encode (cs : List Char) :
    Escapes (Utf8.encodeChars ((Percent.encode set cs).map unplus))
      (Utf8.encodeChars (cs.map unplus)) := by
  induction cs with
  | nil => exact .nil
  | cons c cs ih =>
    rw [Percent.encode, List.flatMap_cons, List.map_append, Utf8.encodeChars, List.flatMap_append,
      List.map_cons, Utf8.encodeChars, List.flatMap_cons]
    exact escapes_encodeChar spares c ih

theorem decode_percentEncode (cs : List Char) : decode (Percent.encode set cs) = decode cs := by
  rw [decode, (escapes_encode spares cs).decode_eq, decode]

theorem parsePair_percentEncode (cs : List Char) :
    parsePair (Percent.encode set cs) = parsePair cs := by
  have cut := Text.cut?_flatMap (spares_of_isText spares '=' rfl rfl) cs
  unfold parsePair
  rw [Percent.encode, cut]
  cases Text.cut? '=' cs with
  | none =>
    exact Prod.ext (decode_percentEncode spares cs) rfl
  | some parts =>
    exact Prod.ext (decode_percentEncode spares parts.1) (decode_percentEncode spares parts.2)

/-- Writing characters that are no text as their bytes changes none of the pairs. -/
theorem parseChars_percentEncode (cs : List Char) :
    parseChars (Percent.encode set cs) = parseChars cs := by
  have split := Text.splitOn_flatMap (spares_of_isText spares '&' rfl rfl) cs
  unfold parseChars
  rw [Percent.encode, split, List.filter_map, List.map_map]
  have same_parts : (Text.splitOn '&' cs).filter
      ((fun part => !part.isEmpty) ∘ fun part => part.flatMap (Percent.encodeChar set)) =
      (Text.splitOn '&' cs).filter fun part => !part.isEmpty := by
    refine List.filter_congr fun part _ => ?_
    exact congrArg not (isEmpty_percentEncode set part)
  rw [same_parts]
  exact List.map_congr_left fun part _ => parsePair_percentEncode spares part

end

end Form

end WebFetch
