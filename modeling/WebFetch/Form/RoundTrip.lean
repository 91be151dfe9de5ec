import WebFetch.Form
import WebFetch.Text.Utf8.RoundTrip

/-!
Form text holds what was written into it: every list of names and values, with any characters in
them, reads back as it was.
-/

set_option autoImplicit false

namespace WebFetch.Form

theorem isPlain_iff {c : Char} :
    isPlain c ↔ 97 ≤ c.toNat ∧ c.toNat ≤ 122 ∨ 65 ≤ c.toNat ∧ c.toNat ≤ 90 ∨
      48 ≤ c.toNat ∧ c.toNat ≤ 57 ∨ c = '*' ∨ c = '-' ∨ c = '.' ∨ c = '_' := by
  simp only [isPlain, Bool.or_eq_true, Bool.and_eq_true, decide_eq_true_eq, List.contains_iff_mem,
    List.mem_cons, List.not_mem_nil, or_false, or_assoc]
  rfl

theorem isPlain_range {c : Char} (h : isPlain c) : c.toNat < 0x80 ∧ c ≠ '+' ∧ c ≠ '%' := by
  refine ⟨?_, ?_, ?_⟩
  · rcases isPlain_iff.mp h with h | h | h | rfl | rfl | rfl | rfl
    · omega
    · omega
    · omega
    all_goals decide
  · rintro rfl
    exact absurd h (by decide)
  · rintro rfl
    exact absurd h (by decide)

/-- What `encode` writes for one character. -/
theorem encodeChar_cases (c : Char) :
    c = ' ' ∧ encodeChar c = ['+'] ∨ isPlain c ∧ encodeChar c = [c] ∨
      encodeChar c = (Utf8.encodeChar c).flatMap Percent.encodeByte := by
  by_cases h : c = ' '
  · exact .inl ⟨h, by simp [encodeChar, h]⟩
  · by_cases hp : isPlain c
    · exact .inr (.inl ⟨hp, by simp [encodeChar, h, Percent.encodeChar, hp]⟩)
    · exact .inr (.inr (by simp [encodeChar, h, Percent.encodeChar, hp]))

/-- The characters that form text is written in. -/
def isWritten (c : Char) : Bool := isPlain c || c == '+' || c == '%'

theorem isWritten_hexDigit :
    ∀ n : Fin 16, isWritten (Percent.hexDigit n) ∧ Percent.hexDigit n ≠ '+' := by
  decide

theorem mem_encodeByte {b : UInt8} {c : Char} (h : c ∈ Percent.encodeByte b) :
    isWritten c ∧ c ≠ '+' := by
  have hb := b.toNat_lt
  simp only [Percent.encodeByte, List.mem_cons, List.not_mem_nil, or_false] at h
  rcases h with rfl | rfl | rfl
  · decide
  · exact isWritten_hexDigit ⟨b.toNat / 16, by omega⟩
  · exact isWritten_hexDigit ⟨b.toNat % 16, by omega⟩

theorem isWritten_of_mem_encode {text : String} {c : Char} (h : c ∈ encode text) : isWritten c := by
  obtain ⟨d, _, hd⟩ := List.mem_flatMap.mp h
  rcases encodeChar_cases d with ⟨_, e⟩ | ⟨hp, e⟩ | e <;> rw [e] at hd
  · rw [List.mem_singleton.mp hd]
    rfl
  · rw [List.mem_singleton.mp hd, isWritten, hp]
    rfl
  · obtain ⟨b, _, hb⟩ := List.mem_flatMap.mp hd
    exact (mem_encodeByte hb).1

theorem decode_encodeChar (c : Char) (rest : Bytes) :
    Percent.decode (Utf8.encodeChars ((encodeChar c).map unplus) ++ rest) =
      Utf8.encodeChar c ++ Percent.decode rest := by
  rcases encodeChar_cases c with ⟨rfl, e⟩ | ⟨hp, e⟩ | e
  · rw [e]
    exact Percent.decode_cons (by decide) rest
  · have hc := isPlain_range hp
    have hu : unplus c = c := if_neg hc.2.1
    have he : Utf8.encodeChar c = [UInt8.ofNat c.toNat] := by simp [Utf8.encodeChar, hc.1]
    rw [e, List.map_singleton, hu, Utf8.encodeChars, List.flatMap_singleton, he]
    refine Percent.decode_cons (fun h => hc.2.2 ?_) rest
    have h := congrArg UInt8.toNat h
    rw [Utf8.toNat_ofNat_of_lt (by omega)] at h
    exact Char.toNat_inj.mp h
  · have hu : (encodeChar c).map unplus = encodeChar c := by
      refine (List.map_congr_left fun d hd => ?_).trans (List.map_id _)
      rw [e] at hd
      obtain ⟨b, _, hb⟩ := List.mem_flatMap.mp hd
      exact if_neg (mem_encodeByte hb).2
    rw [hu, e, Percent.decode_flatMap_encodeByte]

theorem decode_flatMap_encodeChar (cs : List Char) :
    Percent.decode (Utf8.encodeChars ((cs.flatMap encodeChar).map unplus)) =
      Utf8.encodeChars cs := by
  induction cs with
  | nil => rfl
  | cons c cs ih =>
    rw [List.flatMap_cons, List.map_append, Utf8.encodeChars, List.flatMap_append,
      ← Utf8.encodeChars, decode_encodeChar, ← Utf8.encodeChars, ih, Utf8.encodeChars,
      Utf8.encodeChars, List.flatMap_cons]

theorem decode_encode (text : String) : decode (encode text) = text := by
  have h := Utf8.decodeChars?_encodeChars text.toList
  rw [decode, encode, decode_flatMap_encodeChar, Utf8.decodeLossy,
    Utf8.decodeCharsLossy_of_decodeChars? h, String.ofList_toList]

theorem not_mem_encode {c : Char} (h : isWritten c = false) (text : String) : c ∉ encode text :=
  fun hc => by simp [isWritten_of_mem_encode hc] at h

theorem parsePair_renderPair (pair : String × String) : parsePair (renderPair pair) = pair := by
  rw [parsePair, renderPair, Text.cut?_append (not_mem_encode (by decide) _)]
  simp only [Option.getD_some, decode_encode]

theorem amp_not_mem_renderPair (pair : String × String) : '&' ∉ renderPair pair := by
  rw [renderPair, List.mem_append, List.mem_cons]
  rintro (h | h | h)
  · exact not_mem_encode (by decide) _ h
  · exact absurd h (by decide)
  · exact not_mem_encode (by decide) _ h

theorem isEmpty_renderPair (pair : String × String) : (renderPair pair).isEmpty = false := by
  simp [renderPair]

/-- Form text reads back as the entries it was written from. -/
theorem parse_render (entries : Entries) : parse (render entries) = entries := by
  rw [parse, render, String.toList_ofList, parseChars, renderChars]
  cases entries with
  | nil => rfl
  | cons pair rest =>
    have hamp : ∀ part ∈ (pair :: rest).map renderPair, '&' ∉ part := by
      intro part h
      obtain ⟨p, _, rfl⟩ := List.mem_map.mp h
      exact amp_not_mem_renderPair p
    have hne : ∀ part ∈ (pair :: rest).map renderPair, (!part.isEmpty) = true := by
      intro part h
      obtain ⟨p, _, rfl⟩ := List.mem_map.mp h
      rw [isEmpty_renderPair, Bool.not_false]
    have hcons : (pair :: rest).map renderPair ≠ [] := List.cons_ne_nil _ _
    rw [Text.splitOn_intercalate hcons hamp, List.filter_eq_self.mpr hne,
      List.map_map]
    exact (List.map_congr_left fun p _ => parsePair_renderPair p).trans (List.map_id _)

end WebFetch.Form
