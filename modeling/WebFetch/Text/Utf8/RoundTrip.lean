import WebFetch.Text.Utf8

/-!
Encoding and decoding undo each other. The main statements say that strict decoding gives back the
text that was encoded, and that decoding with replacement agrees with it wherever it succeeds.
-/

set_option autoImplicit false

namespace WebFetch.Utf8

theorem toNat_ofNat_of_lt {n : Nat} (h : n < 256) : (UInt8.ofNat n).toNat = n := by
  simp [UInt8.toNat_ofNat', Nat.mod_eq_of_lt h]

theorem lead?_ofNat_two {n : Nat} (h : 0xC2 ≤ n) (h' : n < 0xE0) :
    lead? (UInt8.ofNat n) = some ⟨1, 0x80, 0xBF⟩ := by
  have hn : (UInt8.ofNat n).toNat = n := toNat_ofNat_of_lt (by omega)
  simp only [lead?, UInt8.lt_iff_toNat_lt, hn]
  simp [Nat.not_lt.mpr h, h']

theorem lead?_ofNat_three {n : Nat} (h : 0xE0 ≤ n) (h' : n < 0xF0) :
    lead? (UInt8.ofNat n) =
      some ⟨2, if n = 0xE0 then 0xA0 else 0x80, if n = 0xED then 0x9F else 0xBF⟩ := by
  have hn : (UInt8.ofNat n).toNat = n := toNat_ofNat_of_lt (by omega)
  have h1 : ¬ n < 0xC2 := by omega
  have h2 : ¬ n < 0xE0 := by omega
  simp only [lead?, UInt8.lt_iff_toNat_lt, ← UInt8.toNat_inj, hn]
  by_cases h3 : n = 0xE0
  · simp [h3]
  · by_cases h4 : n = 0xED
    · simp [h4]
    · simp [h1, h2, h3, h4, h']

theorem lead?_ofNat_four {n : Nat} (h : 0xF0 ≤ n) (h' : n ≤ 0xF4) :
    lead? (UInt8.ofNat n) =
      some ⟨3, if n = 0xF0 then 0x90 else 0x80, if n = 0xF4 then 0x8F else 0xBF⟩ := by
  have hn : (UInt8.ofNat n).toNat = n := toNat_ofNat_of_lt (by omega)
  have h1 : ¬ n < 0xC2 := by omega
  have h2 : ¬ n < 0xE0 := by omega
  have h3 : ¬ n < 0xF0 := by omega
  have h4 : n ≠ 0xE0 ∧ n ≠ 0xED := by omega
  simp only [lead?, UInt8.lt_iff_toNat_lt, ← UInt8.toNat_inj, hn]
  by_cases h5 : n = 0xF0 <;> by_cases h6 : n = 0xF4 <;> simp [h1, h2, h3, h4, h5, h6]
  omega

theorem isContinuation_ofNat (n : Nat) : isContinuation (UInt8.ofNat (0x80 + n % 64)) = true := by
  have hn : (UInt8.ofNat (0x80 + n % 64)).toNat = 0x80 + n % 64 := toNat_ofNat_of_lt (by omega)
  simp only [isContinuation, UInt8.le_iff_toNat_le, hn, Bool.and_eq_true, decide_eq_true_eq]
  simp
  omega

theorem payload_ofNat (n : Nat) : payload (UInt8.ofNat (0x80 + n % 64)) = n % 64 := by
  rw [payload, toNat_ofNat_of_lt (by omega)]
  omega

theorem scalar_range (c : Char) :
    c.toNat < 0xD800 ∨ 0xDFFF < c.toNat ∧ c.toNat < 0x110000 := c.valid

theorem not_lt_ofNat {n : Nat} (h : 0x80 ≤ n) (h' : n < 256) : ¬ UInt8.ofNat n < 0x80 := by
  rw [UInt8.lt_iff_toNat_lt, toNat_ofNat_of_lt h']
  exact Nat.not_lt.mpr h

/-- The second byte lies in the range that the first one sets. -/
theorem inRange_ofNat (n : Nat) {a b : UInt8} (ha : a.toNat ≤ 0x80 + n % 64)
    (hb : 0x80 + n % 64 ≤ b.toNat) :
    (UInt8.ofNat (0x80 + n % 64) < a || b < UInt8.ofNat (0x80 + n % 64)) = false := by
  have hn : (UInt8.ofNat (0x80 + n % 64)).toNat = 0x80 + n % 64 := toNat_ofNat_of_lt (by omega)
  simp only [UInt8.lt_iff_toNat_lt, hn, Bool.or_eq_false_iff, decide_eq_false_iff_not]
  omega

theorem ite_toNat (p : Prop) [Decidable p] (a b : UInt8) :
    (if p then a else b).toNat = if p then a.toNat else b.toNat := by
  split <;> rfl

/-- The character at the front of an encoding is read whole. -/
theorem step_encodeChar (c : Char) (rest : Bytes) :
    ∃ b more, encodeChar c = b :: more ∧ step b (more ++ rest) = (some c, more.length) := by
  have hv := scalar_range c
  have hc : ∀ n, n = c.toNat → Char.ofNat n = c := fun n h => h ▸ Char.ofNat_toNat c
  simp only [encodeChar]
  generalize c.toNat = n at hv hc
  split
  · next h =>
    have hb : (UInt8.ofNat n).toNat = n := toNat_ofNat_of_lt (by omega)
    refine ⟨_, _, rfl, ?_⟩
    have : UInt8.ofNat n < 0x80 := by simpa [UInt8.lt_iff_toNat_lt, hb] using h
    simp [step, this, hb, hc]
  · next h =>
    split
    · next h' =>
      have hb : (UInt8.ofNat (0xC0 + n / 64)).toNat = 0xC0 + n / 64 := toNat_ofNat_of_lt (by omega)
      refine ⟨_, _, rfl, ?_⟩
      simp only [step, List.cons_append, List.nil_append,
        if_neg (not_lt_ofNat (n := 0xC0 + n / 64) (by omega) (by omega)),
        lead?_ofNat_two (n := 0xC0 + n / 64) (by omega) (by omega),
        inRange_ofNat n (a := 0x80) (b := 0xBF) (by simp) (by simp; omega),
        payload_ofNat, hb]
      simp only [Bool.false_eq_true, if_false, if_true, List.length_singleton]
      rw [hc _ (by omega)]
    · next h' =>
      split
      · next h'' =>
        have hb : (UInt8.ofNat (0xE0 + n / 4096)).toNat = 0xE0 + n / 4096 :=
          toNat_ofNat_of_lt (by omega)
        refine ⟨_, _, rfl, ?_⟩
        simp only [step, List.cons_append, List.nil_append,
          if_neg (not_lt_ofNat (n := 0xE0 + n / 4096) (by omega) (by omega)),
          lead?_ofNat_three (n := 0xE0 + n / 4096) (by omega) (by omega)]
        rw [inRange_ofNat (n / 64)
          (by rw [ite_toNat]; simp only [UInt8.reduceToNat]; split <;> omega)
          (by rw [ite_toNat]; simp only [UInt8.reduceToNat]; split <;> omega)]
        simp only [isContinuation_ofNat, payload_ofNat, hb]
        simp only [Bool.false_eq_true, if_false, if_true, Bool.not_true, Nat.reduceEqDiff]
        rw [hc _ (by omega)]
        rfl
      · next h'' =>
        have hb : (UInt8.ofNat (0xF0 + n / 262144)).toNat = 0xF0 + n / 262144 :=
          toNat_ofNat_of_lt (by omega)
        refine ⟨_, _, rfl, ?_⟩
        simp only [step, List.cons_append, List.nil_append,
          if_neg (not_lt_ofNat (n := 0xF0 + n / 262144) (by omega) (by omega)),
          lead?_ofNat_four (n := 0xF0 + n / 262144) (by omega) (by omega)]
        rw [inRange_ofNat (n / 4096)
          (by rw [ite_toNat]; simp only [UInt8.reduceToNat]; split <;> omega)
          (by rw [ite_toNat]; simp only [UInt8.reduceToNat]; split <;> omega)]
        simp only [isContinuation_ofNat, payload_ofNat, hb]
        simp only [Bool.false_eq_true, if_false, Bool.not_true, Nat.reduceEqDiff]
        rw [hc _ (by omega)]
        rfl

theorem decodeChars?_append (c : Char) (rest : Bytes) :
    decodeChars? (encodeChar c ++ rest) = (decodeChars? rest).map (c :: ·) := by
  obtain ⟨b, more, he, hs⟩ := step_encodeChar c rest
  rw [he, List.cons_append, decodeChars?, hs]
  simp

theorem decodeCharsLossy_append (c : Char) (rest : Bytes) :
    decodeCharsLossy (encodeChar c ++ rest) = c :: decodeCharsLossy rest := by
  obtain ⟨b, more, he, hs⟩ := step_encodeChar c rest
  rw [he, List.cons_append, decodeCharsLossy, hs]
  simp

theorem decodeChars?_encodeChars (cs : List Char) : decodeChars? (encodeChars cs) = some cs := by
  induction cs with
  | nil => simp [encodeChars, decodeChars?]
  | cons c cs ih =>
    rw [encodeChars, List.flatMap_cons, decodeChars?_append, ← encodeChars, ih]
    rfl

theorem decode?_encode (s : String) : decode? (encode s) = some s := by
  rw [decode?, encode, decodeChars?_encodeChars]
  simp

/-- Where strict decoding succeeds, nothing is replaced. -/
theorem decodeCharsLossy_of_decodeChars? {bytes : Bytes} {cs : List Char}
    (h : decodeChars? bytes = some cs) : decodeCharsLossy bytes = cs := by
  fun_induction decodeChars? bytes generalizing cs with
  | case1 => simp_all [decodeCharsLossy]
  | case2 b rest c n hs ih =>
    obtain ⟨ds, hd, rfl⟩ := Option.map_eq_some_iff.mp h
    rw [decodeCharsLossy, hs]
    exact congrArg (c :: ·) (ih hd)
  | case3 => cases h

theorem decodeLossy_encode (s : String) : decodeLossy (encode s) = s := by
  rw [decodeLossy, encode, decodeCharsLossy_of_decodeChars? (decodeChars?_encodeChars _),
    String.ofList_toList]

end WebFetch.Utf8
