/-!
UTF-16 code units, kept only as an order on names: a character outside the basic plane counts as
its two surrogates and so comes before U+E000 to U+FFFF. The order is total, and only equal names
are equal in it.
-/

set_option autoImplicit false

namespace WebFetch.Units16

def ofChar (c : Char) : List Nat :=
  let n := c.toNat
  if n < 0x10000 then [n] else [0xD800 + (n - 0x10000) / 0x400, 0xDC00 + (n - 0x10000) % 0x400]

def ofString (s : String) : List Nat := s.toList.flatMap ofChar

def unitsLe : List Nat → List Nat → Bool
  | [], _ => true
  | _ :: _, [] => false
  | x :: xs, y :: ys => x < y || (x == y && unitsLe xs ys)

def le (a b : String) : Bool := unitsLe (ofString a) (ofString b)

theorem unitsLe_cons {x y : Nat} {xs ys : List Nat} :
    unitsLe (x :: xs) (y :: ys) ↔ x < y ∨ x = y ∧ unitsLe xs ys := by
  simp [unitsLe]

theorem unitsLe_total (xs ys : List Nat) : unitsLe xs ys ∨ unitsLe ys xs := by
  induction xs generalizing ys with
  | nil => exact .inl rfl
  | cons x xs ih =>
    cases ys with
    | nil => exact .inr rfl
    | cons y ys =>
      rw [unitsLe_cons, unitsLe_cons]
      rcases Nat.lt_trichotomy x y with h | h | h
      · exact .inl (.inl h)
      · rcases ih ys with h' | h'
        · exact .inl (.inr ⟨h, h'⟩)
        · exact .inr (.inr ⟨h.symm, h'⟩)
      · exact .inr (.inl h)

theorem unitsLe_trans {xs ys zs : List Nat} (h : unitsLe xs ys) (h' : unitsLe ys zs) :
    unitsLe xs zs := by
  induction xs generalizing ys zs with
  | nil => rfl
  | cons x xs ih =>
    cases ys with
    | nil => cases h
    | cons y ys =>
      cases zs with
      | nil => cases h'
      | cons z zs =>
        rw [unitsLe_cons] at h h' ⊢
        rcases h with h | ⟨rfl, h⟩
        · rcases h' with h' | ⟨rfl, _⟩
          · exact .inl (Nat.lt_trans h h')
          · exact .inl h
        · rcases h' with h' | ⟨rfl, h'⟩
          · exact .inl h'
          · exact .inr ⟨rfl, ih h h'⟩

theorem unitsLe_antisymm {xs ys : List Nat} (h : unitsLe xs ys) (h' : unitsLe ys xs) : xs = ys := by
  induction xs generalizing ys with
  | nil =>
    cases ys with
    | nil => rfl
    | cons => cases h'
  | cons x xs ih =>
    cases ys with
    | nil => cases h
    | cons y ys =>
      rw [unitsLe_cons] at h h'
      rcases h with h | ⟨rfl, h⟩
      · rcases h' with h' | ⟨rfl, _⟩
        · exact absurd h' (Nat.lt_asymm h)
        · exact absurd h (Nat.lt_irrefl _)
      · rcases h' with h' | ⟨_, h'⟩
        · exact absurd h' (Nat.lt_irrefl _)
        · rw [ih h h']

theorem le_total (a b : String) : le a b ∨ le b a := unitsLe_total _ _

theorem le_trans {a b c : String} (h : le a b) (h' : le b c) : le a c := unitsLe_trans h h'

/-- The code units of a character and what follows them determine both. -/
theorem ofChar_append_inj {c d : Char} {xs ys : List Nat} (h : ofChar c ++ xs = ofChar d ++ ys) :
    c = d ∧ xs = ys := by
  have hc := c.valid
  have hd := d.valid
  have hn : c.toNat = d.toNat → c = d := fun h => Char.toNat_inj.mp h
  simp only [UInt32.isValidChar, Nat.isValidChar] at hc hd
  have hc : c.toNat < 0xD800 ∨ 0xDFFF < c.toNat ∧ c.toNat < 0x110000 := hc
  have hd : d.toNat < 0xD800 ∨ 0xDFFF < d.toNat ∧ d.toNat < 0x110000 := hd
  simp only [ofChar] at h
  split at h <;> split at h <;> simp only [List.cons_append, List.nil_append, List.cons.injEq] at h
  · exact ⟨hn h.1, h.2⟩
  · exact absurd h.1 (by omega)
  · exact absurd h.1 (by omega)
  · exact ⟨hn (by omega), h.2.2⟩

theorem ofChar_ne_nil (c : Char) : ofChar c ≠ [] := by
  simp only [ofChar]
  split <;> simp

theorem flatMap_ofChar_inj {xs ys : List Char} (h : xs.flatMap ofChar = ys.flatMap ofChar) :
    xs = ys := by
  induction xs generalizing ys with
  | nil =>
    cases ys with
    | nil => rfl
    | cons d ys => simp [ofChar_ne_nil] at h
  | cons c xs ih =>
    cases ys with
    | nil => simp [ofChar_ne_nil] at h
    | cons d ys =>
      rw [List.flatMap_cons, List.flatMap_cons] at h
      obtain ⟨hc, hr⟩ := ofChar_append_inj h
      rw [hc, ih hr]

theorem ofString_injective {a b : String} (h : ofString a = ofString b) : a = b :=
  String.toList_injective (flatMap_ofChar_inj h)

theorem le_antisymm {a b : String} (h : le a b) (h' : le b a) : a = b :=
  ofString_injective (unitsLe_antisymm h h')

end WebFetch.Units16
