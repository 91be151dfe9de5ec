import Mathlib.Data.List.Forall2
import WebFetch.Headers.Basic

/-!
Names of headers. Two names are one and the same when they agree letter by letter but for the case
of ASCII letters, and this is what it means for their stored forms to be equal. A stored form has no
upper-case letter and is its own.
-/

set_option autoImplicit false

namespace WebFetch.Headers

/-- The same character, or an ASCII letter in its two cases. -/
def SameLetter (c d : Char) : Prop :=
  c = d ∨ (c.isUpper = true ∧ d.toNat = c.toNat + 32) ∨ (d.isUpper = true ∧ c.toNat = d.toNat + 32)

def SameName (name other : String) : Prop := List.Forall₂ SameLetter name.toList other.toList

/-! ## One letter -/

theorem isUpper_iff {c : Char} : c.isUpper = true ↔ 65 ≤ c.toNat ∧ c.toNat ≤ 90 := by
  change decide (c.val ≥ 'A'.val ∧ c.val ≤ 'Z'.val) = true ↔ _
  simp [UInt32.le_iff_toNat_le]

/-- An upper-case letter moves by the distance of the two cases, and any other character stays. -/
theorem toLower_cases (c : Char) :
    (65 ≤ c.toNat ∧ c.toNat ≤ 90 ∧ c.toLower.toNat = c.toNat + 32) ∨
      (¬ (65 ≤ c.toNat ∧ c.toNat ≤ 90) ∧ c.toLower.toNat = c.toNat) := by
  have upper : (c.val ≥ 'A'.val ∧ c.val ≤ 'Z'.val) ↔ 65 ≤ c.toNat ∧ c.toNat ≤ 90 := by
    simp [UInt32.le_iff_toNat_le]
  by_cases h : c.val ≥ 'A'.val ∧ c.val ≤ 'Z'.val
  · have range := upper.mp h
    have moved : c.toLower.toNat = (c.val + ('a'.val - 'A'.val)).toNat :=
      congrArg Char.toNat (dif_pos h)
    have sum : (c.val + ('a'.val - 'A'.val)).toNat = (c.toNat + 32) % 2 ^ 32 :=
      UInt32.toNat_add _ _
    refine .inl ⟨range.1, range.2, ?_⟩
    omega
  · exact .inr ⟨mt upper.mpr h, congrArg Char.toNat (dif_neg h)⟩

theorem isUpper_toLower (c : Char) : c.toLower.isUpper = false := by
  have moved := toLower_cases c
  rw [← Bool.not_eq_true, isUpper_iff]
  omega

theorem toLower_of_not_isUpper {c : Char} (h : c.isUpper = false) : c.toLower = c := by
  have moved := toLower_cases c
  rw [← Bool.not_eq_true, isUpper_iff] at h
  rw [← Char.toNat_inj]
  omega

theorem toLower_eq_toLower_iff {c d : Char} : c.toLower = d.toLower ↔ SameLetter c d := by
  have moved := toLower_cases c
  have moved' := toLower_cases d
  rw [SameLetter, isUpper_iff, isUpper_iff, ← Char.toNat_inj, ← Char.toNat_inj]
  omega

/-! ## Stored forms -/

theorem toList_lower (name : String) : (lower name).toList = name.toList.map Char.toLower :=
  String.toList_ofList

theorem lower_eq_lower_iff {name other : String} :
    lower name = lower other ↔ SameName name other := by
  rw [lower, lower, String.ofList_inj, SameName, ← List.forall₂_eq_eq_eq, List.forall₂_map_left_iff,
    List.forall₂_map_right_iff]
  simp only [toLower_eq_toLower_iff]

instance (name other : String) : Decidable (SameName name other) :=
  decidable_of_iff _ lower_eq_lower_iff

theorem isUpper_of_mem_lower {name : String} {c : Char} (h : c ∈ (lower name).toList) :
    c.isUpper = false := by
  rw [toList_lower] at h
  obtain ⟨d, _, rfl⟩ := List.mem_map.mp h
  exact isUpper_toLower d

theorem lower_eq_self {name : String} (h : ∀ c ∈ name.toList, c.isUpper = false) :
    lower name = name := by
  have kept : name.toList.map Char.toLower = name.toList.map id :=
    List.map_congr_left fun c there => toLower_of_not_isUpper (h c there)
  rw [lower, kept, List.map_id, String.ofList_toList]

end WebFetch.Headers
