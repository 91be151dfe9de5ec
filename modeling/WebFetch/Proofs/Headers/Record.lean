import Mathlib.Data.List.Induction
import WebFetch.Headers.Record
import WebFetch.Proofs.Entries.Keyed

/-!
Flattening a list of headers. The record that comes out has every stored name once, and under it all
the values of the name, joined in their order. Where no name comes twice there is nothing to join:
then the record has the entries of the list, in whatever order they are walked.
-/

set_option autoImplicit false

namespace WebFetch

namespace Headers

/-- The values of a name as one value, if there are any. -/
def joined? (values : List String) : Option String :=
  if values = [] then none else some (joined values)

theorem joined_concat {values : List String} (h : values ≠ []) (value : String) :
    joined (values ++ [value]) = joined values ++ ", " ++ value := by
  have hs := String.intercalate_append_of_ne_nil (s := ", ") h (List.cons_ne_nil value [])
  rw [String.intercalate_singleton] at hs
  exact hs

theorem joined?_eq_none_iff {values : List String} : joined? values = none ↔ values = [] := by
  simp [joined?]

theorem get?_eq (h : Headers) (name : String) : h.get? name = joined? (h.getAll name) := by
  unfold get?
  cases h.getAll name with
  | nil => rfl
  | cons value rest => rfl

theorem has_eq (h : Headers) (name : String) : h.has name = (h.get? name).isSome := by
  rw [Bool.eq_iff_iff, get?_eq, Option.isSome_iff_ne_none, Ne, joined?_eq_none_iff]
  exact Entries.has_iff h.entries (lower name)

theorem mem_keys_iff {h : Headers} {name : String} :
    name ∈ h.keys ↔ h.entries.valuesOf name ≠ [] := by
  rw [← Entries.has_iff, Entries.has, List.any_eq_true, keys, List.mem_map]
  simp only [beq_iff_eq]

end Headers

namespace HeaderRecord

/-- What a record has under a name once one more value is added. -/
def extended (value : String) : Option String → String
  | none => value
  | some old => old ++ ", " ++ value

theorem join_eq_revise (record : HeaderRecord) (name value : String) :
    record.join name value = Keyed.revise (extended value) name record := by
  induction record with
  | nil => rfl
  | cons entry rest ih =>
    rw [join, ih]
    rfl

/-- A value joins what the record holds under its name. -/
theorem get?_join (record : HeaderRecord) (name value asked : String) :
    (record.join name value).get? asked =
      if asked = name then some (extended value (record.get? name)) else record.get? asked := by
  rw [join_eq_revise]
  exact Keyed.get?_revise (extended value) name record asked

/-- The record holds every name of the list once, with all its values joined. -/
structure Joins (record : HeaderRecord) (h : Headers) : Prop where
  nodup_keys : (record.map Prod.fst).Nodup
  get?_eq : ∀ name, record.get? name = Headers.joined? (h.entries.valuesOf name)

/-! ### Records without a name twice -/

/-- One value is joined to itself. -/
theorem joined?_valuesOf {entries : HeaderRecord} (h : (entries.map Prod.fst).Nodup)
    (name : String) : Headers.joined? (Entries.valuesOf entries name) = entries.get? name := by
  induction entries with
  | nil => rfl
  | cons entry rest ih =>
    obtain ⟨absent, nodup⟩ := List.nodup_cons.mp h
    have first : get? (entry :: rest) name =
        if entry.1 = name then some entry.2 else get? rest name :=
      Keyed.get?_cons entry rest name
    rw [Entries.valuesOf_cons, first]
    by_cases he : entry.1 = name
    · have alone : Headers.joined? (Entries.valuesOf rest name) = none := by
        rw [ih nodup, ← he]
        exact Keyed.get?_eq_none_iff.mpr absent
      have empty : Entries.valuesOf rest name = [] := by
        by_contra there
        rw [Headers.joined?, if_neg there] at alone
        cases alone
      rw [if_pos he, if_pos he, empty]
      exact congrArg some String.intercalate_singleton
    · rw [if_neg he, if_neg he, ih nodup]

theorem Joins.perm {record : HeaderRecord} {h : Headers} (joins : record.Joins h)
    (nodup : (h.entries.map Prod.fst).Nodup) : record.Perm h.entries := by
  refine Keyed.perm_of_get?_eq joins.nodup_keys nodup fun name => ?_
  exact (joins.get?_eq name).trans (joined?_valuesOf nodup name)

/-- No two names of the record are the same but for the case of ASCII letters. -/
def Distinct (record : HeaderRecord) : Prop :=
  (record.map fun entry => Headers.lower entry.1).Nodup

/-- The record with all its names in lower case. -/
def lowered (record : HeaderRecord) : HeaderRecord :=
  record.map fun entry => (Headers.lower entry.1, entry.2)

theorem Distinct.nodup_lowered {record : HeaderRecord} (h : record.Distinct) :
    (record.lowered.map Prod.fst).Nodup := by
  rw [lowered, List.map_map]
  exact h

/-- A record with distinct names goes through a list of headers and comes out in lower case, in
    whatever order it is walked. -/
theorem Joins.perm_lowered {record out walked : HeaderRecord} {h : Headers} (joins : out.Joins h)
    (entries : h.entries = walked.lowered) (distinct : record.Distinct)
    (walk : walked.Perm record) : out.Perm record.lowered := by
  have lower : walked.lowered.Perm record.lowered := walk.map _
  have nodup : (h.entries.map Prod.fst).Nodup := by
    rw [entries]
    exact (lower.map Prod.fst).nodup_iff.mpr distinct.nodup_lowered
  have same := joins.perm nodup
  rw [entries] at same
  exact same.trans lower

end HeaderRecord

namespace Headers

theorem toRecord_concat (entries : Entries) (entry : String × String) :
    toRecord ⟨entries ++ [entry]⟩ = (toRecord ⟨entries⟩).join entry.1 entry.2 := by
  rw [toRecord, List.foldl_append]
  rfl

theorem joins_toRecord (h : Headers) : h.toRecord.Joins h := by
  obtain ⟨entries⟩ := h
  induction entries using List.reverseRecOn with
  | nil => exact ⟨List.nodup_nil, fun _ => rfl⟩
  | append_singleton entries entry ih =>
    constructor
    · rw [toRecord_concat, HeaderRecord.join_eq_revise]
      exact Keyed.nodup_keys_revise _ entry.1 ih.nodup_keys
    · intro name
      have values := Entries.valuesOf_append entries entry.1 entry.2 name
      change Entries.valuesOf (entries ++ [entry]) name = _ at values
      rw [toRecord_concat, HeaderRecord.get?_join, values, ih.get?_eq, ih.get?_eq]
      by_cases hn : name = entry.1
      · rw [if_pos hn, if_pos hn, hn]
        by_cases hv : Entries.valuesOf entries entry.1 = []
        · rw [hv, List.nil_append]
          exact congrArg some String.intercalate_singleton.symm
        · rw [joined?, if_neg hv, joined?, if_neg (by simp), joined_concat hv]
          rfl
      · rw [if_neg hn, if_neg hn]

end Headers

end WebFetch
