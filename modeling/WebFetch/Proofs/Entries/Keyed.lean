import Mathlib.Data.List.Nodup

/-!
Lists in which something stands under each name, and no name comes twice. Such a list is known by
what it has under every name: the order of its entries is not seen, and a change under one name
leaves all others.
-/

set_option autoImplicit false

namespace WebFetch.Keyed

variable {β : Type} {entries other : List (String × β)}

def get? (entries : List (String × β)) (name : String) : Option β :=
  (entries.find? fun entry => entry.1 == name).map Prod.snd

/-- Changes what stands under a name; where nothing does, what comes of it is put at the end. -/
def revise (change : Option β → β) (name : String) : List (String × β) → List (String × β)
  | [] => [(name, change none)]
  | entry :: rest =>
    if entry.1 = name then (name, change (some entry.2)) :: rest
    else entry :: revise change name rest

theorem get?_cons (entry : String × β) (rest : List (String × β)) (name : String) :
    get? (entry :: rest) name = if entry.1 = name then some entry.2 else get? rest name := by
  by_cases h : entry.1 = name
  · simp [get?, h]
  · simp [get?, h]

theorem get?_eq_none_iff {name : String} :
    get? entries name = none ↔ name ∉ entries.map Prod.fst := by
  simp only [get?, Option.map_eq_none_iff, List.find?_eq_none, beq_iff_eq, List.mem_map, not_exists,
    not_and]

/-! ## Changes under one name -/

variable (change : Option β → β) (name : String)

theorem get?_revise (entries : List (String × β)) (asked : String) :
    get? (revise change name entries) asked =
      if asked = name then some (change (get? entries name)) else get? entries asked := by
  induction entries with
  | nil =>
    rw [revise, get?_cons]
    by_cases h : asked = name
    · rw [if_pos h.symm, if_pos h]
      rfl
    · rw [if_neg (Ne.symm h), if_neg h]
  | cons entry rest ih =>
    rw [revise]
    by_cases he : entry.1 = name
    · rw [if_pos he, get?_cons, get?_cons, get?_cons, if_pos he, he]
      by_cases h : asked = name
      · rw [if_pos h.symm, if_pos h]
      · rw [if_neg (Ne.symm h), if_neg (Ne.symm h), if_neg h]
    · rw [if_neg he, get?_cons, get?_cons, get?_cons, if_neg he, ih]
      by_cases h : asked = name
      · have hne : entry.1 ≠ asked := fun e => he (e.trans h)
        rw [if_neg hne, if_pos h, if_pos h]
      · rw [if_neg h, if_neg h]

theorem keys_revise (entries : List (String × β)) :
    (revise change name entries).map Prod.fst =
      if name ∈ entries.map Prod.fst then entries.map Prod.fst
      else entries.map Prod.fst ++ [name] := by
  induction entries with
  | nil => rfl
  | cons entry rest ih =>
    rw [revise]
    by_cases he : entry.1 = name
    · rw [if_pos he, List.map_cons, List.map_cons, if_pos]
      · rw [he]
      · rw [he]
        exact List.mem_cons_self
    · have hm : name ∈ (entry :: rest).map Prod.fst ↔ name ∈ rest.map Prod.fst := by
        rw [List.map_cons, List.mem_cons]
        exact or_iff_right (Ne.symm he)
      rw [if_neg he, List.map_cons, ih]
      by_cases h : name ∈ rest.map Prod.fst
      · rw [if_pos h, if_pos (hm.mpr h), List.map_cons]
      · rw [if_neg h, if_neg (fun h' => h (hm.mp h')), List.map_cons, List.cons_append]

theorem nodup_keys_revise (h : (entries.map Prod.fst).Nodup) :
    ((revise change name entries).map Prod.fst).Nodup := by
  rw [keys_revise]
  by_cases hm : name ∈ entries.map Prod.fst
  · rw [if_pos hm]
    exact h
  · rw [if_neg hm]
    refine List.nodup_append.mpr ⟨h, List.pairwise_singleton _ name, ?_⟩
    intro a ha b hb e
    rw [List.mem_singleton.mp hb] at e
    exact hm (e ▸ ha)

/-! ## No name twice -/

variable {name}

theorem get?_eq_some_iff (h : (entries.map Prod.fst).Nodup) {value : β} :
    get? entries name = some value ↔ (name, value) ∈ entries := by
  induction entries with
  | nil => simp [get?]
  | cons entry rest ih =>
    obtain ⟨key, old⟩ := entry
    obtain ⟨absent, nodup⟩ := List.nodup_cons.mp h
    rw [get?_cons, List.mem_cons, Prod.mk.injEq]
    by_cases he : key = name
    · subst he
      have gone : (key, value) ∉ rest := fun there =>
        absent (List.mem_map.mpr ⟨(key, value), there, rfl⟩)
      simp [gone, eq_comm]
    · rw [if_neg he, ih nodup]
      exact (or_iff_right fun same => he same.1.symm).symm

/-- Two walks of one list: the same under every name. -/
theorem perm_of_get?_eq (h : (entries.map Prod.fst).Nodup) (h' : (other.map Prod.fst).Nodup)
    (same : ∀ name, get? entries name = get? other name) : entries.Perm other := by
  have once := List.Nodup.of_map Prod.fst h
  have once' := List.Nodup.of_map Prod.fst h'
  refine (List.perm_ext_iff_of_nodup once once').mpr ?_
  rintro ⟨name, value⟩
  rw [← get?_eq_some_iff h, ← get?_eq_some_iff h', same]

theorem nodup_keys_of_perm (h : (entries.map Prod.fst).Nodup) (perm : other.Perm entries) :
    (other.map Prod.fst).Nodup :=
  (perm.map Prod.fst).nodup_iff.mpr h

theorem get?_of_perm (h : (entries.map Prod.fst).Nodup) (perm : other.Perm entries)
    (name : String) : get? other name = get? entries name := by
  refine Option.ext fun value => ?_
  rw [get?_eq_some_iff (nodup_keys_of_perm h perm), get?_eq_some_iff h]
  exact perm.mem_iff

end WebFetch.Keyed
