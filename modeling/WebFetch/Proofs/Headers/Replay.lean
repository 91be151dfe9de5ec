import WebFetch.Proofs.Entries.Edit
import WebFetch.Proofs.Headers.Name
import WebFetch.Proofs.Headers.Record

/-!
Changes of a list of headers, one after the other. All names stand in one list, and still the values
of a name are what the changes of this name alone make of a list of values, in whatever case they
spell it. Stored names are in lower case throughout, and each change is the edit of the entries that
its stored name says, so that no entry that is kept ever moves.
-/

set_option autoImplicit false

namespace WebFetch.Headers
open Entries (Edit)

inductive Change where
  | append (name value : String)
  | set (name value : String)
  | delete (name : String)

namespace Change

def name : Change → String
  | append name _ | set name _ | delete name => name

def apply (h : Headers) : Change → Headers
  | append name value => h.append name value
  | set name value => h.set name value
  | delete name => h.delete name

/-- What the values of its own name become by a change. -/
def revise (values : List String) : Change → List String
  | append _ value => values ++ [value]
  | set _ value => [value]
  | delete _ => []

/-- The edit of the entries that a change is. -/
def edit : Change → Edit
  | append name value => .append (lower name) value
  | set name value => .set (lower name) value
  | delete name => .delete (lower name)

end Change

def changed (h : Headers) (changes : List Change) : Headers := changes.foldl Change.apply h

/-- The pairs of a list as changes: each comes behind all others. -/
def additions (pairs : List (String × String)) : List Change :=
  pairs.map fun pair => .append pair.1 pair.2

/-- What the changes of one name make of no values. -/
def replay (name : String) (changes : List Change) : List String :=
  (changes.filter fun c => SameName c.name name).foldl Change.revise []

/-- All stored names are in lower case. -/
def Lowered (h : Headers) : Prop := ∀ name ∈ h.keys, ∀ c ∈ name.toList, c.isUpper = false

/-! ## One change -/

namespace Change

variable (c : Change) (h : Headers)

theorem entries_apply : (c.apply h).entries = c.edit.apply h.entries := by
  cases c with
  | append name value | set name value | delete name => rfl

theorem valuesOf_apply (stored : String) : (c.apply h).entries.valuesOf stored =
    if stored = lower c.name then c.revise (h.entries.valuesOf stored)
    else h.entries.valuesOf stored := by
  cases c with
  | append own value => exact Entries.valuesOf_append h.entries (lower own) value stored
  | set own value => exact Entries.valuesOf_set h.entries (lower own) value stored
  | delete own => exact Entries.valuesOf_delete h.entries (lower own) stored

theorem getAll_apply (name : String) : (c.apply h).getAll name =
    if SameName c.name name then c.revise (h.getAll name) else h.getAll name := by
  have same : lower name = lower c.name ↔ SameName c.name name := by
    rw [← lower_eq_lower_iff, eq_comm]
  rw [getAll, valuesOf_apply, getAll]
  simp only [same]

end Change

theorem Lowered.apply {h : Headers} (lowered : h.Lowered) (c : Change) : (c.apply h).Lowered := by
  intro name there
  rw [mem_keys_iff, Change.valuesOf_apply] at there
  by_cases own : name = lower c.name
  · rw [own]
    exact fun _ => isUpper_of_mem_lower
  · rw [if_neg own] at there
    exact lowered name (mem_keys_iff.mpr there)

/-! ## Runs -/

theorem changed_concat (h : Headers) (changes : List Change) (c : Change) :
    h.changed (changes ++ [c]) = c.apply (h.changed changes) := by
  rw [changed, List.foldl_append]
  rfl

theorem replay_concat (name : String) (changes : List Change) (c : Change) :
    replay name (changes ++ [c]) =
      if SameName c.name name then c.revise (replay name changes) else replay name changes := by
  rw [replay, List.filter_append, List.foldl_append]
  by_cases same : SameName c.name name
  · simp [same, replay]
  · simp [same, replay]

theorem getAll_changed (changes : List Change) (name : String) :
    (empty.changed changes).getAll name = replay name changes := by
  induction changes using List.reverseRecOn with
  | nil => rfl
  | append_singleton changes c ih =>
    rw [changed_concat, Change.getAll_apply, replay_concat, ih]

theorem lowered_changed (changes : List Change) : (empty.changed changes).Lowered := by
  induction changes using List.reverseRecOn with
  | nil =>
    intro name there
    cases there
  | append_singleton changes c ih =>
    rw [changed_concat]
    exact ih.apply c

/-- A list that is made from pairs is one to which they were added. -/
theorem ofList_eq (pairs : List (String × String)) :
    ofList pairs = empty.changed (additions pairs) := by
  induction pairs using List.reverseRecOn with
  | nil => rfl
  | append_singleton pairs pair ih =>
    rw [additions, List.map_append, List.map_singleton, changed_concat, ← additions, ← ih, ofList,
      List.map_append]
    rfl

theorem ofList_changed (pairs : List (String × String)) (changes : List Change) :
    (ofList pairs).changed changes = empty.changed (additions pairs ++ changes) := by
  rw [ofList_eq, changed, changed, changed, List.foldl_append]

/-- Whatever list of pairs is begun with and whatever changes are made, the values of a name are
    those that the pairs and the changes of this name, in any case, make of no values, one after the
    other. A name is there when it has values, and then it shows them joined. All stored names are
    in lower case, and whatever change comes next is the edit of the entries by its stored name: a
    value is appended, the first entry of the name is overwritten in its place and the later ones
    go, or all of them go, and the others stay as they are and where they are. -/
theorem values_replayed_by_name (pairs : List (String × String)) (changes : List Change) :
    let h := (ofList pairs).changed changes
    (∀ name,
      let values := replay name (additions pairs ++ changes)
      h.getAll name = values ∧ (h.has name = true ↔ values ≠ []) ∧
        h.get? name = if values = [] then none else some (", ".intercalate values)) ∧
    (∀ name ∈ h.keys, ∀ c ∈ name.toList, c.isUpper = false) ∧
    ∀ c : Change, c.edit.Makes h.entries (c.apply h).entries := by
  intro h
  have begun : h = empty.changed (additions pairs ++ changes) := ofList_changed pairs changes
  refine ⟨fun name => ?_, ?_, fun c => ?_⟩
  · intro values
    have all : h.getAll name = values := by
      rw [begun]
      exact getAll_changed _ name
    refine ⟨all, ?_, ?_⟩
    · rw [← all]
      exact Entries.has_iff h.entries (lower name)
    · rw [get?_eq, all]
      rfl
  · rw [begun]
    exact lowered_changed _
  · exact Edit.makes_iff.mpr (c.entries_apply h)

end WebFetch.Headers
