import WebFetch.Text.Units16

/-!
Lists of names with values. The order counts and a name may come more than once. The main statements
say what every change does to the values of each name.
-/

set_option autoImplicit false

namespace WebFetch

abbrev Entries := List (String × String)

namespace Entries

/-- All values of a name, in order. -/
def valuesOf (entries : Entries) (name : String) : List String :=
  (entries.filter fun entry => entry.1 == name).map Prod.snd

def has (entries : Entries) (name : String) : Bool := entries.any fun entry => entry.1 == name

def append (entries : Entries) (name value : String) : Entries := entries ++ [(name, value)]

def delete (entries : Entries) (name : String) : Entries :=
  entries.filter fun entry => entry.1 != name

/-- Gives the first entry of the name the value and removes the others; a name that is missing is
    appended. -/
def set (entries : Entries) (name value : String) : Entries :=
  match entries with
  | [] => [(name, value)]
  | entry :: rest =>
    if entry.1 = name then (name, value) :: delete rest name else entry :: set rest name value

/-- Stable, by the UTF-16 code units of the names. -/
def sort (entries : Entries) : Entries := entries.mergeSort fun a b => Units16.le a.1 b.1

@[simp] theorem valuesOf_nil (name : String) : valuesOf [] name = [] := rfl

theorem valuesOf_cons (entry : String × String) (rest : Entries) (name : String) :
    valuesOf (entry :: rest) name =
      if entry.1 = name then entry.2 :: valuesOf rest name else valuesOf rest name := by
  by_cases h : entry.1 = name <;> simp [valuesOf, h]

theorem has_iff (entries : Entries) (name : String) :
    entries.has name ↔ entries.valuesOf name ≠ [] := by
  simp [has, valuesOf, List.filter_eq_nil_iff]

theorem valuesOf_append (entries : Entries) (name value other : String) :
    (entries.append name value).valuesOf other =
      if other = name then entries.valuesOf other ++ [value] else entries.valuesOf other := by
  by_cases h : name = other
  · simp [append, valuesOf, h]
  · simp [append, valuesOf, h, Ne.symm h]

theorem valuesOf_delete (entries : Entries) (name other : String) :
    (entries.delete name).valuesOf other = if other = name then [] else entries.valuesOf other := by
  split
  · next h =>
    rw [valuesOf, delete, List.filter_filter, List.filter_eq_nil_iff.mpr, List.map_nil]
    intro entry _
    simp [h]
  · next h =>
    rw [valuesOf, delete, List.filter_filter, valuesOf]
    congr 2
    funext entry
    by_cases he : entry.1 = other <;> simp [he, h]

theorem valuesOf_set (entries : Entries) (name value other : String) :
    (entries.set name value).valuesOf other =
      if other = name then [value] else entries.valuesOf other := by
  induction entries with
  | nil => by_cases h : name = other <;> simp [set, valuesOf_cons, h, eq_comm]
  | cons entry rest ih =>
    by_cases h : entry.1 = name
    · rw [set, if_pos h, valuesOf_cons, valuesOf_delete, valuesOf_cons, h]
      by_cases ho : other = name
      · simp [ho]
      · simp [ho, Ne.symm ho]
    · rw [set, if_neg h, valuesOf_cons, valuesOf_cons, ih]
      by_cases ho : other = name
      · simp [ho, h]
      · simp [ho]

end Entries

end WebFetch
