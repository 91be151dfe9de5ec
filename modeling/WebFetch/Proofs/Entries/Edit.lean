import WebFetch.Entries

/-!
Edits of a list of names with values. What an edit makes of a list is said without the functions
that carry it out: a value comes behind all others, a name goes, the first entry of a name is
overwritten where it stands, or the list is put in the order of its names while the entries of one
name stay in theirs. The main statement says that each edit makes exactly one list, the one that
its function gives.
-/

set_option autoImplicit false

namespace WebFetch

namespace Units16

/-- The order on code units is the lexicographic one. -/
theorem unitsLe_iff_not_lex (xs ys : List Nat) :
    unitsLe xs ys = true ↔ ¬ List.Lex (· < ·) ys xs := by
  induction xs generalizing ys with
  | nil =>
    refine ⟨fun _ h => ?_, fun _ => rfl⟩
    cases h
  | cons x xs ih =>
    cases ys with
    | nil =>
      refine ⟨fun h => ?_, fun h => absurd .nil h⟩
      cases h
    | cons y ys =>
      rw [unitsLe_cons, ih, List.cons_lex_cons_iff]
      constructor
      · rintro (h | ⟨rfl, h⟩) (h' | ⟨_, h'⟩)
        · omega
        · omega
        · omega
        · exact h h'
      · intro h
        rw [not_or] at h
        rcases Nat.lt_or_ge x y with lt | ge
        · exact .inl lt
        · have eq : x = y := by omega
          exact .inr ⟨eq, fun h' => h.2 ⟨eq.symm, h'⟩⟩

end Units16

namespace Entries

inductive Edit where
  | append (name value : String)
  | delete (name : String)
  | set (name value : String)
  | sort

namespace Edit

def apply : Edit → Entries → Entries
  | .append name value, entries => entries.append name value
  | .delete name, entries => entries.delete name
  | .set name value, entries => entries.set name value
  | .sort, entries => entries.sort

/-- No entry has a name that is smaller, by its UTF-16 code units, than one before it. -/
def Ordered (entries : Entries) : Prop :=
  entries.Pairwise fun a b =>
    ¬ List.Lex (· < ·) (Units16.ofString b.1) (Units16.ofString a.1)

def entriesOf (entries : Entries) (name : String) : Entries :=
  entries.filter fun entry => entry.1 == name

inductive Makes : Edit → Entries → Entries → Prop where
  | append (name value : String) (before : Entries) :
      Makes (.append name value) before (before ++ [(name, value)])
  | delete (name : String) (before : Entries) :
      Makes (.delete name) before (before.filter fun entry => entry.1 != name)
  | overwrite {name : String} {front : Entries} (absent : ∀ entry ∈ front, entry.1 ≠ name)
      (old value : String) (back : Entries) :
      Makes (.set name value) (front ++ (name, old) :: back)
        (front ++ (name, value) :: back.filter fun entry => entry.1 != name)
  | add {name : String} {before : Entries} (absent : ∀ entry ∈ before, entry.1 ≠ name)
      (value : String) : Makes (.set name value) before (before ++ [(name, value)])
  | sort {before after : Entries} (perm : after.Perm before) (ordered : Ordered after)
      (stable : ∀ name, entriesOf after name = entriesOf before name) : Makes .sort before after

end Edit

/-! ## Setting a name -/

section Set

variable {name : String} {front : Entries}

theorem set_of_absent (absent : ∀ entry ∈ front, entry.1 ≠ name) (value : String) :
    front.set name value = front ++ [(name, value)] := by
  induction front with
  | nil => rfl
  | cons entry rest ih =>
    have here := absent entry List.mem_cons_self
    rw [set, if_neg here, ih fun e he => absent e (List.mem_cons_of_mem _ he), List.cons_append]

theorem set_of_first (absent : ∀ entry ∈ front, entry.1 ≠ name) (old value : String)
    (back : Entries) :
    set (front ++ (name, old) :: back) name value =
      front ++ (name, value) :: back.filter fun entry => entry.1 != name := by
  induction front with
  | nil =>
    rw [List.nil_append, set, if_pos rfl]
    rfl
  | cons entry rest ih =>
    have here := absent entry List.mem_cons_self
    rw [List.cons_append, set, if_neg here, ih fun e he => absent e (List.mem_cons_of_mem _ he),
      List.cons_append]

/-- A name is missing, or the list divides at its first entry. -/
theorem absent_or_first (entries : Entries) (name : String) :
    (∀ entry ∈ entries, entry.1 ≠ name) ∨
      ∃ front old back, entries = front ++ (name, old) :: back ∧
        ∀ entry ∈ front, entry.1 ≠ name := by
  cases found : entries.find? fun entry => entry.1 == name with
  | none =>
    refine .inl fun entry h => ?_
    simpa using List.find?_eq_none.mp found entry h
  | some entry =>
    obtain ⟨named, front, back, split, absent⟩ := List.find?_eq_some_iff_append.mp found
    obtain ⟨key, old⟩ := entry
    have key_eq : key = name := by simpa using named
    rw [key_eq] at split
    refine .inr ⟨front, old, back, split, fun e he => ?_⟩
    simpa using absent e he

end Set

/-! ## Sorting -/

section Sorting

theorem ordered_iff {entries : Entries} :
    Edit.Ordered entries ↔ entries.Pairwise fun a b => Units16.le a.1 b.1 = true := by
  unfold Edit.Ordered Units16.le
  simp only [Units16.unitsLe_iff_not_lex]

def byName (a b : String × String) : Bool := Units16.le a.1 b.1

theorem byName_trans (a b c : String × String) (h : byName a b = true) (h' : byName b c = true) :
    byName a c = true :=
  Units16.le_trans h h'

theorem byName_total (a b : String × String) : (byName a b || byName b a) = true := by
  rw [Bool.or_eq_true]
  exact Units16.le_total a.1 b.1

theorem byName_of_eq {a b : String × String} (h : a.1 = b.1) : byName a b = true := by
  have reflexive := byName_total a a
  rw [Bool.or_self] at reflexive
  unfold byName at reflexive ⊢
  rw [← h]
  exact reflexive

theorem sort_eq (entries : Entries) : entries.sort = entries.mergeSort byName := rfl

theorem sort_perm (entries : Entries) : entries.sort.Perm entries := by
  rw [sort_eq]
  exact List.mergeSort_perm entries byName

theorem sort_ordered (entries : Entries) : Edit.Ordered entries.sort := by
  rw [ordered_iff, sort_eq]
  exact List.pairwise_mergeSort byName_trans byName_total entries

/-- Entries of one name are in order already, so that sorting keeps them as they are. -/
theorem sort_stable (entries : Entries) (name : String) :
    Edit.entriesOf entries.sort name = Edit.entriesOf entries name := by
  let own := Edit.entriesOf entries name
  have named (entry : String × String) (h : entry ∈ own) : (entry.1 == name) = true :=
    (List.mem_filter.mp h).2
  have ordered : own.Pairwise fun a b => byName a b = true := by
    refine List.pairwise_of_forall_mem_list fun a ha b hb => byName_of_eq ?_
    rw [beq_iff_eq.mp (named a ha), beq_iff_eq.mp (named b hb)]
  have kept : own.Sublist entries.sort := by
    rw [sort_eq]
    exact List.sublist_mergeSort byName_trans byName_total ordered List.filter_sublist
  have within : own.Sublist (Edit.entriesOf entries.sort name) := by
    have filtered := kept.filter fun entry => entry.1 == name
    rw [List.filter_eq_self.mpr named] at filtered
    exact filtered
  have length_eq : own.length = (Edit.entriesOf entries.sort name).length :=
    ((sort_perm entries).filter _).length_eq.symm
  exact (within.eq_of_length length_eq).symm

section Unique

variable {xs ys : Entries}

theorem mem_of_entriesOf (same : ∀ name, Edit.entriesOf xs name = Edit.entriesOf ys name)
    {entry : String × String} (h : entry ∈ xs) : entry ∈ ys := by
  have own : entry ∈ Edit.entriesOf xs entry.1 := List.mem_filter.mpr ⟨h, beq_self_eq_true _⟩
  rw [same] at own
  exact (List.mem_filter.mp own).1

theorem entriesOf_cons (entry : String × String) (rest : Entries) (name : String) :
    Edit.entriesOf (entry :: rest) name =
      if entry.1 = name then entry :: Edit.entriesOf rest name else Edit.entriesOf rest name := by
  by_cases h : entry.1 = name
  · simp [Edit.entriesOf, h]
  · simp [Edit.entriesOf, h]

theorem le_of_mem_of_ordered {first entry : String × String} {rest : Entries}
    (ordered : Edit.Ordered (first :: rest)) (h : entry ∈ first :: rest) :
    Units16.le first.1 entry.1 = true := by
  rcases List.mem_cons.mp h with rfl | later
  · exact byName_of_eq rfl
  · exact (List.pairwise_cons.mp (ordered_iff.mp ordered)).1 entry later

/-- A list in order is determined by the entries of each name. -/
theorem eq_of_ordered (hx : Edit.Ordered xs) (hy : Edit.Ordered ys)
    (same : ∀ name, Edit.entriesOf xs name = Edit.entriesOf ys name) : xs = ys := by
  induction xs generalizing ys with
  | nil =>
    cases ys with
    | nil => rfl
    | cons y ys => cases mem_of_entriesOf (fun name => (same name).symm) List.mem_cons_self
  | cons x xs ih =>
    cases ys with
    | nil => cases mem_of_entriesOf same List.mem_cons_self
    | cons y ys =>
      -- The first entries have the smallest name there is, which is one and the same.
      have below := le_of_mem_of_ordered hy (mem_of_entriesOf same List.mem_cons_self)
      have above := le_of_mem_of_ordered hx
        (mem_of_entriesOf (fun name => (same name).symm) List.mem_cons_self)
      have name_eq : y.1 = x.1 := Units16.le_antisymm below above
      have heads := same x.1
      rw [entriesOf_cons, entriesOf_cons, if_pos rfl, if_pos name_eq, List.cons.injEq] at heads
      have tails (name : String) : Edit.entriesOf xs name = Edit.entriesOf ys name := by
        by_cases h : x.1 = name
        · rw [← h]
          exact heads.2
        · have step := same name
          rw [entriesOf_cons, entriesOf_cons, if_neg h, if_neg (name_eq ▸ h)] at step
          exact step
      rw [heads.1, ih (List.Pairwise.of_cons hx) (List.Pairwise.of_cons hy) tails]

end Unique

end Sorting

/-- Every edit makes exactly the list that its function gives. -/
theorem Edit.makes_iff {e : Edit} {before after : Entries} :
    e.Makes before after ↔ after = e.apply before := by
  constructor
  · intro h
    cases h with
    | append name value before => rfl
    | delete name before => rfl
    | overwrite absent old value back => exact (set_of_first absent old value back).symm
    | add absent value => exact (set_of_absent absent value).symm
    | sort perm ordered stable =>
      refine eq_of_ordered ordered (sort_ordered before) fun name => ?_
      exact (stable name).trans (sort_stable before name).symm
  · rintro rfl
    cases e with
    | append name value => exact .append name value before
    | delete name => exact .delete name before
    | set name value =>
      change Makes (.set name value) before (before.set name value)
      rcases absent_or_first before name with absent | ⟨front, old, back, rfl, absent⟩
      · rw [set_of_absent absent]
        exact .add absent value
      · rw [set_of_first absent]
        exact .overwrite absent old value back
    | sort => exact .sort (sort_perm before) (sort_ordered before) (sort_stable before)

end Entries

end WebFetch
