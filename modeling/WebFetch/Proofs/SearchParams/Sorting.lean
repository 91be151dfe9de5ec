import Mathlib.Data.List.DropRight
import WebFetch.Proofs.SearchParams.View

/-!
Sorting parameters. The names end up in the order of their UTF-16 code units, which is not the order
of their characters: a character outside the basic plane counts as two surrogates, and these lie
below U+E000. The main statement says that lists with the same values under every name are one and
the same list once they are sorted, whatever the order in which the names came before.
-/

set_option autoImplicit false

namespace WebFetch

namespace Units16

/-- Where the names part, the first has a character outside the basic plane and the second one of the
    upper end of this plane. -/
def PartsAbove (a b : String) : Prop :=
  ∃ front c d rest rest', a.toList = front ++ c :: rest ∧ b.toList = front ++ d :: rest' ∧
    0xFFFF < c.toNat ∧ 0xE000 ≤ d.toNat ∧ d.toNat ≤ 0xFFFF

theorem lex_append {xs ys : List Nat} (front : List Nat) (h : List.Lex (· < ·) xs ys) :
    List.Lex (· < ·) (front ++ xs) (front ++ ys) := by
  induction front with
  | nil => exact h
  | cons x front ih => exact .cons ih

theorem PartsAbove.lex {a b : String} (h : PartsAbove a b) :
    List.Lex (· < ·) (ofString a) (ofString b) := by
  obtain ⟨front, c, d, rest, rest', ha, hb, astral, high, basic⟩ := h
  have range := Utf8.scalar_range c
  have surrogates : ofChar c =
      [0xD800 + (c.toNat - 0x10000) / 0x400, 0xDC00 + (c.toNat - 0x10000) % 0x400] :=
    if_neg (by omega)
  have unit : ofChar d = [d.toNat] := if_pos (by omega)
  rw [ofString, ofString, ha, hb, List.flatMap_append, List.flatMap_append, List.flatMap_cons,
    List.flatMap_cons, surrogates, unit]
  exact lex_append _ (.rel (by omega))

end Units16

namespace Entries

theorem entriesOf_eq (entries : Entries) (name : String) :
    Edit.entriesOf entries name = (entries.valuesOf name).map fun value => (name, value) := by
  induction entries with
  | nil => rfl
  | cons entry rest ih =>
    obtain ⟨key, value⟩ := entry
    rw [entriesOf_cons, valuesOf_cons, ih]
    by_cases h : key = name
    · simp [h]
    · simp [h]

theorem valuesOf_sort (entries : Entries) (name : String) :
    entries.sort.valuesOf name = entries.valuesOf name :=
  congrArg (List.map Prod.snd) (sort_stable entries name)

/-- The values of each name are all that a sorted list keeps. -/
theorem sort_eq_sort {xs ys : Entries} (same : ∀ name, xs.valuesOf name = ys.valuesOf name) :
    xs.sort = ys.sort := by
  refine eq_of_ordered (sort_ordered xs) (sort_ordered ys) fun name => ?_
  rw [entriesOf_eq, entriesOf_eq, valuesOf_sort, valuesOf_sort, same]

theorem sort_sort (entries : Entries) : entries.sort.sort = entries.sort :=
  sort_eq_sort (valuesOf_sort entries)

/-- In a sorted list a name stands in front of all those from which it parts above. -/
theorem lt_of_partsAbove {entries : Entries} (ordered : Edit.Ordered entries) {i j : Nat}
    {a b : String × String} (ha : entries[i]? = some a) (hb : entries[j]? = some b)
    (above : Units16.PartsAbove a.1 b.1) : i < j := by
  have smaller := above.lex
  obtain ⟨hi, rfl⟩ := List.getElem?_eq_some_iff.mp ha
  obtain ⟨hj, rfl⟩ := List.getElem?_eq_some_iff.mp hb
  rcases Nat.lt_trichotomy i j with lt | rfl | gt
  · exact lt
  · exact absurd smaller ((Units16.unitsLe_iff_not_lex _ _).mp (byName_of_eq rfl))
  · exact absurd smaller (List.pairwise_iff_getElem.mp ordered j i hj hi gt)

end Entries

namespace Url

theorem dropTrailing_dropTrailing (c : Char) (text : String) :
    dropTrailing c (dropTrailing c text) = dropTrailing c text := by
  have idempotent := List.rdropWhile_idempotent (· == c) text.toList
  rw [dropTrailing, dropTrailing, String.toList_ofList]
  exact congrArg String.ofList idempotent

theorem trimOpaque_trimOpaque (u : Url) : u.trimOpaque.trimOpaque = u.trimOpaque := by
  by_cases ends : (u.hasOpaquePath && u.query.isNone && u.fragment.isNone) = true
  · have trimmed : u.trimOpaque = { u with path := dropTrailing ' ' u.path } := if_pos ends
    rw [trimmed, trimOpaque]
    split
    · rw [dropTrailing_dropTrailing]
    · rfl
  · have kept : u.trimOpaque = u := if_neg ends
    rw [kept, kept]

/-- A list that stands in the query already can be written again. -/
theorem withPairs_withPairs (u : Url) (list : Entries) :
    (u.withPairs list).withPairs list = u.withPairs list := by
  cases list with
  | nil =>
    change Url.withQuery (u.withQuery none) none = u.withQuery none
    have none_left : { u.withQuery none with query := none } = u.withQuery none := by
      rw [← query_withQuery_none u]
    rw [withQuery, none_left]
    exact trimOpaque_trimOpaque _
  | cons pair rest => rfl

end Url

namespace SearchParams

theorem getAll_fst (p : SearchParams) (name : String) (s : Session) :
    (p.getAll name s).1 = (p.entries s).1.valuesOf name := rfl

theorem sort_run (p : SearchParams) (s : Session) :
    p.sort s = ((), s.setUrl p.url ((s.url p.url).withPairs (s.url p.url).pairs.sort)) := rfl

theorem url_sort (p : SearchParams) (s : Session) :
    (p.sort s).2.url p.url = (s.url p.url).withPairs (s.url p.url).pairs.sort := by
  by_cases known : s.HasUrl p.url
  · exact url_edit known rfl .sort
  · -- A cell that does not exist reads as a URL without parameters, and stays away.
    have blank : s.url p.url = Session.blankUrl := Session.url_of_not_hasUrl known
    have unknown : ¬ (p.sort s).2.HasUrl p.url := mt (Session.hasUrl_setUrl s _ _ _).mp known
    have no_pairs : Session.blankUrl.pairs.sort = [] := List.mergeSort_nil
    rw [Session.url_of_not_hasUrl unknown, blank, no_pairs]
    rfl

theorem url_sort_of_ne {p : SearchParams} {u : UrlRef} (other : u ≠ p.url) (s : Session) :
    (p.sort s).2.url u = s.url u :=
  Session.url_setUrl_of_ne s other _

/-- Only the views of the same URL are sorted along. -/
theorem entries_sort (p q : SearchParams) (s : Session) :
    (q.entries (p.sort s).2).1 =
      if q.url = p.url then (q.entries s).1.sort else (q.entries s).1 := by
  rw [entries_run, entries_run]
  split
  · next same =>
    rw [same, url_sort]
    exact Url.pairs_withPairs _ _
  · next other => rw [url_sort_of_ne other]

theorem getAll_sort (p q : SearchParams) (name : String) (s : Session) :
    (q.getAll name (p.sort s).2).1 = (q.getAll name s).1 := by
  rw [getAll_fst, getAll_fst, entries_sort]
  split
  · exact Entries.valuesOf_sort _ name
  · rfl

theorem sort_again (p : SearchParams) (s : Session) : (p.sort (p.sort s).2).2 = (p.sort s).2 := by
  have written := url_sort p s
  have again : ((p.sort s).2.url p.url).withPairs ((p.sort s).2.url p.url).pairs.sort =
      (p.sort s).2.url p.url := by
    rw [written, Url.pairs_withPairs, Entries.sort_sort, Url.withPairs_withPairs]
  rw [sort_run p (p.sort s).2, again]
  exact Session.setUrl_url _ _

/-- Sorting orders the names by their code units, so that a name with a surrogate pair comes before
    one with a character from U+E000 to U+FFFF in the same place. It permutes the entries, leaves
    the values of every name as they are, and changes nothing when it is done again. Two lists with
    the same values under every name, be they views of one URL or of two, have the same entries and
    the same text once both are sorted. -/
theorem sort_canonical (p : SearchParams) (s : Session) :
    let s' := (p.sort s).2
    let before := (p.entries s).1
    let after := (p.entries s').1
    after.Perm before ∧
    (after.Pairwise fun a b => ¬ List.Lex (· < ·) (Units16.ofString b.1) (Units16.ofString a.1)) ∧
    (∀ (i j : Nat) (a b : String × String), after[i]? = some a → after[j]? = some b →
      Units16.PartsAbove a.1 b.1 → i < j) ∧
    (∀ name, (p.getAll name s').1 = (p.getAll name s).1) ∧
    (p.sort s').2 = s' ∧
    ∀ q : SearchParams, (∀ name, (p.getAll name s).1 = (q.getAll name s).1) →
      let t := (q.sort s').2
      (p.entries t).1 = (q.entries t).1 ∧ (p.render t).1 = (q.render t).1 := by
  intro s' before after
  have sorted : after = before.sort := by
    have shown := entries_sort p p s
    rw [if_pos rfl] at shown
    exact shown
  have ordered : Entries.Edit.Ordered after := by
    rw [sorted]
    exact Entries.sort_ordered before
  refine ⟨?_, ordered, ?_, ?_, ?_, ?_⟩
  · rw [sorted]
    exact Entries.sort_perm before
  · intro i j a b ha hb
    exact Entries.lt_of_partsAbove ordered ha hb
  · intro name
    exact getAll_sort p p name s
  · exact sort_again p s
  · intro q same t
    have mine : (p.entries t).1 = before.sort := by
      have shown := entries_sort q p s'
      rw [show (p.entries s').1 = before.sort from sorted, Entries.sort_sort, ite_self] at shown
      exact shown
    have theirs : (q.entries t).1 = (q.entries s').1.sort := by
      have shown := entries_sort q q s'
      rw [if_pos rfl] at shown
      exact shown
    have one : (p.entries t).1 = (q.entries t).1 := by
      rw [mine, theirs]
      refine Entries.sort_eq_sort fun name => (same name).trans ?_
      exact (getAll_sort p q name s).symm
    exact ⟨one, congrArg Form.render one⟩

/-- A name outside the basic plane, written between two values of U+E000 in one query and in front of
    both in another. -/
theorem sort_canonical_of_surrogates :
    let base : Url := ⟨"http", some (.ofHost (.name "h")), false, "/", none, none⟩
    let mixed : Entries := [("\ue000", "1"), ("😀", "2"), ("\ue000", "3")]
    let sorted : Entries := [("😀", "2"), ("\ue000", "1"), ("\ue000", "3")]
    let s : Session := ⟨#[base.withPairs mixed, base.withPairs sorted], #[], []⟩
    let p : SearchParams := ofUrl ⟨0⟩
    let q : SearchParams := ofUrl ⟨1⟩
    let t := (q.sort (p.sort s).2).2
    (p.entries s).1 = mixed ∧ (q.entries s).1 = sorted ∧
      (∀ name, (p.getAll name s).1 = (q.getAll name s).1) ∧
      (p.entries t).1 = (q.entries t).1 ∧ (p.entries (p.sort s).2).1 = sorted := by
  intro base mixed sorted s p q t
  have shown : (p.entries s).1 = mixed := Url.pairs_withPairs base mixed
  have shown' : (q.entries s).1 = sorted := Url.pairs_withPairs base sorted
  have same (name : String) : (p.getAll name s).1 = (q.getAll name s).1 := by
    rw [getAll_fst, getAll_fst, shown, shown']
    by_cases h : "😀" = name
    · subst h
      decide
    · simp [mixed, sorted, Entries.valuesOf_cons, h]
  obtain ⟨_, ordered, _, values, _, agree⟩ := sort_canonical p s
  have ordered' : Entries.Edit.Ordered sorted := Entries.ordered_iff.mpr (by decide)
  refine ⟨shown, shown', same, (agree q same).1, ?_⟩
  refine Entries.eq_of_ordered ordered ordered' fun name => ?_
  rw [Entries.entriesOf_eq, Entries.entriesOf_eq]
  have kept := (values name).trans (same name)
  rw [getAll_fst, getAll_fst, shown'] at kept
  exact congrArg (List.map fun value => (name, value)) kept

end SearchParams

end WebFetch
