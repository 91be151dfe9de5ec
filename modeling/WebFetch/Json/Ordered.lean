import Mathlib.Order.Basic
import WebFetch.Json.Value

/-!
The order of the members of an object. Making an object puts its members in the order of their keys
and leaves alone what is in this order already.
-/

set_option autoImplicit false

namespace WebFetch.Json

/-- Members in the order of their keys, as an object keeps them. -/
abbrev Ordered (members : List (String × Value)) : Prop :=
  members.Pairwise fun m m' => m.1 < m'.1

theorem Value.mem_insert {key : String} {value : Value} {m : String × Value} :
    ∀ {members : List (String × Value)}, m ∈ Value.insert key value members →
      m = (key, value) ∨ m ∈ members
  | [], there => .inl (List.mem_singleton.mp there)
  | (k, v) :: rest, there => by
    rw [Value.insert] at there
    split_ifs at there with before same
    · exact List.mem_cons.mp there
    · exact (List.mem_cons.mp there).imp_right (List.mem_cons_of_mem _)
    · rcases List.mem_cons.mp there with rfl | there
      · exact .inr List.mem_cons_self
      · exact (mem_insert there).imp_right (List.mem_cons_of_mem _)

theorem Value.ordered_insert (key : String) (value : Value) :
    ∀ {members : List (String × Value)}, Ordered members → Ordered (Value.insert key value members)
  | [], _ => List.pairwise_singleton _ _
  | (k, v) :: rest, ordered => by
    obtain ⟨first, others⟩ := List.pairwise_cons.mp ordered
    rw [Value.insert]
    split_ifs with before same
    · refine List.pairwise_cons.mpr ⟨fun m there => ?_, ordered⟩
      rcases List.mem_cons.mp there with rfl | there
      · exact before
      · exact String.lt_trans before (first m there)
    · exact List.pairwise_cons.mpr ⟨fun m there => same ▸ first m there, others⟩
    · refine List.pairwise_cons.mpr ⟨fun m there => ?_, ordered_insert key value others⟩
      have behind : k < key := Decidable.byContradiction fun le =>
        same (String.le_antisymm (String.not_lt.mp le) (String.not_lt.mp before))
      rcases mem_insert there with rfl | there
      · exact behind
      · exact first m there

/-- An object that is made from members has its keys in order, whatever their order was. -/
theorem Value.exists_ordered (members : List (String × Value)) :
    ∃ kept, Value.ofMembers members = .object kept ∧ Ordered kept := by
  have fold : ∀ done : List (String × Value), Ordered done →
      Ordered (members.foldl (fun done m => Value.insert m.1 m.2 done) done) := by
    induction members with
    | nil => exact fun done ordered => ordered
    | cons m members ih => exact fun done ordered => ih _ (ordered_insert m.1 m.2 ordered)
  exact ⟨_, rfl, fold [] .nil⟩

/-- A key behind all others is put at the end. -/
theorem Value.insert_of_lt (key : String) (value : Value) :
    ∀ {members : List (String × Value)}, (∀ m ∈ members, m.1 < key) →
      Value.insert key value members = members ++ [(key, value)]
  | [], _ => rfl
  | m :: members, below => by
    have lt := below m List.mem_cons_self
    rw [Value.insert, if_neg fun gt => String.lt_irrefl _ (String.lt_trans gt lt),
      if_neg fun eq => String.lt_irrefl _ (eq ▸ lt),
      insert_of_lt key value fun m' h => below m' (List.mem_cons_of_mem m h)]
    rfl

theorem Value.ofMembers_of_ordered {members : List (String × Value)} (ordered : Ordered members) :
    Value.ofMembers members = .object members := by
  have fold : ∀ ms done : List (String × Value), Ordered (done ++ ms) →
      ms.foldl (fun done m => Value.insert m.1 m.2 done) done = done ++ ms := by
    intro ms
    induction ms with
    | nil => exact fun done _ => (List.append_nil done).symm
    | cons m ms ih =>
      intro done ordered
      have below : ∀ m' ∈ done, m'.1 < m.1 := fun m' h =>
        (List.pairwise_append.mp ordered).2.2 m' h m List.mem_cons_self
      have eq : done ++ m :: ms = done ++ [m] ++ ms := by simp
      rw [List.foldl_cons, Value.insert_of_lt m.1 m.2 below, eq]
      exact ih (done ++ [m]) (eq ▸ ordered)
  exact congrArg Value.object (fold members [] ordered)

end WebFetch.Json
