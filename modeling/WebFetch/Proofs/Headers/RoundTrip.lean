import WebFetch.Proofs.Headers.Replay

/-!
From lists of headers to records and back. A record has no order, so a list that is made of it may
be in any; and it has one value for each name, so that list has one entry where the first list had
several. Neither is seen by asking for a name, and flattening gives the record again. A record whose
names differ in more than their case comes back from a list with its names in lower case.
-/

set_option autoImplicit false

namespace WebFetch

namespace HeaderRecord

theorem Joins.mem_keys_iff {record : HeaderRecord} {h : Headers} (joins : record.Joins h)
    {name : String} : name ∈ record.map Prod.fst ↔ name ∈ h.keys := by
  have absent : record.get? name = none ↔ name ∉ record.map Prod.fst := Keyed.get?_eq_none_iff
  rw [← not_iff_not, ← absent, joins.get?_eq, Headers.joined?_eq_none_iff, Headers.mem_keys_iff,
    Classical.not_not]

theorem distinct_iff {record : HeaderRecord} :
    record.Distinct ↔ record.Pairwise fun a b => ¬ Headers.SameName a.1 b.1 := by
  rw [Distinct, List.Nodup, List.pairwise_map]
  simp only [Ne, Headers.lower_eq_lower_iff]

end HeaderRecord

namespace Headers

variable {h : Headers} {walk : HeaderRecord}

theorem Lowered.lower_eq (lowered : h.Lowered) {name : String} (there : name ∈ h.keys) :
    lower name = name :=
  lower_eq_self (lowered name there)

/-- The names of a flattened list are stored names, which making a list leaves as they are. -/
theorem Lowered.entries_ofRecord (lowered : h.Lowered) (perm : walk.Perm h.toRecord) :
    (ofRecord walk).entries = walk := by
  have kept : walk.map (fun entry => (lower entry.1, entry.2)) = walk.map id := by
    refine List.map_congr_left fun entry there => ?_
    have stored : entry.1 ∈ h.keys :=
      (joins_toRecord h).mem_keys_iff.mp (List.mem_map_of_mem (perm.mem_iff.mp there))
    rw [lowered.lower_eq stored]
    rfl
  exact kept.trans (List.map_id walk)

theorem nodup_walk (perm : walk.Perm h.toRecord) : (walk.map Prod.fst).Nodup :=
  Keyed.nodup_keys_of_perm (joins_toRecord h).nodup_keys perm

theorem Lowered.get?_ofRecord (lowered : h.Lowered) (perm : walk.Perm h.toRecord) (name : String) :
    (ofRecord walk).get? name = h.get? name := by
  have joins := joins_toRecord h
  calc (ofRecord walk).get? name
    _ = joined? (Entries.valuesOf walk (lower name)) := by
        rw [get?_eq, getAll, lowered.entries_ofRecord perm]
    _ = walk.get? (lower name) := HeaderRecord.joined?_valuesOf (nodup_walk perm) (lower name)
    _ = h.toRecord.get? (lower name) := Keyed.get?_of_perm joins.nodup_keys perm (lower name)
    _ = h.get? name := by rw [joins.get?_eq, get?_eq, getAll]

/-- The record of any list of headers has its stored names, each of them once and with what the list
    shows for it. In whatever order it is walked, the list that comes of it has one entry for each
    of these names, shows the same for every name in any spelling, and has the same record. And a
    record whose names differ in more than their case comes back in lower case, in whatever order it
    is walked. -/
theorem record_round_trip (pairs : List (String × String)) (changes : List Change) :
    let h := (ofList pairs).changed changes
    let record := h.toRecord
    ((record.map Prod.fst).Nodup ∧ (∀ name, name ∈ record.map Prod.fst ↔ name ∈ h.keys) ∧
      ∀ name ∈ h.keys, record.get? name = h.get? name) ∧
    (∀ walk : HeaderRecord, walk.Perm record →
      let back := ofRecord walk
      back.keys.Nodup ∧ (∀ name, name ∈ back.keys ↔ name ∈ h.keys) ∧
        (∀ name, back.get? name = h.get? name ∧ back.has name = h.has name) ∧
        back.toRecord.Perm record) ∧
    ∀ given walk : HeaderRecord, (given.Pairwise fun a b => ¬ SameName a.1 b.1) →
      walk.Perm given → (ofRecord walk).toRecord.Perm given.lowered := by
  intro h record
  have begun : h = empty.changed (additions pairs ++ changes) := ofList_changed pairs changes
  have lowered : h.Lowered := by
    rw [begun]
    exact lowered_changed _
  have joins : record.Joins h := joins_toRecord h
  refine ⟨⟨joins.nodup_keys, fun _ => joins.mem_keys_iff, fun name there => ?_⟩, ?_, ?_⟩
  · rw [joins.get?_eq, get?_eq, getAll, lowered.lower_eq there]
  · intro walk perm back
    have entries : back.entries = walk := lowered.entries_ofRecord perm
    have keys : back.keys = walk.map Prod.fst := congrArg (List.map Prod.fst) entries
    have get?_same (name : String) : back.get? name = h.get? name := lowered.get?_ofRecord perm name
    refine ⟨?_, fun name => ?_, fun name => ⟨get?_same name, ?_⟩, ?_⟩
    · rw [keys]
      exact nodup_walk perm
    · rw [keys, (perm.map Prod.fst).mem_iff]
      exact joins.mem_keys_iff
    · rw [has_eq, has_eq, get?_same]
    · have same : back.toRecord.Perm back.entries := by
        refine (joins_toRecord back).perm ?_
        rw [entries]
        exact nodup_walk perm
      rw [entries] at same
      exact same.trans perm
  · intro given walk distinct perm
    exact (joins_toRecord (ofRecord walk)).perm_lowered rfl
      (HeaderRecord.distinct_iff.mpr distinct) perm

/-- The name `vary` comes twice, in two spellings and with a comma among its values, and both
    records are walked backwards. -/
theorem record_round_trip_of_backward_walk :
    let h := (ofList [("Vary", "a"), ("x", "")]).changed [.append "vary" "b, c"]
    let walk : HeaderRecord := [("x", ""), ("vary", "a, b, c")]
    walk.Perm h.toRecord ∧ (ofRecord walk).get? "VARY" = some "a, b, c" ∧
      (ofRecord walk).toRecord.Perm h.toRecord ∧
      (ofRecord [("ETag", "e"), ("X-A", "1")]).toRecord.Perm [("x-a", "1"), ("etag", "e")] := by
  intro h walk
  have perm : walk.Perm h.toRecord := by decide
  obtain ⟨_, walked, given⟩ :=
    record_round_trip [("Vary", "a"), ("x", "")] [.append "vary" "b, c"]
  obtain ⟨_, _, shown, back⟩ := walked walk perm
  refine ⟨perm, ?_, back, ?_⟩
  · rw [(shown "VARY").1]
    decide
  · exact given [("X-A", "1"), ("ETag", "e")] [("ETag", "e"), ("X-A", "1")] (by decide) (.swap ..)

end Headers

end WebFetch
