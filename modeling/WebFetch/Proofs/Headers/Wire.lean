import Mathlib.Data.List.Count
import WebFetch.Headers.Wire
import WebFetch.Proofs.Headers.RoundTrip
import WebFetch.Text.Utf8.RoundTrip

/-!
Headers over the wire and back. A map is made only for entries that it has room for. They are
checked in their order, and the first that cannot be sent is the one that is reported. Those that
pass are grouped by name, with the values of a name in the order in which they came; the names
themselves may be walked in any order. What comes back has the same values under every name.
-/

set_option autoImplicit false

namespace WebFetch

namespace Entries

theorem valuesOf_list_append (entries more : Entries) (name : String) :
    valuesOf (entries ++ more) name = entries.valuesOf name ++ more.valuesOf name := by
  simp [valuesOf]

theorem count_valuesOf (entries : Entries) (name value : String) :
    (entries.valuesOf name).count value = entries.count (name, value) := by
  induction entries with
  | nil => rfl
  | cons entry rest ih =>
    obtain ⟨key, old⟩ := entry
    rw [valuesOf_cons, List.count_cons, ← ih]
    by_cases h : key = name
    · simp [h, List.count_cons]
    · simp [h]

/-- Lists with the same values under every name have the same entries. -/
theorem perm_of_valuesOf {entries other : Entries}
    (same : ∀ name, entries.valuesOf name = other.valuesOf name) : entries.Perm other := by
  refine List.perm_iff_count.mpr ?_
  rintro ⟨name, value⟩
  rw [← count_valuesOf, ← count_valuesOf, same]

end Entries

namespace HeaderMap

/-! ## Room for entries -/

/-- The greatest number of entries for which a map can be made. -/
def maxEntries : Nat := 24576

theorem slots_le_maxSlots_iff {count : Nat} : slots count ≤ maxSlots ↔ count ≤ maxEntries := by
  simp only [slots, maxSlots, maxEntries]
  omega

theorem ofHeaders_of_fits {h : Headers} (fits : h.size ≤ maxEntries) :
    ofHeaders h = .returned h.toHeaderMap :=
  if_pos (slots_le_maxSlots_iff.mpr fits)

theorem ofHeaders_of_overfull {h : Headers} (overfull : maxEntries < h.size) :
    ofHeaders h = .panicked overflow :=
  if_neg fun room => absurd (slots_le_maxSlots_iff.mp room) (Nat.not_le.mpr overfull)

theorem ofHeaders_eq_returned_iff {h : Headers} {result : Except Invalid HeaderMap} :
    ofHeaders h = .returned result ↔ h.size ≤ maxEntries ∧ h.toHeaderMap = result := by
  by_cases fits : h.size ≤ maxEntries
  · simp [ofHeaders_of_fits fits, fits]
  · simp [ofHeaders_of_overfull (Nat.lt_of_not_le fits), fits]

/-! ## The entries of a map -/

/-- The entries of a map as texts. -/
def shown (map : HeaderMap) : Entries :=
  map.entries.map fun entry => (entry.1, Utf8.decodeLossy entry.2)

/-- What a map has under a name once one more value is added. -/
def extended (value : Bytes) : Option (List Bytes) → List Bytes
  | none => [value]
  | some values => values ++ [value]

/-- The map holds every name of the entries once, with its values in their order. -/
structure Groups (map : HeaderMap) (entries : Entries) : Prop where
  nodup_names : (map.groups.map Prod.fst).Nodup
  get?_eq : ∀ name, Keyed.get? map.groups name =
    if entries.valuesOf name = [] then none else some ((entries.valuesOf name).map Utf8.encode)

theorem appendTo_eq_revise (name : String) (value : Bytes) (groups : List (String × List Bytes)) :
    appendTo name value groups = Keyed.revise (extended value) name groups := by
  induction groups with
  | nil => rfl
  | cons group rest ih =>
    rw [appendTo, ih]
    rfl

/-! ## Maps that group entries -/

variable {map : HeaderMap} {entries : Entries}

theorem groups_empty : empty.Groups [] := ⟨List.nodup_nil, fun _ => rfl⟩

theorem Groups.append (groups : map.Groups entries) {entry : String × String}
    (stored : Headers.lower entry.1 = entry.1) :
    (map.append entry.1 (Utf8.encode entry.2)).Groups (entries ++ [entry]) := by
  have added (asked : String) : (entries ++ [entry]).valuesOf asked =
      if asked = entry.1 then entries.valuesOf asked ++ [entry.2] else entries.valuesOf asked :=
    Entries.valuesOf_append entries entry.1 entry.2 asked
  constructor
  · rw [HeaderMap.append, appendTo_eq_revise, stored]
    exact Keyed.nodup_keys_revise _ entry.1 groups.nodup_names
  · intro asked
    rw [HeaderMap.append, appendTo_eq_revise, stored, Keyed.get?_revise, added, groups.get?_eq,
      groups.get?_eq]
    have more : entries.valuesOf entry.1 ++ [entry.2] ≠ [] := by simp
    by_cases h : asked = entry.1
    · rw [if_pos h, if_pos h, h, if_neg more, List.map_append]
      -- A name without values has no group yet, and its value opens one.
      by_cases none : entries.valuesOf entry.1 = []
      · simp [none, extended]
      · simp [none, extended]
    · rw [if_neg h, if_neg h]

/-- In whatever order the names are walked. -/
theorem Groups.of_perm (groups : map.Groups entries) {walked : HeaderMap}
    (perm : walked.groups.Perm map.groups) : walked.Groups entries where
  nodup_names := Keyed.nodup_keys_of_perm groups.nodup_names perm
  get?_eq name := (Keyed.get?_of_perm groups.nodup_names perm name).trans (groups.get?_eq name)

theorem valuesOf_group (key name : String) (values : List Bytes) :
    Entries.valuesOf (values.map fun value => (key, Utf8.decodeLossy value)) name =
      if key = name then values.map Utf8.decodeLossy else [] := by
  by_cases h : key = name
  · simp [Entries.valuesOf, List.filter_map, Function.comp_def, h]
  · simp [Entries.valuesOf, h]

/-- No other group has the name, so that nothing comes behind its values. -/
theorem valuesOf_shown (once : (map.groups.map Prod.fst).Nodup) (name : String) :
    map.shown.valuesOf name =
      ((Keyed.get? map.groups name).getD []).map Utf8.decodeLossy := by
  obtain ⟨all⟩ := map
  induction all with
  | nil => rfl
  | cons group rest ih =>
    obtain ⟨absent, nodup⟩ := List.nodup_cons.mp once
    have split : shown ⟨group :: rest⟩ =
        (group.2.map fun value => (group.1, Utf8.decodeLossy value)) ++ shown ⟨rest⟩ := by
      simp [shown, HeaderMap.entries, Function.comp_def]
    rw [split, Entries.valuesOf_list_append, valuesOf_group, Keyed.get?_cons, ih nodup]
    by_cases h : group.1 = name
    · have gone : Keyed.get? rest name = none := Keyed.get?_eq_none_iff.mpr (h ▸ absent)
      simp [h, gone]
    · simp [h]

theorem Groups.valuesOf_shown (groups : map.Groups entries) (name : String) :
    map.shown.valuesOf name = entries.valuesOf name := by
  rw [HeaderMap.valuesOf_shown groups.nodup_names, groups.get?_eq]
  by_cases none : entries.valuesOf name = []
  · simp [none]
  · simp [none, Function.comp_def, Utf8.decodeLossy_encode]

end HeaderMap

namespace Headers

/-! ## The check -/

/-- An entry of which both the name and the value can be sent. -/
def Sendable (entry : String × String) : Prop :=
  isHeaderName entry.1 = true ∧ isHeaderValue entry.2 = true

/-- What keeps an entry from being sent: its name, and its value only if the name is none. -/
inductive Faulty (entry : String × String) : Invalid → Prop
  | name (bad : isHeaderName entry.1 = false) : Faulty entry (.headerName entry.1)
  | value (good : isHeaderName entry.1 = true) (bad : isHeaderValue entry.2 = false) :
    Faulty entry (.headerValue entry.2)

variable {entry : String × String} {fault : Invalid}

theorem entryFault?_eq_none_iff : entryFault? entry = none ↔ Sendable entry := by
  cases name : isHeaderName entry.1 <;> cases value : isHeaderValue entry.2 <;>
    simp [entryFault?, Sendable, name, value]

theorem entryFault?_eq_some_iff : entryFault? entry = some fault ↔ Faulty entry fault := by
  constructor
  · intro found
    cases name : isHeaderName entry.1 with
    | false =>
      rw [entryFault?, name] at found
      cases found
      exact .name name
    | true =>
      cases value : isHeaderValue entry.2 with
      | false =>
        rw [entryFault?, name, value] at found
        cases found
        exact .value name value
      | true =>
        rw [entryFault?, name, value] at found
        cases found
  · rintro (bad | ⟨good, bad⟩)
    · rw [entryFault?, bad]
      rfl
    · rw [entryFault?, good, bad]
      rfl

/-- Entries grouped by name, whether or not they can be sent. -/
def gathered (entries : Entries) : HeaderMap :=
  entries.foldl (fun map entry => map.append entry.1 (Utf8.encode entry.2)) .empty

theorem toHeaderMap_eq (h : Headers) : h.toHeaderMap =
    match h.entries.findSome? entryFault? with
    | some fault => .error fault
    | none => .ok (gathered h.entries) := by
  rw [toHeaderMap, gathered]
  -- What has been gathered so far has no part in the check of the next entry.
  generalize HeaderMap.empty = map
  induction h.entries generalizing map with
  | nil => rfl
  | cons entry rest ih =>
    rw [List.foldlM_cons, List.findSome?_cons, List.foldl_cons]
    cases entryFault? entry with
    | some fault => rfl
    | none => exact ih _

theorem toHeaderMap_eq_ok_iff {h : Headers} {map : HeaderMap} :
    h.toHeaderMap = .ok map ↔ (∀ entry ∈ h.entries, Sendable entry) ∧ map = gathered h.entries := by
  simp only [← entryFault?_eq_none_iff, ← List.findSome?_eq_none_iff]
  rw [toHeaderMap_eq]
  cases h.entries.findSome? entryFault? with
  | some fault => simp
  | none => simp [eq_comm]

theorem exists_toHeaderMap_iff {h : Headers} :
    (∃ map, h.toHeaderMap = .ok map) ↔ ∀ entry ∈ h.entries, Sendable entry := by
  simp only [toHeaderMap_eq_ok_iff, exists_and_left, exists_eq, and_true]

theorem toHeaderMap_eq_error_iff {h : Headers} :
    h.toHeaderMap = .error fault ↔ ∃ front entry back, h.entries = front ++ entry :: back ∧
      (∀ sent ∈ front, Sendable sent) ∧ Faulty entry fault := by
  have found : h.toHeaderMap = .error fault ↔ h.entries.findSome? entryFault? = some fault := by
    rw [toHeaderMap_eq]
    cases h.entries.findSome? entryFault? with
    | some other => simp
    | none => simp
  rw [found, List.findSome?_eq_some_iff]
  simp only [entryFault?_eq_none_iff, entryFault?_eq_some_iff, and_comm]

/-! ## Joined values -/

theorem groups_gathered {entries : Entries}
    (lowered : ∀ entry ∈ entries, lower entry.1 = entry.1) : (gathered entries).Groups entries := by
  induction entries using List.reverseRecOn with
  | nil => exact HeaderMap.groups_empty
  | append_singleton entries entry ih =>
    rw [gathered, List.foldl_append]
    refine (ih fun other there => lowered other ?_).append (lowered entry ?_)
    · exact List.mem_append_left _ there
    · exact List.mem_append_right _ (List.mem_singleton.mpr rfl)

/-- The names of a map are stored names, which making a list leaves as they are. -/
theorem Lowered.entries_ofHeaderMap {h : Headers} (lowered : h.Lowered) {map : HeaderMap}
    (groups : map.Groups h.entries) : (ofHeaderMap map).entries = map.shown := by
  have kept : map.shown.map (fun entry => (lower entry.1, entry.2)) = map.shown.map id := by
    refine List.map_congr_left fun entry there => ?_
    have stored : entry.1 ∈ h.keys := by
      rw [mem_keys_iff, ← groups.valuesOf_shown, ← mem_keys_iff (h := ⟨map.shown⟩)]
      exact List.mem_map_of_mem there
    rw [lowered.lower_eq stored]
    rfl
  exact kept.trans (List.map_id map.shown)

/-- Any list of headers that pairs and changes make, if there is room for it in a map, is turned into
    one if, and only if, all of its entries can be sent; else the first that cannot is reported, its
    name before its value. And the map, in whatever order its names are walked, comes back with the
    same values in the same order under every name, so with the same entries and the same record. -/
theorem wire_round_trip (pairs : List (String × String)) (changes : List Change) :
    let h := (ofList pairs).changed changes
    (∀ result, HeaderMap.ofHeaders h = .returned result ↔
      h.size ≤ HeaderMap.maxEntries ∧ h.toHeaderMap = result) ∧
    ((∃ map, h.toHeaderMap = .ok map) ↔ ∀ entry ∈ h.entries, Sendable entry) ∧
    (∀ fault, h.toHeaderMap = .error fault ↔ ∃ front entry back,
      h.entries = front ++ entry :: back ∧ (∀ sent ∈ front, Sendable sent) ∧ Faulty entry fault) ∧
    ∀ map walked : HeaderMap, h.toHeaderMap = .ok map → walked.groups.Perm map.groups →
      let back := ofHeaderMap walked
      (∀ name, back.getAll name = h.getAll name) ∧ back.entries.Perm h.entries ∧
        back.toRecord.Perm h.toRecord := by
  intro h
  have lowered : h.Lowered := by
    rw [show h = empty.changed (additions pairs ++ changes) from ofList_changed pairs changes]
    exact lowered_changed _
  refine ⟨fun _ => HeaderMap.ofHeaders_eq_returned_iff, exists_toHeaderMap_iff,
    fun fault => toHeaderMap_eq_error_iff, ?_⟩
  intro map walked made perm back
  have gathering : map = gathered h.entries := (toHeaderMap_eq_ok_iff.mp made).2
  have grouped : map.Groups h.entries := by
    rw [gathering]
    exact groups_gathered fun entry there => lowered.lower_eq (List.mem_map_of_mem there)
  have groups : walked.Groups h.entries := grouped.of_perm perm
  have entries : back.entries = walked.shown := lowered.entries_ofHeaderMap groups
  have values (name : String) : back.entries.valuesOf name = h.entries.valuesOf name := by
    rw [entries]
    exact groups.valuesOf_shown name
  refine ⟨fun name => values (lower name), Entries.perm_of_valuesOf values, ?_⟩
  have joins := joins_toRecord h
  have joins' := joins_toRecord back
  refine Keyed.perm_of_get?_eq joins'.nodup_keys joins.nodup_keys fun name => ?_
  calc back.toRecord.get? name
    _ = joined? (back.entries.valuesOf name) := joins'.get?_eq name
    _ = joined? (h.entries.valuesOf name) := by rw [values]
    _ = h.toRecord.get? name := (joins.get?_eq name).symm

/-- A name with two values, one of them not ASCII, in a map whose names are walked backwards; and an
    entry without a proper name behind one that can be sent. -/
theorem wire_round_trip_of_backward_names :
    let h := (ofList [("Vary", "é"), ("x", "1")]).changed [.append "VARY" "b"]
    let walked : HeaderMap := ⟨[("x", [[49]]), ("vary", [[195, 169], [98]])]⟩
    (ofHeaderMap walked).getAll "vAry" = ["é", "b"] ∧
      (ofHeaderMap walked).toRecord.Perm h.toRecord ∧
      (ofList [("x", "1"), ("bad name", "\n")]).toHeaderMap = .error (.headerName "bad name") := by
  intro h walked
  obtain ⟨_, _, _, returned⟩ := wire_round_trip [("Vary", "é"), ("x", "1")] [.append "VARY" "b"]
  have made : h.toHeaderMap = .ok ⟨[("vary", [[195, 169], [98]]), ("x", [[49]])]⟩ := by
    rfl
  obtain ⟨values, _, record⟩ := returned _ walked made (.swap ..)
  obtain ⟨_, _, faulty, _⟩ := wire_round_trip [("x", "1"), ("bad name", "\n")] []
  refine ⟨?_, record, (faulty _).mpr ⟨[("x", "1")], ("bad name", "\n"), [], by decide, ?_, ?_⟩⟩
  · rw [values]
    decide
  · simp only [List.forall_mem_singleton]
    exact ⟨by decide, by decide⟩
  · exact .name (by decide)

end Headers

end WebFetch
