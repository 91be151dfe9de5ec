import WebFetch.Json.Ordered
import WebFetch.Json.Scalars

/-!
JSON text holds what was written into it. The main statement says that every value without doubles
that does not nest deeper than the parser goes is read back from its text. The loops of arrays and
objects take whatever items the reader of their items takes, and so values are read level by level.
The depth to which this holds is as far as the parser goes.
-/

set_option autoImplicit false

namespace WebFetch.Json

/-- A value without doubles as it is kept: whole numbers have 64 bits, and the keys of an object are
    in order. Arrays and objects nest at most so many levels deep. -/
inductive Value.Plain : (levels : Nat) → Value → Prop where
  | null {levels : Nat} : Plain levels .null
  | bool {levels : Nat} (b : Bool) : Plain levels (.bool b)
  | integer {levels : Nat} {n : Int} (lower : -0x8000000000000000 ≤ n)
      (upper : n ≤ 0xFFFFFFFFFFFFFFFF) : Plain levels (.number (.integer n))
  | string {levels : Nat} (s : String) : Plain levels (.string s)
  | array {levels : Nat} {items : List Value} (plain : ∀ v ∈ items, Plain levels v) :
      Plain (levels + 1) (.array items)
  | object {levels : Nat} {members : List (String × Value)} (ordered : Ordered members)
      (plain : ∀ m ∈ members, Plain levels m.2) : Plain (levels + 1) (.object members)

/-! ## Arrays -/

/-- A reader takes a value: it reads the text of the value in front of anything that can follow one.
    The text does not look like a blank or the end of an array. -/
structure Takes (item : Reader Value) (v : Value) : Prop where
  opens : ∃ c more, v.chars = c :: more ∧ isBlank c = false ∧ c ≠ ']'
  reads : ∀ rest, Ends rest → item (v.chars ++ rest) = .ok (v, rest)

theorem ends_flatMap {α : Type} (f : α → List Char) (xs : List α) {close : Char}
    (closes : close = ']' ∨ close = '\x7d') (rest : List Char) :
    Ends (xs.flatMap (fun x => ',' :: f x) ++ close :: rest) := by
  cases xs with
  | nil => exact .inr closes
  | cons x xs => exact .inl rfl

theorem itemChars_cons (v : Value) (vs : List Value) :
    itemChars (v :: vs) = v.chars ++ vs.flatMap fun w => ',' :: w.chars := by
  induction vs generalizing v with
  | nil => rw [itemChars, List.flatMap_nil, List.append_nil]
  | cons w vs ih =>
    rw [itemChars, ih, List.flatMap_cons, List.cons_append]
    exact List.cons_ne_nil w vs

section Items

variable {item : Reader Value}

theorem length_le_itemChars {vs : List Value} (takes : ∀ v ∈ vs, Takes item v) :
    vs.length ≤ (itemChars vs).length := by
  cases vs with
  | nil => exact Nat.zero_le _
  | cons v vs =>
    obtain ⟨c, more, eq, -⟩ := (takes v List.mem_cons_self).opens
    have tail : vs.length ≤ (vs.flatMap fun w => ',' :: w.chars).length :=
      length_le_length_flatMap nofun
    rw [itemChars_cons, eq, List.length_append, List.length_cons, List.length_cons]
    omega

theorem readItems_more {fuel : Nat} {v : Value} {vs : List Value} {cs rest rest' : List Char}
    (head : item cs = .ok (v, rest)) (tail : readItems item fuel false rest = .ok (vs, rest')) :
    readItems.more item fuel cs = .ok (v :: vs, rest') := by
  simp only [readItems.more, head, tail, bind, Except.bind, pure, Except.pure]

/-- Behind an item, the loop reads the items that are left. -/
theorem readItems_behind (rest : List Char) :
    ∀ {vs : List Value} {fuel : Nat}, vs.length < fuel → (∀ v ∈ vs, Takes item v) →
      readItems item fuel false (vs.flatMap (fun v => ',' :: v.chars) ++ ']' :: rest) =
        .ok (vs, rest)
  | _, 0, bound, _ => absurd bound (Nat.not_lt_zero _)
  | [], fuel + 1, _, _ => by
    rw [List.flatMap_nil, List.nil_append, readItems, skipBlanks_cons (by decide)]
    exact if_pos rfl
  | v :: vs, fuel + 1, bound, takes => by
    obtain ⟨⟨⟨c, more, eq, blank, inner⟩, reads⟩, takes⟩ := List.forall_mem_cons.mp takes
    have tail := readItems_behind rest (Nat.lt_of_succ_lt_succ bound) takes
    have head := reads _ (ends_flatMap Value.chars vs (.inl rfl) rest)
    rw [eq, List.cons_append] at head
    rw [List.flatMap_cons, List.cons_append, List.cons_append, eq, List.append_assoc,
      List.cons_append, readItems, skipBlanks_cons (by decide)]
    dsimp only
    rw [if_neg (by decide), if_neg Bool.false_ne_true, if_pos rfl, skipBlanks_cons blank]
    dsimp only
    rw [if_neg inner]
    exact readItems_more head tail

theorem readItems_chars (rest : List Char) {vs : List Value} {fuel : Nat} (bound : vs.length < fuel)
    (takes : ∀ v ∈ vs, Takes item v) :
    readItems item fuel true (itemChars vs ++ ']' :: rest) = .ok (vs, rest) := by
  match vs, fuel, bound with
  | [], fuel + 1, _ =>
    rw [itemChars, List.nil_append, readItems, skipBlanks_cons (by decide)]
    exact if_pos rfl
  | v :: vs, fuel + 1, bound =>
    obtain ⟨⟨⟨c, more, eq, blank, inner⟩, reads⟩, takes⟩ := List.forall_mem_cons.mp takes
    have tail := readItems_behind rest (Nat.lt_of_succ_lt_succ bound) takes
    have head := reads _ (ends_flatMap Value.chars vs (.inl rfl) rest)
    rw [eq, List.cons_append] at head
    rw [itemChars_cons, eq, List.append_assoc, List.cons_append, readItems, skipBlanks_cons blank]
    dsimp only
    rw [if_neg inner, if_pos rfl]
    exact readItems_more head tail

end Items

/-! ## Objects -/

/-- The text of a member. -/
def memberText (m : String × Value) : List Char := quote m.1 ++ ':' :: m.2.chars

theorem memberText_append (m : String × Value) (rest : List Char) :
    memberText m ++ rest =
      '"' :: (m.1.toList.flatMap escapeChar ++ '"' :: ':' :: (m.2.chars ++ rest)) := by
  simp only [memberText, quote, List.append_assoc, List.cons_append, List.nil_append]

theorem memberChars_cons (m : String × Value) (ms : List (String × Value)) :
    memberChars (m :: ms) = memberText m ++ ms.flatMap fun m => ',' :: memberText m := by
  induction ms generalizing m with
  | nil =>
    rw [memberChars, List.flatMap_nil, List.append_nil]
    rfl
  | cons m' ms ih =>
    rw [memberChars, ih, List.flatMap_cons]
    · simp only [memberText, List.append_assoc, List.cons_append]
    · exact List.cons_ne_nil m' ms

theorem length_le_memberChars (ms : List (String × Value)) :
    ms.length ≤ (memberChars ms).length := by
  cases ms with
  | nil => exact Nat.zero_le _
  | cons m ms =>
    have tail : ms.length ≤ (ms.flatMap fun m => ',' :: memberText m).length :=
      length_le_length_flatMap nofun
    rw [memberChars_cons, memberText, quote, List.length_append, List.length_append,
      List.length_cons, List.length_cons]
    omega

section Members

variable {item : Reader Value}

theorem readMembers_more {fuel : Nat} {m : String × Value} {ms : List (String × Value)}
    {rest rest' : List Char} (head : item (m.2.chars ++ rest) = .ok (m.2, rest))
    (tail : readMembers item fuel false rest = .ok (ms, rest')) :
    readMembers.more item fuel
        (m.1.toList.flatMap escapeChar ++ '"' :: ':' :: (m.2.chars ++ rest)) =
      .ok (m :: ms, rest') := by
  have colon : readColon (':' :: (m.2.chars ++ rest)) = .ok ((), m.2.chars ++ rest) := by
    rw [readColon, skipBlanks_cons (by decide)]
    exact if_pos rfl
  simp only [readMembers.more, readString_quoted, colon, head, tail, bind, Except.bind, pure,
    Except.pure]

/-- Behind a member, the loop reads the members that are left. -/
theorem readMembers_behind (rest : List Char) :
    ∀ {ms : List (String × Value)} {fuel : Nat}, ms.length < fuel →
      (∀ m ∈ ms, Takes item m.2) →
      readMembers item fuel false (ms.flatMap (fun m => ',' :: memberText m) ++ '\x7d' :: rest) =
        .ok (ms, rest)
  | _, 0, bound, _ => absurd bound (Nat.not_lt_zero _)
  | [], fuel + 1, _, _ => by
    rw [List.flatMap_nil, List.nil_append, readMembers, skipBlanks_cons (by decide)]
    exact if_pos rfl
  | m :: ms, fuel + 1, bound, takes => by
    obtain ⟨⟨-, reads⟩, takes⟩ := List.forall_mem_cons.mp takes
    have tail := readMembers_behind rest (Nat.lt_of_succ_lt_succ bound) takes
    have head := reads _ (ends_flatMap memberText ms (.inr rfl) rest)
    rw [List.flatMap_cons, List.cons_append, List.cons_append, List.append_assoc,
      memberText_append, readMembers, skipBlanks_cons (by decide)]
    dsimp only
    rw [if_neg (by decide), if_neg Bool.false_ne_true, if_pos rfl, skipBlanks_cons (by decide)]
    exact readMembers_more head tail

theorem readMembers_chars (rest : List Char) {ms : List (String × Value)} {fuel : Nat}
    (bound : ms.length < fuel) (takes : ∀ m ∈ ms, Takes item m.2) :
    readMembers item fuel true (memberChars ms ++ '\x7d' :: rest) = .ok (ms, rest) := by
  match ms, fuel, bound with
  | [], fuel + 1, _ =>
    rw [memberChars, List.nil_append, readMembers, skipBlanks_cons (by decide)]
    exact if_pos rfl
  | m :: ms, fuel + 1, bound =>
    obtain ⟨⟨-, reads⟩, takes⟩ := List.forall_mem_cons.mp takes
    have tail := readMembers_behind rest (Nat.lt_of_succ_lt_succ bound) takes
    have head := reads _ (ends_flatMap memberText ms (.inr rfl) rest)
    rw [memberChars_cons, List.append_assoc, memberText_append, readMembers,
      skipBlanks_cons (by decide)]
    dsimp only
    rw [if_neg (by decide), if_pos rfl, if_pos rfl]
    exact readMembers_more head tail

end Members

/-! ## Whole texts -/

theorem Value.Plain.opens {levels : Nat} {v : Value} (plain : v.Plain levels) :
    ∃ c more, v.chars = c :: more ∧ isBlank c = false ∧ c ≠ ']' := by
  cases plain with
  | null => exact ⟨_, _, rfl, by decide, by decide⟩
  | bool b => cases b <;> exact ⟨_, _, rfl, by decide, by decide⟩
  | @integer _ n lower upper =>
    cases n with
    | ofNat n =>
      obtain ⟨d, ds, eq, digit⟩ := toDigits_eq_cons n
      exact ⟨d, ds, (Number.render_nat n).trans eq, not_isBlank_of_isDigit digit,
        ne_of_isDigit digit (by decide)⟩
    | negSucc n => exact ⟨_, _, Number.render_neg n, by decide, by decide⟩
  | string s => exact ⟨_, _, rfl, by decide, by decide⟩
  | array plain => exact ⟨_, _, by rw [Value.chars], by decide, by decide⟩
  | object ordered plain => exact ⟨_, _, by rw [Value.chars], by decide, by decide⟩

/-- A value is read from its text by a reader with room for its levels. -/
theorem Value.Plain.takes {levels : Nat} {v : Value} (plain : v.Plain levels) :
    Takes (readValue levels) v := by
  refine ⟨plain.opens, ?_⟩
  induction plain with
  | null => exact fun rest _ => by rw [readValue]; rfl
  | bool b => intro rest _; cases b <;> rw [readValue] <;> rfl
  | integer lower upper => exact fun rest ends => readValue_integer _ lower upper ends
  | string s => exact fun rest _ => readValue_quote _ s rest
  | @array levels items plain ih =>
    intro rest _
    have takes : ∀ v ∈ items, Takes (readValue levels) v := fun v h => ⟨(plain v h).opens, ih v h⟩
    -- Every item has a character, so that the fuel lasts for all of them.
    have bound : items.length < (itemChars items ++ ']' :: rest).length + 1 := by
      have length := length_le_itemChars takes
      rw [List.length_append]
      omega
    rw [readValue, Value.chars, List.cons_append, List.append_assoc, skipBlanks_cons (by decide)]
    change (readItems _ _ true (itemChars items ++ ']' :: rest) >>= _) = _
    rw [List.singleton_append, readItems_chars rest bound takes]
    rfl
  | @object levels members ordered plain ih =>
    intro rest _
    have takes : ∀ m ∈ members, Takes (readValue levels) m.2 := fun m h =>
      ⟨(plain m h).opens, ih m h⟩
    have bound : members.length < (memberChars members ++ '\x7d' :: rest).length + 1 := by
      have length := length_le_memberChars members
      rw [List.length_append]
      omega
    rw [readValue, Value.chars, List.cons_append, List.append_assoc, skipBlanks_cons (by decide)]
    change (readMembers _ _ true (memberChars members ++ '\x7d' :: rest) >>= _) = _
    rw [List.singleton_append, readMembers_chars rest bound takes]
    exact congrArg (fun v => Except.ok (v, rest)) (Value.ofMembers_of_ordered ordered)

/-- What is written for a value reads back as it. -/
theorem parse_render {v : Value} (plain : v.Plain depthLimit) : parse v.render = .ok v := by
  have read := plain.takes.reads [] trivial
  rw [List.append_nil] at read
  simp only [parse, Value.render, String.toList_ofList, read, bind, Except.bind]
  rfl

/-! ## The limit -/

/-- Brackets that open more levels than there is room for are refused, whatever follows them. -/
theorem readValue_brackets (room : Nat) (rest : List Char) :
    ∃ fault, readValue room (List.replicate (room + 1) '[' ++ rest) = .error fault ∧
      fault.reason = .tooDeep := by
  induction room with
  | zero => exact ⟨_, by rw [readValue]; rfl, rfl⟩
  | succ room ih =>
    obtain ⟨fault, refused, deep⟩ := ih
    refine ⟨fault, ?_, deep⟩
    have items : ∀ fuel, readItems (readValue room) (fuel + 1) true
        (List.replicate (room + 1) '[' ++ rest) = .error fault := by
      intro fuel
      rw [List.replicate_succ, List.cons_append] at refused ⊢
      rw [readItems, skipBlanks_cons (by decide)]
      dsimp only
      rw [if_neg (by decide), if_pos rfl, readItems.more, refused]
      rfl
    rw [List.replicate_succ, List.cons_append, readValue, skipBlanks_cons (by decide)]
    change (readItems _ _ true (List.replicate (room + 1) '[' ++ rest) >>= _) = _
    rw [items]
    rfl

/-- One level more than the parser goes is one too many. -/
theorem parse_brackets (rest : List Char) :
    ∃ e, parse (String.ofList (List.replicate (depthLimit + 1) '[' ++ rest)) = .error e ∧
      e.reason = .tooDeep := by
  obtain ⟨fault, refused, deep⟩ := readValue_brackets depthLimit rest
  refine ⟨fault.locate (List.replicate (depthLimit + 1) '[' ++ rest), ?_, deep⟩
  simp only [parse, String.toList_ofList, refused, bind, Except.bind]

end WebFetch.Json
