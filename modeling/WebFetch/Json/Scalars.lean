import Mathlib.Order.Basic
import WebFetch.Json.Parser
import WebFetch.Json.Printer

/-!
Strings and whole numbers in JSON text. Each is read back from what is written for it, in front of
anything that can follow a value.
-/

set_option autoImplicit false

namespace WebFetch.Json

/-- What can follow a value: the end of the text, or what divides and closes lists. -/
def Ends : List Char → Prop
  | [] => True
  | c :: _ => c = ',' ∨ c = ']' ∨ c = '\x7d'

/-! ## Strings -/

theorem hexValue?_hexDigit {n : Nat} (h : n < 16) : hexValue? (hexDigit n) = some n := by
  have all : ∀ n : Fin 16, hexValue? (hexDigit n) = some n.val := by decide
  exact all ⟨n, h⟩

/-- A control character comes back from the two digits that it is escaped with. -/
theorem readUnicode_control {c : Char} (control : c.toNat < 32) (rest : List Char) :
    readUnicode ('0' :: '0' :: hexDigit (c.toNat / 16) :: hexDigit (c.toNat % 16) :: rest) =
      .ok (c, rest) := by
  have zero : hexValue? '0' = some 0 := by decide
  have value : ((0 * 16 + 0) * 16 + c.toNat / 16) * 16 + c.toNat % 16 = c.toNat := by omega
  have digits : readHex
      ('0' :: '0' :: hexDigit (c.toNat / 16) :: hexDigit (c.toNat % 16) :: rest) =
        .ok (c.toNat, rest) := by
    unfold readHex
    dsimp only
    rw [zero, hexValue?_hexDigit (by omega), hexValue?_hexDigit (by omega)]
    dsimp only
    rw [value]
  simp only [readUnicode, digits, bind, Except.bind]
  rw [if_neg (by omega), if_pos (by omega), Char.ofNat_toNat]
  rfl

theorem readStringChars_escape (c : Char) {fuel : Nat} {rest xs more : List Char}
    (read : readStringChars fuel rest = .ok (xs, more)) :
    readStringChars (fuel + 1) (escapeChar c ++ rest) = .ok (c :: xs, more) := by
  have escaped : ∀ escape : List Char, readEscape (escape ++ rest) = .ok (c, rest) →
      readStringChars (fuel + 1) ('\\' :: escape ++ rest) = .ok (c :: xs, more) := by
    intro escape h
    rw [List.cons_append, readStringChars, if_neg (by decide), if_pos rfl]
    simp only [h, read, bind, Except.bind, pure, Except.pure]
  unfold escapeChar
  split_ifs with quote backslash backspace feed line ret tab control
  · exact escaped ['"'] (by rw [quote]; rfl)
  · exact escaped ['\\'] (by rw [backslash]; rfl)
  · exact escaped ['b'] (by rw [backspace]; rfl)
  · exact escaped ['f'] (by rw [feed]; rfl)
  · exact escaped ['n'] (by rw [line]; rfl)
  · exact escaped ['r'] (by rw [ret]; rfl)
  · exact escaped ['t'] (by rw [tab]; rfl)
  · exact escaped ['u', '0', '0', _, _] (readUnicode_control control rest)
  · rw [List.singleton_append, readStringChars, if_neg quote, if_neg backslash, if_neg control]
    simp only [read, bind, Except.bind, pure, Except.pure]

theorem escapeChar_ne_nil (c : Char) : escapeChar c ≠ [] := by
  unfold escapeChar
  split_ifs <;> exact List.cons_ne_nil _ _

/-- A string is read up to its last quote, given fuel for its characters. -/
theorem readStringChars_quoted (rest : List Char) :
    ∀ (xs : List Char) {fuel : Nat}, xs.length < fuel →
      readStringChars fuel (xs.flatMap escapeChar ++ '"' :: rest) = .ok (xs, rest)
  | _, 0, bound => absurd bound (Nat.not_lt_zero _)
  | [], fuel + 1, _ => by
    rw [List.flatMap_nil, List.nil_append, readStringChars, if_pos rfl]
  | c :: xs, fuel + 1, bound => by
    rw [List.flatMap_cons, List.append_assoc]
    exact readStringChars_escape c (readStringChars_quoted rest xs (Nat.lt_of_succ_lt_succ bound))

theorem length_le_length_flatMap {α β : Type} {f : α → List β} {xs : List α}
    (nonempty : ∀ x ∈ xs, f x ≠ []) : xs.length ≤ (xs.flatMap f).length := by
  induction xs with
  | nil => exact Nat.le_refl 0
  | cons x xs ih =>
    have head := List.length_pos_iff.mpr (nonempty x List.mem_cons_self)
    have tail := ih fun y hy => nonempty y (List.mem_cons_of_mem x hy)
    rw [List.flatMap_cons, List.length_append, List.length_cons]
    omega

theorem readString_quoted (s : String) (rest : List Char) :
    readString (s.toList.flatMap escapeChar ++ '"' :: rest) = .ok (s, rest) := by
  have bound := length_le_length_flatMap fun c (_ : c ∈ s.toList) => escapeChar_ne_nil c
  unfold readString
  rw [readStringChars_quoted rest s.toList (by rw [List.length_append]; omega)]
  exact congrArg (fun s => Except.ok (s, rest)) String.ofList_toList

/-! ## Numbers -/

theorem ne_of_isDigit {c d : Char} (digit : isDigit d = true) (other : isDigit c = false) :
    d ≠ c := by
  rintro rfl
  exact Bool.false_ne_true (other ▸ digit)

theorem not_isBlank_of_isDigit {d : Char} (digit : isDigit d = true) : isBlank d = false := by
  have other {c : Char} (no : isDigit c = false) : d ≠ c := ne_of_isDigit digit no
  simp [isBlank, other (c := ' ') (by decide), other (c := '\n') (by decide),
    other (c := '\t') (by decide), other (c := '\r') (by decide)]

theorem not_isDigit_of_ends {c : Char} {rest : List Char} (ends : Ends (c :: rest)) :
    isDigit c = false := by
  rcases ends with rfl | rfl | rfl <;> decide

theorem le_ofDigitChars (ds : List Char) : ∀ n, n ≤ Nat.ofDigitChars 10 ds n := by
  induction ds with
  | nil => exact fun n => Nat.le_refl n
  | cons d ds ih =>
    intro n
    rw [Nat.ofDigitChars_cons]
    have tail := ih (10 * n + (d.toNat - '0'.toNat))
    omega

/-- Digits that stay in bounds are all read. -/
theorem readDigits_digits {rest : List Char} (ends : Ends rest) :
    ∀ (ds : List Char) (n count : Nat), (∀ d ∈ ds, isDigit d) →
      Nat.ofDigitChars 10 ds n ≤ largest →
      readDigits n count (ds ++ rest) = (Nat.ofDigitChars 10 ds n, count + ds.length, rest) := by
  intro ds
  induction ds with
  | nil =>
    intro n count _ _
    cases rest with
    | nil => rfl
    | cons c rest =>
      rw [List.nil_append, readDigits, not_isDigit_of_ends ends, if_neg (by simp)]
      rfl
  | cons d ds ih =>
    intro n count digits bound
    have value : n * 10 + digit d = 10 * n + (d.toNat - '0'.toNat) := by
      rw [Nat.mul_comm]
      rfl
    rw [Nat.ofDigitChars_cons, ← value] at bound ⊢
    have fits := Nat.le_trans (le_ofDigitChars ds _) bound
    rw [List.cons_append, readDigits, if_pos ⟨digits d List.mem_cons_self, fits⟩,
      ih _ _ (fun x hx => digits x (List.mem_cons_of_mem d hx)) bound, List.length_cons,
      Nat.add_right_comm, Nat.add_assoc]

theorem readAfterWhole_of_ends {rest : List Char} (ends : Ends rest) (negative : Bool) (n : Nat) :
    readAfterWhole negative n none rest = .ok (wholeNumber negative n, rest) := by
  cases rest with
  | nil => rfl
  | cons c rest => rcases ends with rfl | rfl | rfl <;> rfl

/-- Decimal digits start with a zero for zero alone. -/
theorem toDigits_eq_cons_of_pos {n : Nat} (positive : 0 < n) :
    ∃ d ds, Nat.toDigits 10 n = d :: ds ∧ d ≠ '0' := by
  induction n using Nat.strongRecOn with
  | ind n ih =>
    rcases Nat.lt_or_ge n 10 with small | large
    · refine ⟨_, [], Nat.toDigits_of_lt_base small, ?_⟩
      have nonzero : ∀ k : Fin 10, 0 < k.val → k.val.digitChar ≠ '0' := by decide
      exact nonzero ⟨n, small⟩ positive
    · obtain ⟨d, ds, eq, nonzero⟩ := ih (n / 10) (by omega) (by omega)
      exact ⟨d, ds ++ [(n % 10).digitChar],
        by rw [Nat.toDigits_of_base_le (by decide) large, eq, List.cons_append], nonzero⟩

theorem isDigit_of_mem_toDigits {n : Nat} {d : Char} (mem : d ∈ Nat.toDigits 10 n) :
    isDigit d = true :=
  Nat.isDigit_of_mem_toDigits (b := 10) (by decide) (by decide) mem

theorem toDigits_eq_cons (n : Nat) :
    ∃ d ds, Nat.toDigits 10 n = d :: ds ∧ isDigit d = true := by
  cases eq : Nat.toDigits 10 n with
  | nil => exact absurd eq Nat.toDigits_ne_nil
  | cons d ds => exact ⟨d, ds, rfl, isDigit_of_mem_toDigits (eq ▸ List.mem_cons_self)⟩

theorem readNumber_digits {rest : List Char} (ends : Ends rest) (negative : Bool) {n : Nat}
    (bound : n ≤ largest) :
    readNumber negative (Nat.toDigits 10 n ++ rest) = .ok (wholeNumber negative n, rest) := by
  rcases Nat.eq_zero_or_pos n with rfl | positive
  · change readNumber negative ('0' :: rest) = _
    cases rest with
    | nil => rfl
    | cons c rest =>
      rw [readNumber, if_pos rfl, not_isDigit_of_ends ends, if_neg Bool.false_ne_true,
        readAfterWhole_of_ends ends]
  · obtain ⟨d, ds, eq, nonzero⟩ := toDigits_eq_cons_of_pos positive
    have digits : ∀ x ∈ d :: ds, isDigit x = true := fun x hx =>
      isDigit_of_mem_toDigits (eq ▸ hx)
    have value : Nat.ofDigitChars 10 ds (digit d) = n := by
      have whole := Nat.ofDigitChars_toDigits (b := 10) (n := n) (by decide) (by decide)
      rwa [eq, Nat.ofDigitChars_cons, Nat.mul_zero, Nat.zero_add] at whole
    have read := readDigits_digits ends ds (digit d) 1
      (fun x hx => digits x (List.mem_cons_of_mem d hx)) (value ▸ bound)
    have none_left : rest.takeWhile isDigit = [] := by
      cases rest with
      | nil => rfl
      | cons c rest => rw [List.takeWhile_cons, not_isDigit_of_ends ends, if_neg Bool.false_ne_true]
    rw [eq, List.cons_append]
    unfold readNumber
    dsimp only
    rw [if_neg nonzero, if_pos (digits d List.mem_cons_self), read, value]
    dsimp only
    rw [none_left]
    exact readAfterWhole_of_ends ends negative n

theorem Number.render_nat (n : Nat) : (Number.integer n).render = Nat.toDigits 10 n :=
  Nat.toList_repr

theorem Number.render_neg (n : Nat) :
    (Number.integer (Int.negSucc n)).render = '-' :: Nat.toDigits 10 (n + 1) := by
  change ("-" ++ (n + 1).repr).toList = _
  rw [String.toList_append, Nat.toList_repr]
  rfl

/-! ## Values that are not lists -/

theorem skipBlanks_cons {c : Char} (blank : isBlank c = false) (rest : List Char) :
    skipBlanks (c :: rest) = c :: rest := by
  rw [skipBlanks, List.dropWhile_cons, blank, if_neg Bool.false_ne_true]

theorem readValue_quote (room : Nat) (s : String) (rest : List Char) :
    readValue room (quote s ++ rest) = .ok (.string s, rest) := by
  have read := readString_quoted s rest
  rw [readValue, quote, List.cons_append, skipBlanks_cons (by decide), List.append_assoc]
  change (readString (_ ++ '"' :: rest) >>= _) = _
  rw [read]
  rfl

theorem readValue_digits (room : Nat) {n : Nat} (bound : n ≤ largest) {rest : List Char}
    (ends : Ends rest) :
    readValue room (Nat.toDigits 10 n ++ rest) = .ok (.number (.integer n), rest) := by
  have read := readNumber_digits ends false bound
  obtain ⟨d, ds, eq, digit⟩ := toDigits_eq_cons n
  have other {c : Char} (no : isDigit c = false) : d ≠ c := ne_of_isDigit digit no
  rw [eq, List.cons_append] at read ⊢
  rw [readValue, skipBlanks_cons (not_isBlank_of_isDigit digit)]
  dsimp only
  rw [if_neg (other (by decide)), if_neg (other (by decide)), if_neg (other (by decide)),
    if_neg (other (by decide)), if_neg (other (by decide)), if_pos digit, read]
  rfl

theorem readValue_minus (room : Nat) {n : Nat} (bound : n < 0x8000000000000000) {rest : List Char}
    (ends : Ends rest) :
    readValue room ('-' :: Nat.toDigits 10 (n + 1) ++ rest) =
      .ok (.number (.integer (Int.negSucc n)), rest) := by
  have whole : wholeNumber true (n + 1) = .integer (Int.negSucc n) := by
    rw [wholeNumber, if_pos rfl, if_neg (by omega)]
    rfl
  have read := readNumber_digits ends true (n := n + 1) (by unfold largest; omega)
  rw [readValue, List.cons_append, skipBlanks_cons (by decide)]
  change (readNumber true _ >>= _) = _
  rw [read, whole]
  rfl

theorem readValue_integer (room : Nat) {n : Int} (lower : -0x8000000000000000 ≤ n)
    (upper : n ≤ 0xFFFFFFFFFFFFFFFF) {rest : List Char} (ends : Ends rest) :
    readValue room ((Number.integer n).render ++ rest) = .ok (.number (.integer n), rest) := by
  cases n with
  | ofNat n =>
    have upper : (n : Int) ≤ 0xFFFFFFFFFFFFFFFF := upper
    rw [Int.ofNat_eq_natCast, Number.render_nat]
    exact readValue_digits room (by unfold largest; omega) ends
  | negSucc n =>
    rw [Number.render_neg]
    exact readValue_minus room (by omega) ends

end WebFetch.Json
