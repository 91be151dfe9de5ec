import WebFetch.Text.Utf8

/-!
Percent-encoding. A set says which characters may not stand for themselves; each of their bytes is
written as `%` and two upper-case hexadecimal digits, and decoding gives the bytes back.
-/

set_option autoImplicit false

namespace WebFetch.Percent

def hexDigit (n : Nat) : Char := Char.ofNat (if n < 10 then 48 + n else 55 + n)

def encodeByte (b : UInt8) : List Char :=
  ['%', hexDigit (b.toNat / 16), hexDigit (b.toNat % 16)]

/-- The characters that are written as their bytes. -/
abbrev Set := Char → Bool

def encodeChar (set : Set) (c : Char) : List Char :=
  if set c then (Utf8.encodeChar c).flatMap encodeByte else [c]

def encode (set : Set) (cs : List Char) : List Char := cs.flatMap (encodeChar set)

/-- ASCII controls and everything outside ASCII. -/
def controls : Set := fun c => c < ' ' || '~' < c

def fragment : Set := fun c => controls c || [' ', '"', '<', '>', '\x60'].contains c

def query : Set := fun c => controls c || [' ', '"', '#', '<', '>'].contains c

/-- The query of a URL whose scheme is special also encodes the single quote. -/
def specialQuery : Set := fun c => query c || c == '\''

def path : Set := fun c => fragment c || ['#', '?', '\x7b', '\x7d'].contains c

def userinfo : Set := fun c =>
  path c || ['/', ':', ';', '=', '@', '[', '\\', ']', '^', '|'].contains c

def digitValue? (b : UInt8) : Option Nat :=
  if 48 ≤ b ∧ b ≤ 57 then some (b.toNat - 48)
  else if 65 ≤ b ∧ b ≤ 70 then some (b.toNat - 55)
  else if 97 ≤ b ∧ b ≤ 102 then some (b.toNat - 87)
  else none

/-- Replaces every `%` that two hexadecimal digits follow; any other `%` stays. -/
def decode : Bytes → Bytes
  | b :: h :: l :: more =>
    match if b = 0x25 then (digitValue? h, digitValue? l) else (none, none) with
    | (some x, some y) => UInt8.ofNat (x * 16 + y) :: decode more
    | _ => b :: decode (h :: l :: more)
  | short => short

theorem encodeChar_hexDigit : ∀ n : Fin 16,
    Utf8.encodeChar (hexDigit n) = [UInt8.ofNat (hexDigit n).toNat] ∧
      digitValue? (UInt8.ofNat (hexDigit n).toNat) = some n.val := by
  decide

theorem decode_cons {b : UInt8} (h : b ≠ 0x25) (rest : Bytes) :
    decode (b :: rest) = b :: decode rest := by
  match rest with
  | [] => rfl
  | [_] => rfl
  | x :: y :: more => simp [decode, h]

theorem decode_encodeByte (b : UInt8) (rest : Bytes) :
    decode (Utf8.encodeChars (encodeByte b) ++ rest) = b :: decode rest := by
  have hb := b.toNat_lt
  obtain ⟨eh, dh⟩ := encodeChar_hexDigit ⟨b.toNat / 16, by omega⟩
  obtain ⟨el, dl⟩ := encodeChar_hexDigit ⟨b.toNat % 16, by omega⟩
  have hp : Utf8.encodeChar '%' = [0x25] := by decide
  simp only [Utf8.encodeChars, encodeByte, List.flatMap_cons, List.flatMap_nil, hp, eh, el,
    List.cons_append, List.nil_append, decode, if_true, dh, dl]
  rw [show b.toNat / 16 * 16 + b.toNat % 16 = b.toNat by omega, UInt8.ofNat_toNat]

theorem decode_flatMap_encodeByte (bytes rest : Bytes) :
    decode (Utf8.encodeChars (bytes.flatMap encodeByte) ++ rest) = bytes ++ decode rest := by
  induction bytes with
  | nil => rfl
  | cons b bytes ih =>
    rw [List.flatMap_cons, Utf8.encodeChars, List.flatMap_append, List.append_assoc,
      ← Utf8.encodeChars, decode_encodeByte, ← Utf8.encodeChars, ih, List.cons_append]

end WebFetch.Percent
