/-!
UTF-8 over lists of bytes: encoding, strict decoding, and decoding that puts U+FFFD for each
maximal ill-formed part. Strict and replacing decoding walk the input with the same step.
-/

set_option autoImplicit false

namespace WebFetch

abbrev Bytes := List UInt8

namespace Utf8

/-- The bytes of one scalar value: one to four of them, by its size. -/
def encodeChar (c : Char) : Bytes :=
  let n := c.toNat
  if n < 0x80 then [UInt8.ofNat n]
  else if n < 0x800 then [UInt8.ofNat (0xC0 + n / 64), UInt8.ofNat (0x80 + n % 64)]
  else if n < 0x10000 then
    [UInt8.ofNat (0xE0 + n / 4096), UInt8.ofNat (0x80 + n / 64 % 64), UInt8.ofNat (0x80 + n % 64)]
  else
    [UInt8.ofNat (0xF0 + n / 262144), UInt8.ofNat (0x80 + n / 4096 % 64),
      UInt8.ofNat (0x80 + n / 64 % 64), UInt8.ofNat (0x80 + n % 64)]

def encodeChars (cs : List Char) : Bytes := cs.flatMap encodeChar

def encode (s : String) : Bytes := encodeChars s.toList

/-- What a leading byte promises: how many bytes follow it, and the range of the first of them.
    The range keeps out overlong forms, surrogates and values past U+10FFFF. -/
structure Lead where
  following : Nat
  low : UInt8
  high : UInt8

def lead? (b : UInt8) : Option Lead :=
  if b < 0xC2 then none
  else if b < 0xE0 then some ⟨1, 0x80, 0xBF⟩
  else if b = 0xE0 then some ⟨2, 0xA0, 0xBF⟩
  else if b = 0xED then some ⟨2, 0x80, 0x9F⟩
  else if b < 0xF0 then some ⟨2, 0x80, 0xBF⟩
  else if b = 0xF0 then some ⟨3, 0x90, 0xBF⟩
  else if b < 0xF4 then some ⟨3, 0x80, 0xBF⟩
  else if b = 0xF4 then some ⟨3, 0x80, 0x8F⟩
  else none

def isContinuation (b : UInt8) : Bool := 0x80 ≤ b && b ≤ 0xBF

def payload (b : UInt8) : Nat := b.toNat % 64

/-- Reads the character that starts with `b`. The second component counts the bytes of `rest` that
    belong to it, or, where there is no character, to the maximal ill-formed part that `b` opens. -/
def step (b : UInt8) (rest : Bytes) : Option Char × Nat :=
  if b < 0x80 then (some (Char.ofNat b.toNat), 0)
  else match lead? b, rest with
    | some l, x :: more =>
      if x < l.low || l.high < x then (none, 0)
      else if l.following = 1 then (some (Char.ofNat (b.toNat % 32 * 64 + payload x)), 1)
      else match more with
        | y :: more =>
          if !isContinuation y then (none, 1)
          else if l.following = 2 then
            (some (Char.ofNat (b.toNat % 16 * 4096 + payload x * 64 + payload y)), 2)
          else match more with
            | z :: _ =>
              if !isContinuation z then (none, 2)
              else (some (Char.ofNat
                (b.toNat % 8 * 262144 + payload x * 4096 + payload y * 64 + payload z)), 3)
            | [] => (none, 2)
        | [] => (none, 1)
    | _, _ => (none, 0)

/-- The characters of a well-formed sequence; nothing for any other. -/
def decodeChars? : Bytes → Option (List Char)
  | [] => some []
  | b :: rest =>
    match step b rest with
    | (some c, n) => (decodeChars? (rest.drop n)).map (c :: ·)
    | (none, _) => none
termination_by bytes => bytes.length
decreasing_by simp only [List.length_drop, List.length_cons]; omega

/-- U+FFFD stands for what cannot be decoded. -/
def replacement : Char := '\ufffd'

/-- Decodes every sequence, one replacement character for each maximal ill-formed part. -/
def decodeCharsLossy : Bytes → List Char
  | [] => []
  | b :: rest =>
    let (c, n) := step b rest
    c.getD replacement :: decodeCharsLossy (rest.drop n)
termination_by bytes => bytes.length
decreasing_by simp only [List.length_drop, List.length_cons]; omega

def decode? (bytes : Bytes) : Option String := (decodeChars? bytes).map String.ofList

def decodeLossy (bytes : Bytes) : String := String.ofList (decodeCharsLossy bytes)

end Utf8

end WebFetch
