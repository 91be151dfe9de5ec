import WebFetch.Codec
import WebFetch.NativeHost
import WebFetch.Proofs.Body.Reading
import WebFetch.Text.Utf8.WellFormed

/-!
Text through the codec of the ready-made host. Its two ways to decode agree wherever the strict one
gives anything, so that decoding is decoding with replacement. Text survives encoding and decoding
whole, and bytes survive decoding and encoding exactly if they are well-formed.
-/

set_option autoImplicit false

namespace WebFetch

namespace NativeHost

theorem decodeText_eq (bytes : Bytes) : decodeText bytes = Utf8.decodeLossy bytes := by
  unfold decodeText
  cases strict : Utf8.decode? bytes with
  | none => rfl
  | some text =>
    rw [Option.getD_some, ← Utf8.decode?_eq_some_iff.mp strict, Utf8.decodeLossy_encode]

theorem decodeText_encode (text : String) : decodeText (Utf8.encode text) = text := by
  rw [decodeText_eq, Utf8.decodeLossy_encode]

theorem encode_decodeText_iff {bytes : Bytes} :
    Utf8.encode (decodeText bytes) = bytes ↔ Utf8.WellFormed bytes := by
  rw [Utf8.wellFormed_iff]
  constructor
  · intro back
    exact ⟨_, back.symm⟩
  · rintro ⟨cs, rfl⟩
    have text : Utf8.encodeChars cs = Utf8.encode (String.ofList cs) := by
      rw [Utf8.encode, String.toList_ofList]
    rw [text, decodeText_encode]

end NativeHost

/-- The host encodes and decodes as the ready-made one does, whatever else it does. -/
structure Host.CodesText (host : Host) : Prop where
  encode_eq : host.encode = Utf8.encode
  decode_eq : ∀ bytes, host.decode bytes = [.ok (NativeHost.decodeText bytes)]

theorem NativeHost.codesText (transport : Transport) : (overTransport transport).CodesText :=
  ⟨rfl, fun _ => rfl⟩

namespace Host.CodesText

variable {host : Host} (codes : host.CodesText)
include codes

theorem decoded_eq (bytes : Bytes) : host.decoded bytes = .ok (NativeHost.decodeText bytes) := by
  rw [decoded, codes.decode_eq]
  rfl

theorem decoded_encode (text : String) : host.decoded (host.encode text) = .ok text := by
  rw [codes.decoded_eq, codes.encode_eq, NativeHost.decodeText_encode]

/-- A body that is made from a text has this text, and nothing is lost on the way. -/
theorem decoded_of_text (text : String) :
    (Body.ofInit host (some (.text text))).payload.decoded host = .ok text := by
  change (host.decoded (host.encode text)).mapError FetchError.host = _
  rw [codes.decoded_encode]
  rfl

end Host.CodesText

namespace NativeHost

/-- Through the ready-made host, a body made of a text is read as this text, and so is what any
    decoder makes of its bytes. Bytes are decoded in one way: each character for what it is encoded
    as, and one replacement character for each maximal part of what is none. The strict decoder
    gives the same or nothing, and the same where the bytes are well-formed; exactly there encoding
    brings them back. What was decoded once is not changed by encoding and decoding it again. -/
theorem codec_round_trip (transport : Transport) :
    let host := overTransport transport
    (∀ (text : String) (s : Session),
      ((Body.ofInit host (some (.text text))).text host s).1.1 = .ok text ∧
      (∀ label fatal ignoreBom,
        ((TextDecoder.create label fatal ignoreBom).decode host (host.encode text) s).1 =
          .ok text) ∧
      host.encode text = text.toByteArray.data.toList) ∧
    ∀ bytes : Bytes, ∃ text : String,
      host.decode bytes = [.ok text] ∧
      (∀ cs, Utf8.Reads bytes cs ↔ cs = text.toList) ∧
      text = Utf8.decodeLossy bytes ∧
      (Utf8.decode? bytes = some text ∨ Utf8.decode? bytes = none) ∧
      (Utf8.decode? bytes = some text ↔ Utf8.WellFormed bytes) ∧
      (host.encode text = bytes ↔ Utf8.WellFormed bytes) ∧
      host.decode (host.encode text) = [.ok text] := by
  intro host
  have codes : host.CodesText := codesText transport
  refine ⟨fun text s => ⟨?_, fun label fatal ignoreBom => ?_, Utf8.encode_eq text⟩, fun bytes => ?_⟩
  · have read := (Body.text_of_unused (b := .ofInit host (some (.text text))) rfl host s).1
    rw [read]
    exact codes.decoded_of_text text
  · change (host.decodeText (host.encode text) s).1.mapError FetchError.host = _
    rw [Host.decodeText_fst, codes.decoded_encode]
    rfl
  · have lossy := decodeText_eq bytes
    refine ⟨decodeText bytes, rfl, fun cs => ?_, lossy, ?_, ?_, encode_decodeText_iff, ?_⟩
    · rw [Utf8.reads_iff, lossy, Utf8.decodeLossy, String.toList_ofList]
    · unfold decodeText
      cases Utf8.decode? bytes with
      | some text => exact .inl rfl
      | none => exact .inr rfl
    · rw [Utf8.decode?_eq_some_iff, encode_decodeText_iff]
    · rw [codes.decode_eq, codes.encode_eq, decodeText_encode]

end NativeHost

end WebFetch
