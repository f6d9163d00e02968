import EndpointResolution.Function.Apply
import EndpointResolution.Proofs.JsonText
import EndpointResolution.Proofs.PercentEncoding

/-!
Percent-decoding. An encoded text is made up of unreserved characters and of percent signs with two
upper-case hexadecimal digits each, and what it decodes to are the bytes of the text. So texts with
the same encoding are the same, and the encoding of a joined text is joined from those of its parts.
-/

namespace EndpointResolution.Percent

/-- The characters that need no encoding: letters and digits of ASCII and four marks. -/
def Unreserved (c : Char) : Prop :=
  ('A' ≤ c ∧ c ≤ 'Z') ∨ ('a' ≤ c ∧ c ≤ 'z') ∨ ('0' ≤ c ∧ c ≤ '9') ∨ c ∈ ['-', '_', '.', '~']

def UpperHexDigit (c : Char) : Prop := ('0' ≤ c ∧ c ≤ '9') ∨ ('A' ≤ c ∧ c ≤ 'F')

instance (c : Char) : Decidable (UpperHexDigit c) :=
  inferInstanceAs (Decidable (('0' ≤ c ∧ c ≤ '9') ∨ ('A' ≤ c ∧ c ≤ 'F')))

/-- Unreserved characters, and triples of a percent sign and two hexadecimal digits. -/
inductive Encoded : List Char → Prop
  | nil : Encoded []
  | unreserved {c : Char} {rest : List Char} (free : Unreserved c) (more : Encoded rest) :
      Encoded (c :: rest)
  | triple {high low : Char} {rest : List Char} (first : UpperHexDigit high)
      (second : UpperHexDigit low) (more : Encoded rest) : Encoded ('%' :: high :: low :: rest)

/-- The bytes that a text stands for. A percent sign takes two hexadecimal digits, in upper or lower
case, and is the byte of their value; any other character is its own bytes. -/
def decode? : List Char → Option (List UInt8)
  | [] => some []
  | '%' :: high :: low :: rest => do
      let high ← Json.hexValue? high
      let low ← Json.hexValue? low
      let more ← decode? rest
      return .ofNat (16 * high + low) :: more
  | '%' :: _ => none
  | c :: rest => (decode? rest).map (String.utf8EncodeChar c ++ ·)

theorem isUnreserved_iff {c : Char} : isUnreserved c = true ↔ Unreserved c := by
  have upper : c.isUpper = decide ('A' ≤ c ∧ c ≤ 'Z') := rfl
  have lower : c.isLower = (decide ('a' ≤ c) && decide (c ≤ 'z')) := rfl
  have digit : c.isDigit = (decide ('0' ≤ c) && decide (c ≤ '9')) := rfl
  have letter : c.isAlpha = (c.isUpper || c.isLower) := rfl
  simp [isUnreserved, Unreserved, Char.isAlphanum, letter, upper, lower, digit, or_assoc]

theorem Unreserved.ne_percent {c : Char} (free : Unreserved c) : c ≠ '%' := by
  rintro rfl
  exact absurd (isUnreserved_iff.mpr free) (by decide)

theorem upperHexDigit_hexDigit : ∀ n < 16, UpperHexDigit (hexDigit n) := by decide

theorem toNat_ofNat_byte (byte : UInt8) : (Char.ofNat byte.toNat).toNat = byte.toNat := by
  have valid : byte.toNat.isValidChar := .inl (Nat.lt_trans byte.toNat_lt (by decide))
  rw [Char.ofNat, dif_pos valid]
  rfl

/-- A byte of ASCII is all there is of its character. -/
theorem utf8EncodeChar_ofNat {byte : UInt8} (ascii : byte.toNat < 128) :
    String.utf8EncodeChar (Char.ofNat byte.toNat) = [byte] := by
  have code := toNat_ofNat_byte byte
  rw [Text.Utf8.utf8EncodeChar_eq]
  simp only [Char.toNat] at code
  have low : byte.toNat ≤ 0x7F := Nat.le_of_lt_succ ascii
  simp [code, Text.Utf8.firstByte, Text.Utf8.laterCount, Text.Utf8.laterBytes, low]

theorem encodeByte_cases (byte : UInt8) :
    (∃ c, Unreserved c ∧ encodeByte byte = [c] ∧ String.utf8EncodeChar c = [byte]) ∨
      encodeByte byte = ['%', hexDigit (byte.toNat / 16), hexDigit (byte.toNat % 16)] := by
  rw [encodeByte]
  split
  · next free =>
      have ascii := toNat_lt_of_isUnreserved free
      rw [toNat_ofNat_byte] at ascii
      exact .inl ⟨_, isUnreserved_iff.mp free, rfl, utf8EncodeChar_ofNat ascii⟩
  · exact .inr rfl

theorem encoded_flatMap (bytes : List UInt8) : Encoded (bytes.flatMap encodeByte) := by
  induction bytes with
  | nil => exact .nil
  | cons byte rest ih =>
      have bound := byte.toNat_lt
      rw [List.flatMap_cons]
      rcases encodeByte_cases byte with ⟨c, free, own, -⟩ | own
      · rw [own]
        exact .unreserved free ih
      · rw [own]
        exact .triple (upperHexDigit_hexDigit _ (by omega)) (upperHexDigit_hexDigit _ (by omega)) ih

/-- What a byte is encoded as is told from what follows it. -/
theorem decode?_encodeByte_append (byte : UInt8) (rest : List Char) :
    decode? (encodeByte byte ++ rest) = (decode? rest).map (byte :: ·) := by
  rcases encodeByte_cases byte with ⟨c, free, own, bytes⟩ | own
  · have other := free.ne_percent
    rw [own, List.singleton_append, decode?, bytes]
    · rfl
    · exact fun _ _ _ eq => absurd eq other
    · exact other
  · have bound := byte.toNat_lt
    have high := Json.hexValue?_hexDigit (byte.toNat / 16) (by omega)
    have low := Json.hexValue?_hexDigit (byte.toNat % 16) (by omega)
    have value : 16 * (byte.toNat / 16) + byte.toNat % 16 = byte.toNat := Nat.div_add_mod _ _
    simp only [own, List.cons_append, List.nil_append, decode?, high, low, Option.bind_eq_bind,
      Option.bind_some, value, UInt8.ofNat_toNat]
    cases decode? rest <;> rfl

theorem decode?_flatMap (bytes : List UInt8) : decode? (bytes.flatMap encodeByte) = some bytes := by
  induction bytes with
  | nil => rfl
  | cons byte rest ih => rw [List.flatMap_cons, decode?_encodeByte_append, ih, Option.map_some]

theorem bytes_append (text more : String) : bytes (text ++ more) = bytes text ++ bytes more := by
  simp only [Text.Utf8.bytes_eq, String.toList_append, List.flatMap_append]

theorem bytes_injective {text other : String} (h : bytes text = bytes other) : text = other := by
  rw [bytes, bytes] at h
  exact String.toByteArray_inj.mp (ByteArray.ext (Array.toList_inj.mp h))

theorem decode?_encode (text : String) : decode? (encode text).toList = some (bytes text) := by
  rw [encode, String.toList_ofList, decode?_flatMap]

theorem encode_append (text more : String) : encode (text ++ more) = encode text ++ encode more := by
  rw [encode, bytes_append, List.flatMap_append, String.ofList_append]
  rfl

theorem encode_inj {text other : String} : encode text = encode other ↔ text = other := by
  constructor
  · intro same
    have decoded := decode?_encode text
    rw [same, decode?_encode] at decoded
    exact (bytes_injective (Option.some.inj decoded)).symm
  · rintro rfl
    rfl

/-- The encoding of a text holds unreserved characters and triples only, and decoding it gives the
bytes of the text, whatever the text is. Different texts are encoded differently, joined ones by
parts, and only texts without reserved characters stay as they are. -/
theorem encode_undone_by_decoding (text other : String) :
    Function.apply .uriEncode [.string text] = .ok (.string (encode text)) ∧
    Encoded (encode text).toList ∧
    decode? (encode text).toList = some (bytes text) ∧
    (encode text = encode other ↔ text = other) ∧
    encode (text ++ other) = encode text ++ encode other ∧
    (encode text = text ↔ ∀ c ∈ text.toList, Unreserved c) := by
  refine ⟨rfl, ?_, decode?_encode text, encode_inj, encode_append text other, ?_⟩
  · rw [encode, String.toList_ofList]
    exact encoded_flatMap _
  · simp only [encode_eq_self_iff, isUnreserved_iff]

-- A percent sign is not taken for the beginning of a triple.
example : encode "%41 ü" = "%2541%20%C3%BC" := by decide

end EndpointResolution.Percent
