import EndpointResolution.Proofs.ByteOrder

/-!
Percent-encoding, character by character. An unreserved character stands for itself, and what any
other one is written as is longer; so a text is its own encoding just if nothing in it is reserved.
-/

namespace EndpointResolution.Percent

open Text.Utf8

def encodeChar (c : Char) : List Char := (String.utf8EncodeChar c).flatMap encodeByte

theorem toNat_lt_of_isUnreserved {c : Char} (h : isUnreserved c = true) : c.toNat < 128 := by
  have upper : c.isUpper = decide (65 ≤ c.val ∧ c.val ≤ 90) := rfl
  have lower : c.isLower = (decide (97 ≤ c.val) && decide (c.val ≤ 122)) := rfl
  have letter : c.isAlpha = (c.isUpper || c.isLower) := rfl
  simp only [isUnreserved, Char.isAlphanum, letter, upper, lower, Char.isDigit, Bool.or_eq_true,
    Bool.and_eq_true, decide_eq_true_eq] at h
  rcases h with (((((h | h) | h) | rfl) | rfl) | rfl) | rfl
  · exact Nat.lt_of_le_of_lt h.2 (by decide)
  · exact Nat.lt_of_le_of_lt h.2 (by decide)
  · exact Nat.lt_of_le_of_lt h.2 (by decide)
  all_goals decide

/-- The first byte of a character is the character itself or lies outside ASCII. -/
theorem firstByte_cases_ascii (c : Char) :
    Char.ofNat (UInt8.ofNat (firstByte c.toNat)).toNat = c ∧ laterCount c.toNat = 0 ∨
      128 ≤ c.toNat ∧ 128 ≤ (Char.ofNat (UInt8.ofNat (firstByte c.toNat)).toNat).toNat := by
  have byte : firstByte c.toNat < 256 := firstByte_lt (toNat_lt_of_valid c)
  rw [UInt8.toNat_ofNat', Nat.mod_eq_of_lt byte]
  by_cases ascii : c.toNat < 128
  · left
    have low : c.toNat ≤ 0x7F := by omega
    simp [firstByte, laterCount, low]
  · right
    have high : 128 ≤ firstByte c.toNat := by
      unfold firstByte
      split_ifs <;> omega
    refine ⟨by omega, ?_⟩
    have valid : (firstByte c.toNat).isValidChar := .inl (by omega)
    rw [Char.ofNat, dif_pos valid]
    exact high

theorem encodeChar_eq (c : Char) : encodeChar c = encodeByte (.ofNat (firstByte c.toNat)) ++
    (laterBytes c.toNat (laterCount c.toNat)).flatMap encodeByte := by
  rw [encodeChar, utf8EncodeChar_eq]
  rfl

theorem encodeChar_of_isUnreserved {c : Char} (h : isUnreserved c = true) : encodeChar c = [c] := by
  rw [encodeChar_eq]
  rcases firstByte_cases_ascii c with ⟨own, none⟩ | ⟨high, -⟩
  · rw [none, laterBytes, List.flatMap_nil, List.append_nil, encodeByte]
    simp only [own, h, if_true]
  · exact absurd (toNat_lt_of_isUnreserved h) (Nat.not_lt.mpr high)

theorem three_le_length_encodeChar {c : Char} (h : isUnreserved c = false) :
    3 ≤ (encodeChar c).length := by
  have reserved : isUnreserved (Char.ofNat (UInt8.ofNat (firstByte c.toNat)).toNat) = false := by
    rcases firstByte_cases_ascii c with ⟨own, -⟩ | ⟨-, high⟩
    · rw [own, h]
    · by_contra free
      exact absurd (toNat_lt_of_isUnreserved (by simpa using free)) (Nat.not_lt.mpr high)
  have first : (encodeByte (.ofNat (firstByte c.toNat))).length = 3 := by
    simp only [encodeByte, reserved, Bool.false_eq_true, if_false]
    rfl
  rw [encodeChar_eq, List.length_append]
  exact Nat.le_add_right_of_le (Nat.le_of_eq first.symm)

theorem toList_encode (text : String) : (encode text).toList = text.toList.flatMap encodeChar := by
  rw [encode, String.toList_ofList, bytes_eq, List.flatMap_assoc]
  rfl

theorem length_le_length_flatMap (text : List Char) :
    text.length ≤ (text.flatMap encodeChar).length := by
  induction text with
  | nil => exact Nat.le_refl _
  | cons c rest ih =>
      rw [List.flatMap_cons, List.length_append, List.length_cons]
      cases own : isUnreserved c with
      | true =>
          rw [encodeChar_of_isUnreserved own, List.length_singleton]
          omega
      | false =>
          have longer := three_le_length_encodeChar own
          omega

theorem flatMap_eq_self_iff {text : List Char} :
    text.flatMap encodeChar = text ↔ ∀ c ∈ text, isUnreserved c = true := by
  induction text with
  | nil => simp
  | cons c rest ih =>
      rw [List.flatMap_cons, List.forall_mem_cons]
      cases own : isUnreserved c with
      | true => simp [encodeChar_of_isUnreserved own, ih]
      | false =>
          -- The encoding of the rest is no shorter than the rest, so the whole is too long.
          have longer := three_le_length_encodeChar own
          have rest := length_le_length_flatMap rest
          refine iff_of_false (fun same => ?_) (by simp)
          have lengths := congrArg List.length same
          rw [List.length_append, List.length_cons] at lengths
          omega

/-- A text is its own encoding just if all of it is unreserved. -/
theorem encode_eq_self_iff {text : String} :
    encode text = text ↔ ∀ c ∈ text.toList, isUnreserved c = true := by
  rw [String.ext_iff, toList_encode, flatMap_eq_self_iff]

end EndpointResolution.Percent
