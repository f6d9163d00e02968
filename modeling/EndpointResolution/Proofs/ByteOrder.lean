import Mathlib.Data.List.Lex
import Mathlib.Tactic.SplitIfs
import EndpointResolution.Text.Utf8

/-!
The order of texts by their bytes. Names are kept in order of their characters; what is said to be
first in the order of bytes is the same, since the first byte of a character grows with its code,
and each later byte decides between codes with the same bytes in front of it.
-/

namespace EndpointResolution.Text.Utf8

def laterCount (code : Nat) : Nat :=
  if code ≤ 0x7F then 0 else if code ≤ 0x7FF then 1 else if code ≤ 0xFFFF then 2 else 3

def firstByte (code : Nat) : Nat :=
  if code ≤ 0x7F then code
  else if code ≤ 0x7FF then code / 64 + 192
  else if code ≤ 0xFFFF then code / 4096 + 224
  else code / 262144 + 240

/-- The last bytes of a code, as many as given; each has six bits of it. -/
def laterBytes (code : Nat) : Nat → List UInt8
  | 0 => []
  | n + 1 => .ofNat (code / Nat.pow 64 n % 64 + 128) :: laterBytes code n

theorem toNat_lt_of_valid (c : Char) : c.val.toNat < 0x110000 := by
  rcases c.valid with low | ⟨-, high⟩ <;> omega

theorem utf8EncodeChar_eq (c : Char) : String.utf8EncodeChar c =
    .ofNat (firstByte c.val.toNat) :: laterBytes c.val.toNat (laterCount c.val.toNat) := by
  have bound := toNat_lt_of_valid c
  simp only [String.utf8EncodeChar, firstByte, laterCount]
  split_ifs with one two three
  · rfl
  · rw [Nat.mod_eq_of_lt (show c.val.toNat / 64 < 32 by omega)]
    simp [laterBytes]
  · rw [Nat.mod_eq_of_lt (show c.val.toNat / 4096 < 16 by omega)]
    simp [laterBytes]
  · rw [Nat.mod_eq_of_lt (show c.val.toNat / 262144 < 8 by omega)]
    simp [laterBytes]

theorem laterBytes_append_lt {code other n : Nat} (lt : code < other)
    (same : code / Nat.pow 64 n = other / Nat.pow 64 n) (rest more : List UInt8) :
    laterBytes code n ++ rest < laterBytes other n ++ more := by
  induction n with
  | zero =>
      simp at same
      omega
  | succ n ih =>
      rw [laterBytes, laterBytes, List.cons_append, List.cons_append, List.cons_lt_cons_iff]
      by_cases eq : code / Nat.pow 64 n = other / Nat.pow 64 n
      · exact .inr ⟨by rw [eq], ih eq⟩
      · have le : code / Nat.pow 64 n ≤ other / Nat.pow 64 n :=
          Nat.div_le_div_right (Nat.le_of_lt lt)
        have front : code / Nat.pow 64 n / 64 = other / Nat.pow 64 n / 64 := by
          simpa [Nat.div_div_eq_div_mul, Nat.pow_succ] using same
        refine .inl ?_
        simp only [UInt8.lt_iff_toNat_lt, UInt8.toNat_ofNat']
        omega

/-- A greater code has a greater first byte, or the same and as many bytes behind it. -/
theorem firstByte_cases {code other : Nat} (lt : code < other) :
    firstByte code < firstByte other ∨ firstByte code = firstByte other ∧
      laterCount code = laterCount other ∧
      code / Nat.pow 64 (laterCount code) = other / Nat.pow 64 (laterCount code) := by
  unfold firstByte laterCount
  split_ifs <;> simp <;> omega

theorem firstByte_lt {code : Nat} (valid : code < 0x110000) : firstByte code < 256 := by
  unfold firstByte
  split_ifs <;> omega

/-- The bytes of a character are less than those of a greater one, whatever follows them. -/
theorem utf8EncodeChar_append_lt {c d : Char} (lt : c < d) (rest more : List UInt8) :
    String.utf8EncodeChar c ++ rest < String.utf8EncodeChar d ++ more := by
  have smaller : c.val.toNat < d.val.toNat := lt
  rw [utf8EncodeChar_eq, utf8EncodeChar_eq, List.cons_append, List.cons_append,
    List.cons_lt_cons_iff]
  rcases firstByte_cases smaller with first | ⟨first, count, front⟩
  · refine .inl ?_
    rwa [UInt8.lt_iff_toNat_lt, UInt8.toNat_ofNat', UInt8.toNat_ofNat',
      Nat.mod_eq_of_lt (firstByte_lt (toNat_lt_of_valid c)),
      Nat.mod_eq_of_lt (firstByte_lt (toNat_lt_of_valid d))]
  · rw [← count, first]
    exact .inr ⟨rfl, laterBytes_append_lt smaller front rest more⟩

theorem bytes_eq (text : String) :
    Percent.bytes text = text.toList.flatMap String.utf8EncodeChar := by
  rw [Percent.bytes, String.toUTF8, ← String.utf8Encode_toList, List.utf8Encode,
    List.data_toByteArray]

theorem flatMap_utf8EncodeChar_lt {text other : List Char} (lt : text < other) :
    text.flatMap String.utf8EncodeChar < other.flatMap String.utf8EncodeChar := by
  induction text generalizing other with
  | nil =>
      cases other with
      | nil => cases lt
      | cons d other =>
          rw [List.flatMap_cons, utf8EncodeChar_eq]
          exact List.nil_lt_cons ..
  | cons c text ih =>
      cases other with
      | nil => cases lt
      | cons d other =>
          rw [List.flatMap_cons, List.flatMap_cons]
          rcases List.cons_lt_cons_iff.mp lt with less | ⟨rfl, behind⟩
          · exact utf8EncodeChar_append_lt less _ _
          · exact List.append_left_lt (ih behind)

/-- Texts are in the order of their bytes just if they are in the order of their characters. -/
theorem bytes_lt_bytes_iff {text other : String} :
    Percent.bytes text < Percent.bytes other ↔ text < other := by
  have forward {text other : String} (lt : text < other) :
      Percent.bytes text < Percent.bytes other := by
    rw [bytes_eq, bytes_eq]
    exact flatMap_utf8EncodeChar_lt lt
  constructor
  · intro lt
    rcases Std.lt_trichotomy text other with less | rfl | greater
    · exact less
    · exact absurd lt (List.lt_irrefl _)
    · exact absurd lt (List.lt_asymm (forward greater))
  · exact forward

end EndpointResolution.Text.Utf8
