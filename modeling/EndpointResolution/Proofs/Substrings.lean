import EndpointResolution.Function.Apply
import Mathlib.Data.List.Basic

/-!
Pieces of texts by position. There is one just if the text is ASCII and the range lies inside of it
and is not empty. It is as long as the range, and as much of the text lies in front of it, or behind
it where positions are counted backwards, as the range leaves out. To count backwards is to count
forwards in the reversed text.
-/

namespace EndpointResolution

namespace Text

/-- The text is ASCII, and the range is inside of it and not empty. -/
structure Encloses (text : String) (start stop : Int64) : Prop where
  ascii : ∀ c ∈ text.toList, c.toNat < 128
  nonneg : 0 ≤ start.toInt
  order : start.toInt < stop.toInt
  fits : stop.toInt ≤ text.length

/-- The piece is as long as the range, and so far from the front of the text, or from its back, as
the range starts. -/
structure CutsOut (text : String) (start stop : Int64) (backwards : Bool) (piece : String) :
    Prop where
  length : (piece.length : Int) = stop.toInt - start.toInt
  around : ∃ front back, text = front ++ piece ++ back ∧
    ((if backwards then back else front).length : Int) = start.toInt

def reversed (text : String) : String := String.ofList text.toList.reverse

section Slices

variable {chars : List Char} {start stop : Nat}

/-- Counting backwards is counting forwards from the other end. -/
theorem slice_backwards (order : start ≤ stop) (fits : stop ≤ chars.length) :
    slice chars start stop true = (slice chars.reverse start stop false).reverse := by
  have kept : chars.length - start - (stop - start) = chars.length - stop := by omega
  have width : chars.length - start - (chars.length - stop) = stop - start := by omega
  simp only [slice, if_true, Bool.false_eq_true, if_false]
  rw [List.drop_reverse, List.take_reverse, List.reverse_reverse, List.length_take,
    Nat.min_eq_left (Nat.sub_le _ _), kept, List.drop_take, width]

theorem exists_slice_forwards (order : start ≤ stop) (fits : stop ≤ chars.length) :
    ∃ front back, chars = front ++ slice chars start stop false ++ back ∧ front.length = start ∧
      (slice chars start stop false).length = stop - start := by
  have behind : (chars.drop start).drop (stop - start) = chars.drop stop := by
    rw [List.drop_drop, Nat.add_sub_cancel' order]
  refine ⟨chars.take start, chars.drop stop, ?_, ?_, ?_⟩
  · rw [slice, if_neg (by decide), ← behind, List.append_assoc, List.take_append_drop,
      List.take_append_drop]
  · rw [List.length_take]
    omega
  · rw [slice, if_neg (by decide), List.length_take, List.length_drop]
    omega

/-- A slice is cut out of the text, and begins as far from one end of it as it should. -/
theorem exists_slice (order : start ≤ stop) (fits : stop ≤ chars.length) (backwards : Bool) :
    ∃ front back, chars = front ++ slice chars start stop backwards ++ back ∧
      (if backwards then back else front).length = start ∧
      (slice chars start stop backwards).length = stop - start := by
  cases backwards with
  | false => exact exists_slice_forwards order fits
  | true =>
      obtain ⟨front, back, whole, before, width⟩ :=
        exists_slice_forwards order (chars.length_reverse.symm ▸ fits)
      rw [slice_backwards order fits]
      refine ⟨back.reverse, front.reverse, ?_, ?_, ?_⟩
      · have turned := congrArg List.reverse whole
        simpa [List.append_assoc] using turned
      · rw [if_pos rfl, List.length_reverse, before]
      · rw [List.length_reverse, width]

end Slices

section

variable {text piece : String} {start stop : Int64} {backwards : Bool}

theorem substring?_of_encloses (h : Encloses text start stop) :
    substring? text start stop backwards =
      some (String.ofList (slice text.toList start.toInt.toNat stop.toInt.toNat backwards)) := by
  have ascii : isAscii text.toList = true := by simpa [isAscii] using h.ascii
  exact if_pos ⟨ascii, h.nonneg, h.order, h.fits⟩

theorem substring?_of_not_encloses (h : ¬ Encloses text start stop) :
    substring? text start stop backwards = none := by
  refine if_neg ?_
  rintro ⟨ascii, nonneg, order, fits⟩
  exact h ⟨by simpa [isAscii] using ascii, nonneg, order, fits⟩

theorem Encloses.bounds (h : Encloses text start stop) :
    start.toInt.toNat ≤ stop.toInt.toNat ∧ stop.toInt.toNat ≤ text.toList.length := by
  obtain ⟨-, nonneg, order, fits⟩ := h
  rw [String.length_toList]
  omega

theorem Encloses.cutsOut (h : Encloses text start stop) (backwards : Bool) :
    CutsOut text start stop backwards
      (String.ofList (slice text.toList start.toInt.toNat stop.toInt.toNat backwards)) := by
  obtain ⟨front, back, whole, before, width⟩ := exists_slice h.bounds.1 h.bounds.2 backwards
  obtain ⟨-, nonneg, order, -⟩ := h
  generalize slice text.toList start.toInt.toNat stop.toInt.toNat backwards = piece at whole width ⊢
  refine ⟨?_, String.ofList front, String.ofList back, ?_, ?_⟩
  · rw [String.length_ofList, width]
    omega
  · simp [String.ext_iff, whole]
  · rw [← apply_ite String.ofList, String.length_ofList, before]
    omega

/-- Only one piece can be cut out. -/
theorem CutsOut.unique {other : String} (h : CutsOut text start stop backwards piece)
    (h' : CutsOut text start stop backwards other) : piece = other := by
  obtain ⟨width, front, back, whole, far⟩ := h
  obtain ⟨width', front', back', whole', far'⟩ := h'
  have same : front.toList ++ (piece.toList ++ back.toList) =
      front'.toList ++ (other.toList ++ back'.toList) := by
    simpa [String.ext_iff, List.append_assoc] using whole.symm.trans whole'
  have lengths := congrArg List.length same
  simp only [List.length_append, String.length_toList] at lengths
  have fronts : front.toList.length = front'.toList.length := by
    rw [String.length_toList, String.length_toList]
    cases backwards <;> simp at far far' <;> omega
  have pieces : piece.toList.length = other.toList.length := by
    rw [String.length_toList, String.length_toList]
    omega
  exact String.toList_injective (List.append_inj_left (List.append_inj_right same fronts) pieces)

theorem substring?_eq_some_iff : substring? text start stop backwards = some piece ↔
    Encloses text start stop ∧ CutsOut text start stop backwards piece := by
  by_cases inside : Encloses text start stop
  · have own := inside.cutsOut backwards
    rw [substring?_of_encloses inside, Option.some.injEq]
    constructor
    · rintro rfl
      exact ⟨inside, own⟩
    · exact fun cut => own.unique cut.2
  · simp [substring?_of_not_encloses inside, inside]

theorem substring?_eq_none_iff :
    substring? text start stop backwards = none ↔ ¬ Encloses text start stop := by
  by_cases inside : Encloses text start stop
  · simp [substring?_of_encloses inside, inside]
  · simp [substring?_of_not_encloses inside, inside]

theorem encloses_reversed_iff : Encloses (reversed text) start stop ↔ Encloses text start stop := by
  have same : (reversed text).length = text.length := by
    rw [reversed, String.length_ofList, List.length_reverse, String.length_toList]
  constructor
  · rintro ⟨ascii, nonneg, order, fits⟩
    exact ⟨by simpa [reversed] using ascii, nonneg, order, same ▸ fits⟩
  · rintro ⟨ascii, nonneg, order, fits⟩
    exact ⟨by simpa [reversed] using ascii, nonneg, order, same ▸ fits⟩

theorem substring?_backwards : substring? text start stop true =
    (substring? (reversed text) start stop false).map reversed := by
  by_cases inside : Encloses text start stop
  · rw [substring?_of_encloses inside, substring?_of_encloses (encloses_reversed_iff.mpr inside),
      slice_backwards inside.bounds.1 inside.bounds.2]
    simp [reversed]
  · rw [substring?_of_not_encloses inside,
      substring?_of_not_encloses (mt encloses_reversed_iff.mp inside), Option.map_none]

end

end Text

/-- Texts are turned around, anything else stays. -/
def Value.reversed : Value → Value
  | .string text => .string (Text.reversed text)
  | other => other

namespace Function

/-- A text has a piece for a range just if it is ASCII and the range is inside of it and not empty,
and what is returned for any other text or range is absence. The piece is the one that is cut out of
the text; counted backwards, it is the reversed piece of the reversed text. -/
theorem apply_substring_exact (text : String) (start stop : Int64) (backwards : Bool) :
    let arguments (text : String) (backwards : Bool) : List Value :=
      [.string text, .integer start, .integer stop, .boolean backwards]
    ((∃ piece, apply .substring (arguments text backwards) = .ok (.string piece)) ↔
      Text.Encloses text start stop) ∧
    (apply .substring (arguments text backwards) = .ok .none ↔ ¬ Text.Encloses text start stop) ∧
    (∀ piece, apply .substring (arguments text backwards) = .ok (.string piece) ↔
      Text.Encloses text start stop ∧ Text.CutsOut text start stop backwards piece) ∧
    apply .substring (arguments text true) =
      (apply .substring (arguments (Text.reversed text) false)).map Value.reversed := by
  intro arguments
  have computed (text : String) (backwards : Bool) :
      apply .substring (arguments text backwards) =
        .ok (.ofOption .string (Text.substring? text start stop backwards)) := rfl
  have returns (piece : String) :
      apply .substring (arguments text backwards) = .ok (.string piece) ↔
        Text.Encloses text start stop ∧ Text.CutsOut text start stop backwards piece := by
    rw [computed, ← Text.substring?_eq_some_iff]
    cases Text.substring? text start stop backwards <;> simp [Value.ofOption]
  refine ⟨?_, ?_, returns, ?_⟩
  · simp only [returns, exists_and_left, and_iff_left_iff_imp]
    exact fun inside => ⟨_, inside.cutsOut backwards⟩
  · rw [computed, ← @Text.substring?_eq_none_iff _ _ _ backwards]
    cases Text.substring? text start stop backwards <;> simp [Value.ofOption]
  · rw [computed, computed, Text.substring?_backwards]
    cases Text.substring? (Text.reversed text) start stop false <;> rfl

-- Seven characters in front of the last one, and a range that begins in front of the text.
example : apply .substring [.string "us-east-1", .integer 1, .integer 8, .boolean true] =
    .ok (.string "s-east-") := by decide

example : apply .substring [.string "us-east-1", .integer (-1), .integer 8, .boolean false] =
    .ok .none := by decide

end Function

end EndpointResolution
