import EndpointResolution.Text.Utf8
import Mathlib.Tactic.Common

/-!
How many pieces a run of code points is cut into. Codes of one number of bytes are cut where blocks
begin: one of the two parts is a piece by itself, and the other one begins or ends with a block now.
There are three sizes of blocks, so that happens six times at most, and there are four numbers of
bytes.
-/

namespace EndpointResolution.Text.Utf8

variable {first last cut block : Nat}

/-- The codes of a run have one number of bytes. -/
def SameLength (first last : Nat) : Prop := ∀ bound ∈ lengthBounds, first ≤ bound → last ≤ bound

/-- A run lies inside of one block, or fills blocks. -/
def Whole (block first last : Nat) : Prop :=
  first / block = last / block ∨ (block ∣ first ∧ block ∣ last + 1)

/-- The sizes of blocks of which none begins at the code. -/
def looseness (code : Nat) : Nat := blocks.countP fun block => ¬ block ∣ code

namespace SameLength

theorem front (same : SameLength first last) (inside : first ≤ cut ∧ cut < last) :
    SameLength first cut :=
  fun bound member low => Nat.le_trans (Nat.le_of_lt inside.2) (same bound member low)

theorem back (same : SameLength first last) (inside : first ≤ cut ∧ cut < last) :
    SameLength (cut + 1) last :=
  fun bound member low => same bound member (by omega)

theorem cut?_eq (same : SameLength first last) :
    cut? first last = if last < 128 then none else blocks.findSome? (blockCut? first last) := by
  have none : (lengthBounds.find? fun bound => first ≤ bound && bound < last) = none := by
    rw [List.find?_eq_none]
    intro bound member
    simpa using same bound member
  rw [cut?, none]

end SameLength

theorem dvd_of_mem_blocks : ∀ small ∈ blocks, ∀ large ∈ blocks, small ≤ large → small ∣ large := by
  decide

theorem div_eq_of_dvd {small large : Nat} (divides : small ∣ large)
    (same : first / small = last / small) : first / large = last / large := by
  obtain ⟨k, rfl⟩ := divides
  rw [← Nat.div_div_eq_div_mul, ← Nat.div_div_eq_div_mul, same]

theorem blockCut?_eq_none_iff (member : block ∈ blocks) :
    blockCut? first last block = none ↔ Whole block first last := by
  have fills : last % block = block - 1 ↔ block ∣ last + 1 := by
    simp only [blocks, List.mem_cons, List.not_mem_nil, or_false] at member
    rcases member with rfl | rfl | rfl <;> omega
  rw [blockCut?, Whole, ← fills, Nat.dvd_iff_mod_eq_zero]
  split_ifs with same starts stops <;> simp_all

/-- A cut is the end of a block, and lies in one block with the end of the run that is loose. -/
theorem of_blockCut?_eq_some (member : block ∈ blocks) (ordered : first ≤ last)
    (h : blockCut? first last block = some cut) :
    first / block ≠ last / block ∧ block ∣ cut + 1 ∧
      (¬ block ∣ first ∧ first / block = cut / block ∨
        ¬ block ∣ last + 1 ∧ (cut + 1) / block = last / block) := by
  simp only [blocks, List.mem_cons, List.not_mem_nil, or_false] at member
  rw [blockCut?] at h
  split_ifs at h with same starts stops
  · cases h
    refine ⟨same, ?_, .inl ⟨?_, ?_⟩⟩ <;> rcases member with rfl | rfl | rfl <;> omega
  · cases h
    refine ⟨same, ?_, .inr ⟨?_, ?_⟩⟩ <;> rcases member with rfl | rfl | rfl <;> omega

theorem cut?_eq_none (same : SameLength first last)
    (whole : ∀ block ∈ blocks, Whole block first last) : cut? first last = none := by
  rw [same.cut?_eq, List.findSome?_eq_none_iff.mpr fun block member =>
    (blockCut?_eq_none_iff member).mpr (whole block member), ite_self]

/-- The smallest blocks that do not divide a run evenly are those that it is cut at. -/
theorem exists_block_of_cut? (same : SameLength first last) (h : cut? first last = some cut) :
    ∃ block ∈ blocks, blockCut? first last block = some cut ∧
      ∀ other ∈ blocks, other < block → Whole other first last := by
  rw [same.cut?_eq] at h
  split_ifs at h
  obtain ⟨before, block, after, listed, found, none⟩ := List.findSome?_eq_some_iff.mp h
  have ordered : blocks.Pairwise (· < ·) := by decide
  rw [listed, List.pairwise_append, List.pairwise_cons] at ordered
  refine ⟨block, by simp [listed], found, fun other member less => ?_⟩
  rw [← blockCut?_eq_none_iff member]
  rw [listed, List.mem_append, List.mem_cons] at member
  rcases member with inside | rfl | behind
  · exact none other inside
  · exact absurd less (Nat.lt_irrefl other)
  · exact absurd less (Nat.lt_asymm (ordered.2.1.1 other behind))

/-- Blocks are made up of those of the smaller sizes. -/
theorem looseness_lt {code other : Nat} (member : block ∈ blocks) (starts : block ∣ code)
    (loose : ¬ block ∣ other) : looseness code < looseness other := by
  simp only [looseness, blocks, List.countP_cons, List.countP_nil, decide_eq_true_eq]
  simp only [blocks, List.mem_cons, List.not_mem_nil, or_false] at member
  rcases member with rfl | rfl | rfl
  · have larger : ¬ 4096 ∣ other ∧ ¬ 262144 ∣ other := by omega
    grind
  · have others : 64 ∣ code ∧ ¬ 262144 ∣ other := by omega
    grind
  · have smaller : 64 ∣ code ∧ 4096 ∣ code := by omega
    grind

/-- Where a run is cut, one part is a piece by itself, and the new end of the other one is less
loose than the old one. -/
theorem looseness_of_cut? (same : SameLength first last) (h : cut? first last = some cut)
    (inside : first ≤ cut ∧ cut < last) :
    cut? first cut = none ∧ looseness (cut + 1) < looseness first ∨
      cut? (cut + 1) last = none ∧ looseness (cut + 1) < looseness (last + 1) := by
  obtain ⟨block, member, found, smaller⟩ := exists_block_of_cut? same h
  have ordered : first ≤ last := Nat.le_of_lt (Nat.lt_of_le_of_lt inside.1 inside.2)
  obtain ⟨apart, fills, part⟩ := of_blockCut?_eq_some member ordered found
  -- Smaller blocks divide the run evenly, for it is not inside of one of them.
  have even : ∀ other ∈ blocks, other < block →
      other ∣ first ∧ other ∣ cut + 1 ∧ other ∣ last + 1 := by
    intro other present less
    have divides := dvd_of_mem_blocks other present block member (Nat.le_of_lt less)
    have ends := (smaller other present less).resolve_left fun same =>
      apart (div_eq_of_dvd divides same)
    exact ⟨ends.1, Nat.dvd_trans divides fills, ends.2⟩
  rcases part with ⟨loose, near⟩ | ⟨loose, near⟩
  · refine .inl ⟨cut?_eq_none (same.front inside) fun other present => ?_,
      looseness_lt member fills loose⟩
    rcases Nat.lt_or_ge other block with less | more
    · exact .inr ⟨(even other present less).1, (even other present less).2.1⟩
    · exact .inl (div_eq_of_dvd (dvd_of_mem_blocks block member other present more) near)
  · refine .inr ⟨cut?_eq_none (same.back inside) fun other present => ?_,
      looseness_lt member fills loose⟩
    rcases Nat.lt_or_ge other block with less | more
    · exact .inr (even other present less).2
    · exact .inl (div_eq_of_dvd (dvd_of_mem_blocks block member other present more) near)

theorem length_pieces_of_cut?_eq_none (h : cut? first last = none) :
    (pieces first last).length = 1 := by
  rw [pieces, h]
  rfl

theorem length_pieces_le_of_sameLength (same : SameLength first last) :
    (pieces first last).length ≤ 1 + looseness first + looseness (last + 1) := by
  fun_induction pieces first last with
  | case1 first last cut h inside ih ih' =>
      rw [List.length_append]
      rcases looseness_of_cut? same h inside with ⟨whole, less⟩ | ⟨whole, less⟩
      · have rest := ih' (same.back inside)
        rw [length_pieces_of_cut?_eq_none whole]
        omega
      · have rest := ih (same.front inside)
        rw [length_pieces_of_cut?_eq_none whole]
        omega
  | case2 | case3 => simp [Nat.add_assoc]

/-- The numbers of bytes that codes of a run take, not counting the least of them. -/
def crossings (first last : Nat) : Nat :=
  lengthBounds.countP fun bound => first ≤ bound && bound < last

theorem sameLength_iff : SameLength first last ↔ crossings first last = 0 := by
  rw [crossings, List.countP_eq_zero, SameLength]
  exact forall₂_congr fun bound _ => by simp

/-- A run whose codes differ in length is cut behind those of the least length. -/
theorem crossings_of_cut? (other : ¬ SameLength first last) (h : cut? first last = some cut) :
    SameLength first cut ∧ crossings (cut + 1) last < crossings first last := by
  cases found : lengthBounds.find? fun bound => first ≤ bound && bound < last with
  | none =>
      refine absurd (fun bound member low => ?_) other
      simpa [low] using List.find?_eq_none.mp found bound member
  | some bound =>
      rw [cut?, found] at h
      cases h
      obtain ⟨crossed, before, after, listed, passed⟩ := List.find?_eq_some_iff_append.mp found
      have ordered : lengthBounds.Pairwise (· < ·) := by decide
      rw [listed, List.pairwise_append, List.pairwise_cons] at ordered
      simp only [Bool.and_eq_true, decide_eq_true_eq] at crossed
      constructor
      · intro bound member low
        rw [listed, List.mem_append, List.mem_cons] at member
        rcases member with inside | rfl | behind
        · have less := ordered.2.2 bound inside cut List.mem_cons_self
          have beyond : last ≤ bound := by simpa [low] using passed bound inside
          omega
        · exact Nat.le_refl _
        · exact Nat.le_of_lt (ordered.2.1.1 bound behind)
      · have none : before.countP (fun bound => cut + 1 ≤ bound && bound < last) = 0 := by
          refine List.countP_eq_zero.mpr fun bound inside => ?_
          have less := ordered.2.2 bound inside cut List.mem_cons_self
          simp only [Bool.and_eq_true, decide_eq_true_eq]
          omega
        have fewer : after.countP (fun bound => cut + 1 ≤ bound && bound < last) ≤
            after.countP fun bound => first ≤ bound && bound < last := by
          refine List.countP_mono_left fun bound _ => ?_
          simp only [Bool.and_eq_true, decide_eq_true_eq]
          omega
        have own : decide (cut + 1 ≤ cut) = false := decide_eq_false (Nat.not_succ_le_self cut)
        have counted : (decide (first ≤ cut) && decide (cut < last)) = true := by
          simpa using crossed
        rw [crossings, crossings, listed, List.countP_append, List.countP_append, none,
          List.countP_cons, List.countP_cons, own, counted, Bool.false_and,
          if_neg Bool.false_ne_true, if_pos rfl]
        omega

theorem pieces_of_cut? (h : cut? first last = some cut) (inside : first ≤ cut ∧ cut < last) :
    pieces first last = pieces first cut ++ pieces (cut + 1) last := by
  rw [pieces, h]
  exact dif_pos inside

theorem length_pieces_le_of_crossings (first last : Nat) :
    (pieces first last).length ≤ 7 * (crossings first last + 1) := by
  fun_induction pieces first last with
  | case1 first last cut h inside ih ih' =>
      by_cases same : SameLength first last
      · have most := length_pieces_le_of_sameLength same
        have start : looseness first ≤ 3 := List.countP_le_length
        have stop : looseness (last + 1) ≤ 3 := List.countP_le_length
        rw [pieces_of_cut? h inside] at most
        omega
      · obtain ⟨front, fewer⟩ := crossings_of_cut? same h
        rw [sameLength_iff.mp front] at ih
        rw [List.length_append]
        omega
  | case2 | case3 => simp only [List.length_singleton]; omega

theorem length_pieces_le_codes (first last : Nat) :
    (pieces first last).length ≤ max 1 (last + 1 - first) := by
  fun_induction pieces first last with
  | case1 first last cut h inside ih ih' =>
      rw [List.length_append]
      omega
  | case2 | case3 => exact Nat.le_max_left ..

/-- A run is cut into few pieces, and into no more than it has codes. -/
theorem length_pieces_le (first last : Nat) :
    (pieces first last).length ≤ max 1 (min 28 (last + 1 - first)) := by
  have most := length_pieces_le_of_crossings first last
  have three : crossings first last ≤ 3 := List.countP_le_length
  have codes := length_pieces_le_codes first last
  omega

theorem length_spans_le (first last : Nat) : (spans first last).length ≤ 4 := by
  rw [spans, List.length_zipWith, String.length_utf8EncodeChar]
  exact Nat.le_trans (Nat.min_le_left ..) (Char.utf8Size_le_four _)

theorem length_le_of_mem_pieces {piece : List Span} (member : piece ∈ pieces first last) :
    piece.length ≤ 4 := by
  fun_induction pieces first last with
  | case1 first last cut h inside ih ih' =>
      exact (List.mem_append.mp member).elim ih ih'
  | case2 | case3 =>
      rw [List.mem_singleton.mp member]
      exact length_spans_le _ _

end EndpointResolution.Text.Utf8
