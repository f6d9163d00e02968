import EndpointResolution.Pattern.Automaton
import EndpointResolution.Proofs.ByteSpans

/-!
How much room the automata of patterns take. A step takes at most so much room if it succeeds
wherever there is as much left, and what it takes adds up over several steps. For a set of
characters the room follows from the pieces of its runs: each byte of a piece adds at most one state
and one edge, some of them only later, when the piece leaves the path. So patterns of few runs are
small enough, whatever states they share.
-/

namespace EndpointResolution

open Text.Utf8 (Span)

namespace Ranges

/-- A bound on the pieces that runs are cut into. -/
def pieceBound : List (Nat × Nat) → Nat
  | [] => 0
  | run :: rest => max 1 (min 28 (run.2 + 1 - run.1)) + pieceBound rest

theorem pieceBound_append (runs more : List (Nat × Nat)) :
    pieceBound (runs ++ more) = pieceBound runs + pieceBound more := by
  induction runs with
  | nil => exact (Nat.zero_add _).symm
  | cons run rest ih => rw [List.cons_append, pieceBound, pieceBound, ih, Nat.add_assoc]

theorem pieceBound_eq_of_perm {runs more : List (Nat × Nat)} (h : runs.Perm more) :
    pieceBound runs = pieceBound more := by
  induction h with
  | nil => rfl
  | cons run _ ih => rw [pieceBound, pieceBound, ih]
  | swap run next rest => simp only [pieceBound, Nat.add_left_comm]
  | trans _ _ ih ih' => exact ih.trans ih'

theorem length_le_pieceBound (runs : List (Nat × Nat)) : runs.length ≤ pieceBound runs := by
  induction runs with
  | nil => exact Nat.le_refl 0
  | cons run rest ih =>
      rw [List.length_cons, pieceBound]
      omega

theorem length_ofRanges_le (ranges : Ranges) :
    (Text.Utf8.ofRanges ranges).length ≤ pieceBound ranges.runs := by
  rw [Text.Utf8.ofRanges]
  induction ranges.runs with
  | nil => exact Nat.le_refl 0
  | cons run rest ih =>
      rw [List.flatMap_cons, List.length_append, pieceBound]
      exact Nat.add_le_add (Text.Utf8.length_pieces_le run.1 run.2) ih

theorem pieceBound_go_le (run : Nat × Nat) (rest : List (Nat × Nat)) :
    pieceBound (join.go run rest) ≤ pieceBound (run :: rest) := by
  induction rest generalizing run with
  | nil => exact Nat.le_refl _
  | cons next rest ih =>
      rw [join.go]
      split
      · refine Nat.le_trans (ih _) ?_
        simp only [pieceBound]
        omega
      · rw [pieceBound, pieceBound]
        exact Nat.add_le_add_left (ih next) _

theorem pieceBound_ofRuns_le (runs : List (Nat × Nat)) :
    pieceBound (ofRuns runs).runs ≤ pieceBound runs := by
  have same : pieceBound (runs.mergeSort fun a b => a.1 ≤ b.1) = pieceBound runs :=
    pieceBound_eq_of_perm (List.mergeSort_perm ..)
  rw [← same, ofRuns]
  cases runs.mergeSort fun a b => a.1 ≤ b.1 with
  | nil => exact Nat.le_refl _
  | cons run rest => exact pieceBound_go_le run rest

theorem pieceBound_unions_le {sets : List Ranges} {bounds : List Nat}
    (h : List.Forall₂ (fun set most => pieceBound set.runs ≤ most) sets bounds) :
    pieceBound (unions sets).runs ≤ bounds.foldr (· + ·) 0 := by
  refine Nat.le_trans (pieceBound_ofRuns_le _) ?_
  induction h with
  | nil => exact Nat.le_refl 0
  | cons head _ ih =>
      rw [List.flatMap_cons, pieceBound_append, List.foldr_cons]
      exact Nat.add_le_add head ih

theorem pieceBound_union_le {a b : Ranges} {most more : Nat} (h : pieceBound a.runs ≤ most)
    (h' : pieceBound b.runs ≤ more) : pieceBound (a.union b).runs ≤ most + more := by
  refine Nat.le_trans (pieceBound_ofRuns_le _) ?_
  rw [pieceBound_append]
  exact Nat.add_le_add h h'

theorem pieceBound_ofText_le {chars : List Char} {most : Nat}
    (counted : pieceBound (runsOf chars) ≤ most) :
    pieceBound (ofText (String.ofList chars)).runs ≤ most := by
  rw [ofText, String.toList_ofList]
  exact Nat.le_trans (pieceBound_ofRuns_le _) counted

end Ranges

namespace Pattern.Automaton

/-- Where there is as much room left, the step succeeds and takes no more than that. -/
def Takes (room : Nat) (step : Automaton → Option Automaton) : Prop :=
  ∀ automaton, automaton.size + room ≤ sizeLimit →
    ∃ next, step automaton = some next ∧ next.size ≤ automaton.size + room

theorem exists_add? (automaton : Automaton) (states edges : Nat)
    (fits : automaton.size + (stateSize * states + edges) ≤ sizeLimit) :
    ∃ next, automaton.add? states edges = some next ∧
      next.size ≤ automaton.size + (stateSize * states + edges) := by
  have larger : (⟨automaton.states + states, automaton.edges + edges⟩ : Automaton).size =
      automaton.size + (stateSize * states + edges) := by
    simp only [size, Nat.mul_add]
    omega
  exact ⟨_, if_pos (Nat.le_trans (Nat.le_of_eq larger) fits), Nat.le_of_eq larger⟩

theorem takes_add? (states edges : Nat) :
    Takes (stateSize * states + edges) fun automaton => automaton.add? states edges :=
  fun automaton => exists_add? automaton states edges

namespace Takes

variable {room more : Nat} {step other : Automaton → Option Automaton}

theorem mono (h : Takes room step) (le : room ≤ more) : Takes more step := by
  intro automaton fits
  obtain ⟨next, done, small⟩ := h automaton (by omega)
  exact ⟨next, done, by omega⟩

theorem bind (h : Takes room step) (h' : Takes more other) :
    Takes (room + more) fun automaton => step automaton >>= other := by
  intro automaton fits
  obtain ⟨next, done, small⟩ := h automaton (by omega)
  obtain ⟨last, done', small'⟩ := h' next (by omega)
  exact ⟨last, by simp [done, done'], by omega⟩

end Takes

/-- Steps that take so much room each take as many times that, whatever is built up by them. -/
theorem exists_foldlM {α σ : Type} (size : σ → Nat) {step : σ → α → Option σ} {items : List α}
    {room : Nat} (each : ∀ item ∈ items, ∀ state, size state + room ≤ sizeLimit →
      ∃ next, step state item = some next ∧ size next ≤ size state + room)
    (state : σ) (fits : size state + room * items.length ≤ sizeLimit) :
    ∃ last, items.foldlM step state = some last ∧
      size last ≤ size state + room * items.length := by
  induction items generalizing state with
  | nil => exact ⟨state, rfl, Nat.le_refl _⟩
  | cons item rest ih =>
      rw [List.length_cons, Nat.mul_succ] at fits ⊢
      obtain ⟨next, done, small⟩ := each item List.mem_cons_self state (by omega)
      obtain ⟨last, others, small'⟩ :=
        ih (fun item inside => each item (List.mem_cons_of_mem _ inside)) next (by omega)
      refine ⟨last, ?_, by omega⟩
      rw [List.foldlM_cons, done]
      exact others

/-- The room for a path when it is completed. -/
def pathRoom : List Open → Nat
  | [] => 0
  | state :: deeper =>
      stateSize + edgeSize * (state.edges.length + state.last.toList.length) + pathRoom deeper

/-- The room that is taken when the path of a building is completed, too. -/
def sizeWithPath (state : List Open × Building) : Nat :=
  state.2.automaton.size + pathRoom state.1

theorem pathRoom_map_last (spans : List Span) :
    pathRoom (spans.map fun span => { last := some span }) =
      (stateSize + edgeSize) * spans.length := by
  induction spans with
  | nil => rfl
  | cons span rest ih =>
      rw [List.map_cons, pathRoom, ih, List.length_cons, Nat.mul_succ, Nat.add_comm]
      rfl

theorem exists_state? (building : Building) (edges : List Edge)
    (fits : building.automaton.size + (stateSize + edgeSize * edges.length) ≤ sizeLimit) :
    ∃ number next, building.state? edges = some (number, next) ∧
      next.automaton.size ≤ building.automaton.size + (stateSize + edgeSize * edges.length) := by
  rw [Building.state?]
  split
  · exact ⟨_, building, rfl, Nat.le_add_right ..⟩
  · obtain ⟨automaton, added, small⟩ := exists_add? _ 1 _ fits
    exact ⟨building.automaton.states, ⟨automaton, _⟩, by rw [added]; rfl, small⟩

theorem length_close (state : Open) (next : Nat) :
    (state.close next).length = state.edges.length + state.last.toList.length := by
  rw [Open.close]
  cases state.last <;> rfl

theorem exists_finish? (building : Building) (target : Nat) (path : List Open)
    (fits : building.automaton.size + pathRoom path ≤ sizeLimit) :
    ∃ number next, building.finish? target path = some (number, next) ∧
      next.automaton.size ≤ building.automaton.size + pathRoom path := by
  induction path with
  | nil => exact ⟨target, building, rfl, Nat.le_refl _⟩
  | cons state deeper ih =>
      rw [pathRoom] at fits ⊢
      obtain ⟨number, next, finished, small⟩ := ih (by omega)
      obtain ⟨first, last, made, small'⟩ := exists_state? next (state.close number)
        (by rw [length_close]; omega)
      rw [length_close] at small'
      exact ⟨first, last, by simp [Building.finish?, finished, made], by omega⟩

/-- A piece leaves the path where it differs, and what is left of the old one is completed. -/
theorem exists_piece? (building : Building) (target : Nat) (path : List Open) (piece : List Span)
    (fits : building.automaton.size + pathRoom path + (stateSize + edgeSize) * piece.length ≤
      sizeLimit) :
    ∃ path' next, building.piece? target path piece = some (path', next) ∧
      next.automaton.size + pathRoom path' ≤
        building.automaton.size + pathRoom path + (stateSize + edgeSize) * piece.length := by
  fun_induction Building.piece? building target path piece with
  | case1 state deeper span spans same ih =>
      rw [pathRoom] at fits ⊢
      rw [List.length_cons, Nat.mul_succ] at fits ⊢
      obtain ⟨path, next, read, small⟩ := ih (by omega)
      refine ⟨state :: path, next, by rw [read]; rfl, ?_⟩
      rw [pathRoom]
      omega
  | case2 state deeper span spans other =>
      rw [pathRoom] at fits ⊢
      rw [List.length_cons, Nat.mul_succ] at fits ⊢
      obtain ⟨number, next, finished, small⟩ := exists_finish? building target deeper (by omega)
      refine ⟨_, next, by rw [finished]; rfl, ?_⟩
      rw [pathRoom, length_close, pathRoom_map_last]
      simp only [Option.toList_some, List.length_singleton]
      simp only [edgeSize, stateSize] at *
      omega
  | case3 => exact ⟨_, _, rfl, Nat.le_add_right ..⟩

/-- The room that a set takes whose runs are cut into so many pieces of four bytes. -/
def setRoom (pieces : Nat) : Nat := 2 * stateSize + 4 * (stateSize + edgeSize) * pieces

theorem setRoom_mono {pieces more : Nat} (le : pieces ≤ more) : setRoom pieces ≤ setRoom more :=
  Nat.add_le_add_left (Nat.mul_le_mul_left _ le) _

theorem takes_addSetForward? (pieces : List (List Span))
    (short : ∀ piece ∈ pieces, piece.length ≤ 4) :
    Takes (setRoom pieces.length) fun automaton => addSetForward? automaton pieces := by
  intro automaton fits
  rw [setRoom] at fits ⊢
  obtain ⟨start, added, small⟩ := exists_add? automaton 1 0 (by omega)
  have each : ∀ piece ∈ pieces, ∀ state,
      sizeWithPath state + 4 * (stateSize + edgeSize) ≤ sizeLimit →
      ∃ next, state.2.piece? automaton.states state.1 piece = some next ∧
        sizeWithPath next ≤ sizeWithPath state + 4 * (stateSize + edgeSize) := by
    intro piece inside state room
    have bytes : (stateSize + edgeSize) * piece.length ≤ 4 * (stateSize + edgeSize) := by
      rw [Nat.mul_comm]
      exact Nat.mul_le_mul_right _ (short piece inside)
    rw [sizeWithPath] at room ⊢
    obtain ⟨path, next, read, small⟩ :=
      exists_piece? state.2 automaton.states state.1 piece (by omega)
    exact ⟨(path, next), read, by simp only [sizeWithPath]; omega⟩
  have root : sizeWithPath ([{}], { automaton := start }) = start.size + stateSize := rfl
  obtain ⟨⟨path, next⟩, read, small'⟩ :=
    exists_foldlM sizeWithPath each ([{}], { automaton := start }) (by rw [root]; omega)
  rw [root] at small'
  simp only [sizeWithPath] at small'
  obtain ⟨number, last, finished, small''⟩ := exists_finish? next automaton.states path (by omega)
  refine ⟨last.automaton, ?_, by omega⟩
  simp only [addSetForward?, added, Option.bind_eq_bind, Option.bind_some]
  exact Option.bind_eq_some_iff.mpr ⟨(path, next), read, by rw [finished]; rfl⟩

theorem exists_chainLink? (chains : Chains) (next : Nat) (span : Span)
    (fits : chains.1.size + stateSize ≤ sizeLimit) :
    ∃ number behind, chainLink? chains next span = some (number, behind) ∧
      behind.1.size ≤ chains.1.size + stateSize := by
  rw [chainLink?]
  split
  · exact ⟨_, chains, rfl, Nat.le_add_right ..⟩
  · obtain ⟨automaton, added, small⟩ := exists_add? _ 1 0 fits
    exact ⟨_, (automaton, _), by rw [added]; rfl, small⟩

theorem exists_chain? (chains : Chains) (next : Nat) (piece : List Span)
    (fits : chains.1.size + (stateSize * piece.length + branchSize) ≤ sizeLimit) :
    ∃ behind, chain? chains next piece = some behind ∧
      behind.1.size ≤ chains.1.size + (stateSize * piece.length + branchSize) := by
  induction piece generalizing chains next with
  | nil =>
      obtain ⟨automaton, added, small⟩ := exists_add? _ 0 branchSize fits
      exact ⟨(automaton, chains.2), by rw [chain?, added]; rfl, small⟩
  | cons span spans ih =>
      rw [List.length_cons, Nat.mul_succ] at fits ⊢
      obtain ⟨number, behind, linked, small⟩ := exists_chainLink? chains next span (by omega)
      obtain ⟨last, others, small'⟩ := ih behind number (by omega)
      refine ⟨last, ?_, by omega⟩
      rw [chain?, linked]
      exact others

theorem takes_addSetBackward? (pieces : List (List Span))
    (short : ∀ piece ∈ pieces, piece.length ≤ 4) :
    Takes (setRoom pieces.length) fun automaton => addSetBackward? automaton pieces := by
  intro automaton fits
  rw [setRoom] at fits ⊢
  obtain ⟨start, added, small⟩ := exists_add? automaton 2 0 (by omega)
  have each : ∀ piece ∈ pieces, ∀ chains : Chains,
      chains.1.size + 4 * (stateSize + edgeSize) ≤ sizeLimit →
      ∃ behind, chain? chains (automaton.states + 1) piece = some behind ∧
        behind.1.size ≤ chains.1.size + 4 * (stateSize + edgeSize) := by
    intro piece inside chains room
    have bytes : stateSize * piece.length + branchSize ≤ 4 * (stateSize + edgeSize) := by
      have four := short piece inside
      simp only [stateSize, branchSize, edgeSize]
      omega
    obtain ⟨behind, read, small⟩ := exists_chain? chains (automaton.states + 1) piece (by omega)
    exact ⟨behind, read, by omega⟩
  obtain ⟨last, read, small'⟩ := exists_foldlM (fun chains : Chains => chains.1.size) each
    (start, ∅) (by simp only; omega)
  refine ⟨last.1, ?_, by simp only at small'; omega⟩
  simp only [addSetBackward?, added, Option.bind_eq_bind, Option.bind_some, read]
  rfl

theorem takes_addSet? (order : ReadingOrder) (ranges : Ranges) :
    Takes (setRoom (Ranges.pieceBound ranges.runs)) fun automaton =>
      addSet? order automaton ranges := by
  have runs := Ranges.length_le_pieceBound ranges.runs
  have pieces := Ranges.length_ofRanges_le ranges
  have short : ∀ piece ∈ Text.Utf8.ofRanges ranges, piece.length ≤ 4 := by
    intro piece member
    obtain ⟨run, -, inside⟩ := List.mem_flatMap.mp member
    exact Text.Utf8.length_le_of_mem_pieces inside
  cases ascii : isAscii ranges with
  | true =>
      simp only [addSet?, ascii, if_pos]
      refine (takes_add? 2 _).mono ?_
      simp only [setRoom, stateSize, edgeSize]
      omega
  | false =>
      have room : setRoom (Text.Utf8.ofRanges ranges).length ≤
          setRoom (Ranges.pieceBound ranges.runs) := setRoom_mono pieces
      cases order with
      | forward => simpa [addSet?, ascii] using (takes_addSetForward? _ short).mono room
      | backward => simpa [addSet?, ascii] using (takes_addSetBackward? _ short).mono room

end Pattern.Automaton

namespace Pattern.Shape

open Automaton

/-- The shape takes no more room than this, in whichever order it is read. -/
def Takes (room : Nat) (shape : Shape) : Prop :=
  ∀ order, Automaton.Takes room fun automaton => addShape? order automaton shape

variable {room more : Nat} {shape : Shape}

theorem Takes.mono (h : Takes room shape) (le : room ≤ more) : Takes more shape :=
  fun order => (h order).mono le

theorem takes_anchor (assertion : Assertion) : Takes stateSize (.anchor assertion) := by
  intro order
  simpa [addShape?] using takes_add? 1 0

theorem takes_text (chars : List Char) : Takes (stateSize * (utf8 chars).length) (.text chars) := by
  intro order
  simpa [addShape?] using takes_add? (utf8 chars).length 0

theorem length_utf8_singleton_le (c : Char) : (utf8 [c]).length ≤ 4 := by
  simpa [utf8, String.length_utf8EncodeChar] using Char.utf8Size_le_four c

theorem takes_ofSet (ranges : Ranges) :
    Takes (setRoom (Ranges.pieceBound ranges.runs)) (ofSet ranges) := by
  have set : Takes (setRoom (Ranges.pieceBound ranges.runs)) (.set ranges) := by
    intro order
    simpa [addShape?] using takes_addSet? order ranges
  rw [ofSet]
  split
  · next first last runs =>
      split
      · intro order
        refine (takes_text [Char.ofNat first] order).mono ?_
        have bytes := length_utf8_singleton_le (Char.ofNat first)
        have one := Ranges.length_le_pieceBound ranges.runs
        rw [runs] at one ⊢
        simp only [setRoom, stateSize, edgeSize]
        simp only [List.length_singleton] at one
        omega
      · exact set
  · exact set

theorem times?_one (step : Automaton → Option Automaton) : times? step 1 = step := by
  funext automaton
  rw [times?]
  cases step automaton <;> rfl

theorem Takes.many1 (h : Takes room shape) :
    Takes (room + (stateSize + 2 * branchSize)) (.repeated shape 1 none) := by
  intro order
  simpa [addShape?, repeat?, times?_one] using (h order).bind (takes_add? 1 (2 * branchSize))

theorem Takes.capture (h : Takes room shape) :
    Takes (stateSize + (room + stateSize)) (.capture shape) := by
  intro order
  cases order with
  | forward =>
      simpa [addShape?] using (takes_add? 1 0).bind ((h .forward).bind (takes_add? 1 0))
  | backward =>
      have less : room ≤ stateSize + (room + stateSize) := by omega
      simpa [addShape?] using (h .backward).mono less

theorem takes_texts {texts : List (List Char)}
    (h : ∀ order, Automaton.Takes room fun automaton => addTexts? order automaton texts) :
    Takes room (.choice (texts.map .text)) := by
  have read : (texts.map Shape.text).mapM text? = some texts := by
    rw [List.mapM_map]
    exact List.mapM_pure.trans (congrArg some texts.map_id)
  intro order
  simpa [addShape?, read] using h order

theorem takes_sequence_nil : Takes 0 (.sequence []) := by
  intro order automaton fits
  cases order <;> exact ⟨automaton, rfl, Nat.le_refl _⟩

theorem takes_sequence_cons {rest : List Shape} (h : Takes room shape)
    (h' : Takes more (.sequence rest)) : Takes (room + more) (.sequence (shape :: rest)) := by
  intro order
  cases order with
  | forward => simpa [addShape?, addForward?] using (h .forward).bind (h' .forward)
  | backward =>
      rw [Nat.add_comm]
      simpa [addShape?, addBackward?] using (h' .backward).bind (h .backward)

theorem size_searchStates_le (order : ReadingOrder) (shape : Shape) :
    (searchStates order shape).size ≤ 112 := by
  cases order <;> simp only [searchStates] <;> split <;> decide

/-- What comes before a pattern and behind it takes little room. -/
theorem isSmall_of_takes (h : Takes room shape) (fits : room + 256 ≤ sizeLimit) :
    shape.isSmall = true := by
  have forward := (h.capture .forward).bind (takes_add? 1 0)
  have backward := (h .backward).bind (takes_add? 1 0)
  have start := size_searchStates_le .forward shape
  have start' := size_searchStates_le .backward shape
  simp only [stateSize] at forward backward
  obtain ⟨next, done, -⟩ := forward (searchStates .forward shape) (by omega)
  obtain ⟨next', done', -⟩ := backward (searchStates .backward shape) (by omega)
  rw [isSmall, ofShape?, ofShape?]
  simp only [done, done']
  rfl

end Pattern.Shape

end EndpointResolution
