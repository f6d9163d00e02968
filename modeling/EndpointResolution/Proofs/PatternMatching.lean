import EndpointResolution.Proofs.PatternInstances

/-!
Matching finds just the instances of a pattern. The matcher goes from all places where an instance
may begin at once and keeps one of several places of the same position. A repetition without an
upper bound ends, since only a step that passes a character leads to a new place.
-/

namespace EndpointResolution

namespace Place

variable {chars : List Char} {p q : Place}

theorem mem_allFrom_iff {front rest : List Char} :
    p ∈ allFrom front.length front.getLast? rest ↔ ∃ more, rest = more ++ p.rest ∧
      p.position = (front ++ more).length ∧ p.previous = (front ++ more).getLast? := by
  induction rest generalizing front with
  | nil =>
      rw [allFrom, List.mem_singleton]
      constructor
      · rintro rfl
        exact ⟨[], rfl, by simp, by simp⟩
      · rintro ⟨more, whole, position, previous⟩
        obtain ⟨rfl, none⟩ := List.append_eq_nil_iff.mp whole.symm
        exact Place.ext (by simpa using position) (by simpa using previous) none
  | cons c rest ih =>
      have next := @ih (front ++ [c])
      rw [List.length_append, List.length_singleton, List.getLast?_concat] at next
      rw [allFrom, List.mem_cons, next]
      constructor
      · rintro (rfl | ⟨more, rfl, position, previous⟩)
        · exact ⟨[], rfl, by simp, by simp⟩
        · exact ⟨c :: more, rfl, by simpa using position, by simpa using previous⟩
      · rintro ⟨more, whole, position, previous⟩
        cases more with
        | nil =>
            left
            exact Place.ext (by simpa using position) (by simpa using previous) whole.symm
        | cons d more =>
            rw [List.cons_append, List.cons.injEq] at whole
            obtain ⟨rfl, rfl⟩ := whole
            exact .inr ⟨more, rfl, by simpa using position, by simpa using previous⟩

theorem mem_all_iff {text : String} : p ∈ all text ↔ p.LiesIn text.toList := by
  have start := @mem_allFrom_iff p [] text.toList
  simpa [all, LiesIn] using start

/-- All of the places lie in the text. -/
def AllLieIn (chars : List Char) (places : List Place) : Prop := ∀ p ∈ places, p.LiesIn chars

theorem isIn_iff {places : List Place} (each : AllLieIn chars places) (h : q.LiesIn chars) :
    q.isIn places = true ↔ q ∈ places := by
  rw [isIn, List.any_eq_true]
  constructor
  · rintro ⟨p, member, same⟩
    exact (each p member).eq_of_position h (of_decide_eq_true same) ▸ member
  · intro member
    exact ⟨q, member, decide_eq_true rfl⟩

theorem mem_union_iff {places others : List Place} (each : AllLieIn chars places)
    (each' : AllLieIn chars others) : q ∈ union places others ↔ q ∈ places ∨ q ∈ others := by
  rw [union, List.mem_append, List.mem_filter]
  constructor
  · rintro (here | ⟨there, -⟩)
    · exact .inl here
    · exact .inr there
  · rintro (here | there)
    · exact .inl here
    · by_cases here : q ∈ places
      · exact .inl here
      · refine .inr ⟨there, ?_⟩
        simpa [← isIn_iff each (each' q there)] using here

end Place

namespace Pattern

/-- From places of the text, what is found are the places that the steps lead to. -/
def Finds (chars : List Char) (find : List Place → List Place) (step : Place → Place → Prop) :
    Prop :=
  ∀ places, Place.AllLieIn chars places → ∀ q, q ∈ find places ↔ ∃ p ∈ places, step p q

section Matching

variable {chars : List Char} {find : List Place → List Place} {step : Place → Place → Prop}
  {places : List Place}

theorem Finds.allLieIn (finds : Finds chars find step) (goes : Goes step)
    (each : Place.AllLieIn chars places) : Place.AllLieIn chars (find places) := by
  intro q member
  obtain ⟨p, present, here⟩ := (finds places each q).mp member
  exact goes.liesIn here (each p present)

/-- To stop at a fixed point leaves out only steps that change nothing. -/
theorem exactly_succ (find : List Place → List Place) (n : Nat) (places : List Place) :
    exactly find (n + 1) places = exactly find n (find places) := by
  rw [exactly]
  split
  · next fixed =>
      rw [fixed]
      cases n with
      | zero => rfl
      | succ n => simp only [exactly, fixed, if_true]
  · rfl

theorem Finds.exactly (finds : Finds chars find step) (goes : Goes step) (n : Nat) :
    Finds chars (exactly find n) (Times step n) := by
  induction n with
  | zero => simp [Finds, Pattern.exactly, Times]
  | succ n ih =>
      intro places each q
      rw [exactly_succ, ih _ (finds.allLieIn goes each)]
      simp only [finds places each, Times]
      constructor
      · rintro ⟨next, ⟨p, member, here⟩, behind⟩
        exact ⟨p, member, next, here, behind⟩
      · rintro ⟨p, member, next, here, behind⟩
        exact ⟨next, ⟨p, member, here⟩, behind⟩

/-- The places that the latest ones lead to and that have not been reached before. -/
def unseen (find : List Place → List Place) (reached latest : List Place) : List Place :=
  (find latest).filter fun place => !place.isIn reached

theorem Finds.mem_unseen (finds : Finds chars find step) (goes : Goes step)
    {reached latest : List Place} (each : Place.AllLieIn chars reached)
    (sub : ∀ p ∈ latest, p ∈ reached) (q : Place) :
    q ∈ unseen find reached latest ↔ (∃ p ∈ latest, step p q) ∧ q ∉ reached := by
  rw [unseen, List.mem_filter, finds latest fun p late => each p (sub p late)]
  refine and_congr_right fun ⟨p, late, here⟩ => ?_
  simp [← Place.isIn_iff each (goes.liesIn here (each p (sub p late)))]

theorem within_nil (find : List Place → List Place) (n : Nat) (reached : List Place) :
    within find n reached [] = reached := by
  cases n with
  | zero => rfl
  | succ n => rfl

theorem Finds.within_succ (finds : Finds chars find step) (n : Nat) (reached latest : List Place) :
    within find (n + 1) reached latest =
      within find n (unseen find reached latest ++ reached) (unseen find reached latest) := by
  cases latest with
  | nil =>
      have none : find [] = [] := by
        refine List.eq_nil_iff_forall_not_mem.mpr fun q member => ?_
        obtain ⟨p, absent, -⟩ := (finds [] (by simp [Place.AllLieIn]) q).mp member
        cases absent
      rw [unseen, none, List.filter_nil, List.nil_append, within_nil, within_nil]
  | cons first others => rfl

/-- Steps from all places but the latest have been taken. -/
def Taken (step : Place → Place → Prop) (reached latest : List Place) : Prop :=
  ∀ p ∈ reached, p ∈ latest ∨ ∀ q, step p q → q ∈ reached

/-- As long as steps from all places but the latest have been taken, no place that steps lead to is
missed. -/
theorem Finds.within (finds : Finds chars find step) (goes : Goes step) (n : Nat)
    {reached latest : List Place} (each : Place.AllLieIn chars reached)
    (sub : ∀ p ∈ latest, p ∈ reached) (taken : Taken step reached latest) (q : Place) :
    q ∈ within find n reached latest ↔ ∃ k ≤ n, ∃ p ∈ reached, Times step k p q := by
  induction n generalizing reached latest with
  | zero => simp [Pattern.within, Times]
  | succ n ih =>
      have mem_new := finds.mem_unseen goes each sub
      -- a step from a place that is not among the latest ones was taken before
      have mem_next (p : Place) (member : p ∈ reached) (q : Place) (here : step p q) :
          q ∈ unseen find reached latest ++ reached := by
        rw [List.mem_append, mem_new]
        by_cases old : q ∈ reached
        · exact .inr old
        · rcases taken p member with late | done
          · exact .inl ⟨⟨p, late, here⟩, old⟩
          · exact absurd (done q here) old
      have each' : Place.AllLieIn chars (unseen find reached latest ++ reached) := by
        intro p member
        rcases List.mem_append.mp member with new | old
        · obtain ⟨⟨r, late, here⟩, -⟩ := (mem_new p).mp new
          exact goes.liesIn here (each r (sub r late))
        · exact each p old
      have taken' : Taken step (unseen find reached latest ++ reached)
          (unseen find reached latest) :=
        fun p member => (List.mem_append.mp member).imp_right (mem_next p)
      rw [finds.within_succ, ih each' (fun p new => List.mem_append_left _ new) taken']
      constructor
      · rintro ⟨k, le, p, member, steps⟩
        rcases List.mem_append.mp member with new | old
        · obtain ⟨⟨r, late, here⟩, -⟩ := (mem_new p).mp new
          exact ⟨k + 1, by omega, r, sub r late, p, here, steps⟩
        · exact ⟨k, by omega, p, old, steps⟩
      · rintro ⟨k, le, p, member, steps⟩
        cases k with
        | zero => exact ⟨0, by omega, p, List.mem_append_right _ member, steps⟩
        | succ k =>
            obtain ⟨next, here, behind⟩ := steps
            exact ⟨k, by omega, next, mem_next p member next here, behind⟩

theorem length_le_longest {p : Place} (member : p ∈ places) :
    p.rest.length ≤ longest places := by
  have grows (places : List Place) (n : Nat) :
      n ≤ places.foldl (fun n place => max n place.rest.length) n ∧ ∀ p ∈ places,
        p.rest.length ≤ places.foldl (fun n place => max n place.rest.length) n := by
    induction places generalizing n with
    | nil => simp
    | cons first rest ih =>
        obtain ⟨start, behind⟩ := ih (max n first.rest.length)
        rw [List.foldl_cons, List.forall_mem_cons]
        exact ⟨by omega, by omega, behind⟩
  exact (grows places 0).2 p member

/-- Without an upper bound, as many steps are taken as there are characters left to pass. -/
theorem Goes.le_longest (goes : Goes step) (each : Place.AllLieIn chars places) {n : Nat}
    {p q : Place} (member : p ∈ places) (steps : Times step n p q) :
    ∃ k ≤ longest places, Times step k p q := by
  obtain ⟨k, short, steps'⟩ := goes.shorten steps
  have length := (each p member).length
  have length' := ((goes.times n).liesIn steps (each p member)).length
  have bound := length_le_longest member
  exact ⟨k, by omega, steps'⟩

theorem Finds.repeated {pattern : Pattern} (finds : Finds chars pattern.ends pattern.Spans)
    (atLeast : Nat) (atMost : Option Nat) : Finds chars (ends (.repeated pattern atLeast atMost))
      (Spans (.repeated pattern atLeast atMost)) := by
  intro places each q
  have goes := pattern.goes_spans
  have mem_start := finds.exactly goes atLeast places each
  have start := (finds.exactly goes atLeast).allLieIn (goes.times atLeast) each
  have reaches (more : Nat) := finds.within goes more start (fun p h => h) (fun p h => .inl h) q
  simp only [ends, reaches, mem_start, Spans]
  constructor
  · rintro ⟨k, le, p, ⟨r, member, front⟩, back⟩
    refine ⟨r, member, atLeast + k, by omega, ?_, times_add_iff.mpr ⟨p, front, back⟩⟩
    rintro limit ⟨⟩
    simp only at le
    omega
  · rintro ⟨p, member, n, le, bounded, steps⟩
    obtain ⟨k, rfl⟩ := Nat.exists_eq_add_of_le le
    obtain ⟨middle, front, back⟩ := times_add_iff.mp steps
    have present := (mem_start middle).mpr ⟨p, member, front⟩
    cases atMost with
    | none =>
        obtain ⟨k', le', back'⟩ := goes.le_longest start present back
        exact ⟨k', le', middle, ⟨p, member, front⟩, back'⟩
    | some limit =>
        have bound := bounded limit rfl
        exact ⟨k, by simp only; omega, middle, ⟨p, member, front⟩, back⟩

/-- The matcher finds the ends of the instances. -/
theorem finds_ends (pattern : Pattern) : Finds chars pattern.ends pattern.Spans := by
  induction pattern with
  | empty => simp [Finds, ends, Spans]
  | char set => simp [Finds, ends, Spans]
  | anchor assertion =>
      intro places each q
      rw [ends, List.mem_filter]
      simp only [Spans]
      constructor
      · rintro ⟨member, holds⟩
        exact ⟨q, member, rfl, holds⟩
      · rintro ⟨p, member, rfl, holds⟩
        exact ⟨member, holds⟩
  | seq first second ih ih' =>
      intro places each q
      rw [ends, ih' _ (ih.allLieIn first.goes_spans each)]
      simp only [ih places each, Spans]
      constructor
      · rintro ⟨middle, ⟨p, member, front⟩, back⟩
        exact ⟨p, member, middle, front, back⟩
      · rintro ⟨p, member, middle, front, back⟩
        exact ⟨middle, ⟨p, member, front⟩, back⟩
  | either first second ih ih' =>
      intro places each q
      rw [ends, Place.mem_union_iff (ih.allLieIn first.goes_spans each)
        (ih'.allLieIn second.goes_spans each), ih places each, ih' places each]
      simp only [Spans]
      constructor
      · rintro (⟨p, member, here⟩ | ⟨p, member, there⟩)
        · exact ⟨p, member, .inl here⟩
        · exact ⟨p, member, .inr there⟩
      · rintro ⟨p, member, here | there⟩
        · exact .inl ⟨p, member, here⟩
        · exact .inr ⟨p, member, there⟩
  | repeated pattern atLeast atMost ih => exact ih.repeated atLeast atMost

end Matching

/-- A pattern occurs in a text just if an instance leads from one place of the text to another. -/
theorem occursIn_iff {pattern : Pattern} {text : String} : pattern.occursIn text = true ↔
    ∃ p q, p.LiesIn text.toList ∧ pattern.Spans p q := by
  have each : Place.AllLieIn text.toList (Place.all text) := fun p => Place.mem_all_iff.mp
  rw [occursIn, Bool.not_eq_true', Bool.eq_false_iff, ne_eq, List.isEmpty_iff]
  constructor
  · intro found
    obtain ⟨q, member⟩ := List.exists_mem_of_ne_nil _ found
    obtain ⟨p, present, spans⟩ := (pattern.finds_ends _ each q).mp member
    exact ⟨p, q, each p present, spans⟩
  · rintro ⟨p, q, inside, spans⟩
    have member := (pattern.finds_ends _ each q).mpr ⟨p, Place.mem_all_iff.mpr inside, spans⟩
    exact List.ne_nil_of_mem member

/-- Anchored at both ends, a pattern has to span the whole text. -/
theorem occursIn_anchored_iff {patterns : List Pattern} {text : String} :
    (sequence (textStart :: (patterns ++ [textEnd]))).occursIn text = true ↔
      (sequence patterns).Spans (.start text) (.stop text) := by
  rw [occursIn_iff]
  simp only [spans_sequence_cons, spans_sequence_append, spans_sequence_nil, textStart, textEnd,
    Spans, Assertion.holdsAt]
  constructor
  · rintro ⟨p, q, inside, _, ⟨rfl, first⟩, middle, spans, _, ⟨rfl, last⟩, rfl⟩
    obtain rfl := inside.eq_start (Option.isNone_iff_eq_none.mp first)
    have inside' := ((sequence patterns).goes_spans).liesIn spans inside
    obtain rfl := inside'.eq_stop (List.isEmpty_iff.mp last)
    exact spans
  · intro spans
    exact ⟨_, _, .start text, _, ⟨rfl, rfl⟩, _, spans, _, ⟨rfl, rfl⟩, rfl⟩

end Pattern

end EndpointResolution
