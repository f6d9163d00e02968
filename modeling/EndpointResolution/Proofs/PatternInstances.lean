import EndpointResolution.Pattern

/-!
Instances of patterns. An instance leads from one place of a text to another one, which is not in
front of it; those of a pattern are told from those of its parts.
-/

namespace EndpointResolution

attribute [ext] Place

namespace Place

/-- The place lies in the text. -/
def LiesIn (chars : List Char) (place : Place) : Prop :=
  ∃ front, chars = front ++ place.rest ∧ place.position = front.length ∧
    place.previous = front.getLast?

/-- The second place is the one behind these characters. -/
def Passes (passed : List Char) (place behind : Place) : Prop :=
  place.rest = passed ++ behind.rest ∧ behind.position = place.position + passed.length ∧
    behind.previous = passed.getLast?.or place.previous

variable {chars : List Char} {p q : Place}

/-- The position tells a place from the others of the text. -/
theorem LiesIn.eq_of_position (h : p.LiesIn chars) (h' : q.LiesIn chars)
    (same : p.position = q.position) : p = q := by
  obtain ⟨front, whole, position, previous⟩ := h
  obtain ⟨front', whole', position', previous'⟩ := h'
  have long : front.length = front'.length := by omega
  obtain ⟨rfl, rest⟩ := List.append_inj (whole.symm.trans whole') long
  exact Place.ext same (previous.trans previous'.symm) rest

theorem LiesIn.length (h : p.LiesIn chars) : p.position + p.rest.length = chars.length := by
  obtain ⟨front, rfl, position, -⟩ := h
  simp [position]

theorem Passes.nil (p : Place) : p.Passes [] p := by simp [Passes]

theorem passes_append_iff {front back : List Char} :
    p.Passes (front ++ back) q ↔ ∃ middle, p.Passes front middle ∧ middle.Passes back q := by
  constructor
  · rintro ⟨rest, position, previous⟩
    refine ⟨⟨p.position + front.length, front.getLast?.or p.previous, back ++ q.rest⟩, ?_, ?_⟩
    · exact ⟨by simp [rest], rfl, rfl⟩
    · exact ⟨rfl, by simp [position, Nat.add_assoc], by simp [previous, Option.or_assoc]⟩
  · rintro ⟨middle, ⟨rest, position, previous⟩, rest', position', previous'⟩
    refine ⟨by simp [rest, rest'], ?_, ?_⟩
    · simp [position, position', Nat.add_assoc]
    · simp [previous, previous', Option.or_assoc]

theorem passes_cons_iff {c : Char} {rest : List Char} :
    p.Passes (c :: rest) q ↔ ∃ middle, p.Passes [c] middle ∧ middle.Passes rest q := by
  rw [← List.singleton_append, passes_append_iff]

theorem Passes.append {front back : List Char} {middle : Place} (h : p.Passes front middle)
    (h' : middle.Passes back q) : p.Passes (front ++ back) q :=
  passes_append_iff.mpr ⟨middle, h, h'⟩

theorem Passes.liesIn {passed : List Char} (h : p.Passes passed q) (inside : p.LiesIn chars) :
    q.LiesIn chars := by
  obtain ⟨front, whole, position, previous⟩ := inside
  obtain ⟨rest, position', previous'⟩ := h
  refine ⟨front ++ passed, by simp [whole, rest], by simp [position, position'], ?_⟩
  rw [previous', previous, List.getLast?_append]

theorem Passes.eq_of_nil (h : p.Passes [] q) : p = q := by
  obtain ⟨rest, position, previous⟩ := h
  exact Place.ext position.symm (by simp [previous]) rest

theorem Passes.eq_or_lt {passed : List Char} (h : p.Passes passed q) :
    p = q ∨ p.position < q.position := by
  cases passed with
  | nil => exact .inl h.eq_of_nil
  | cons c passed =>
      obtain ⟨-, position, -⟩ := h
      rw [position, List.length_cons]
      exact .inr (by omega)

/-- The place in front of a text. -/
def start (text : String) : Place := ⟨0, none, text.toList⟩

/-- The place behind a text. -/
def stop (text : String) : Place := ⟨text.toList.length, text.toList.getLast?, []⟩

theorem LiesIn.start (text : String) : (start text).LiesIn text.toList := ⟨[], rfl, rfl, rfl⟩

theorem LiesIn.eq_start {text : String} (h : p.LiesIn text.toList) (first : p.previous = none) :
    p = .start text := by
  obtain ⟨front, whole, position, previous⟩ := h
  obtain rfl := List.getLast?_eq_none_iff.mp (previous.symm.trans first)
  exact Place.ext position first whole.symm

theorem LiesIn.eq_stop {text : String} (h : p.LiesIn text.toList) (last : p.rest = []) :
    p = .stop text := by
  obtain ⟨front, whole, position, previous⟩ := h
  rw [last, List.append_nil] at whole
  rw [← whole] at position previous
  exact Place.ext position previous last

theorem passes_start_stop_iff {text : String} {passed : List Char} :
    (start text).Passes passed (stop text) ↔ text.toList = passed := by
  constructor
  · rintro ⟨rest, -, -⟩
    simpa [start, stop] using rest
  · intro whole
    simp [Passes, start, stop, whole]

theorem advance?_eq_some_iff {set : CharSet} :
    p.advance? set = some q ↔ ∃ c, set.contains c = true ∧ p.Passes [c] q := by
  obtain ⟨position, previous, rest⟩ := p
  cases rest with
  | nil => simp [advance?, Passes]
  | cons c rest =>
      rw [advance?, Option.ite_none_right_eq_some, Option.some.injEq]
      cases q
      simp only [Passes, mk.injEq, List.cons_append, List.nil_append, List.cons.injEq,
        List.length_singleton, List.getLast?_singleton, Option.some_or]
      constructor
      · rintro ⟨member, rfl, rfl, rfl⟩
        exact ⟨c, member, ⟨rfl, rfl⟩, rfl, rfl⟩
      · rintro ⟨_, member, ⟨rfl, rfl⟩, rfl, rfl⟩
        exact ⟨member, rfl, rfl, rfl⟩

end Place

namespace Pattern

/-- So many steps lead from one place to the other. -/
def Times (step : Place → Place → Prop) : Nat → Place → Place → Prop
  | 0, p, q => p = q
  | n + 1, p, q => ∃ next, step p next ∧ Times step n next q

/-- An instance of the pattern leads from one place to the other. -/
def Spans : Pattern → Place → Place → Prop
  | .empty, p, q => p = q
  | .char set, p, q => p.advance? set = some q
  | .anchor assertion, p, q => p = q ∧ assertion.holdsAt p = true
  | .seq first second, p, q => ∃ middle, first.Spans p middle ∧ second.Spans middle q
  | .either first second, p, q => first.Spans p q ∨ second.Spans p q
  | .repeated pattern atLeast atMost, p, q =>
      ∃ n, atLeast ≤ n ∧ (∀ limit ∈ atMost, n ≤ max atLeast limit) ∧ Times pattern.Spans n p q

/-- A step goes on in the text. -/
def Goes (step : Place → Place → Prop) : Prop :=
  ∀ p q, step p q → ∃ passed, p.Passes passed q

section Steps

variable {step : Place → Place → Prop} {chars : List Char} {p q : Place}

theorem times_add_iff {m n : Nat} :
    Times step (m + n) p q ↔ ∃ middle, Times step m p middle ∧ Times step n middle q := by
  induction m generalizing p with
  | zero => simp [Times]
  | succ m ih =>
      rw [Nat.succ_add, Times]
      constructor
      · rintro ⟨next, here, behind⟩
        obtain ⟨middle, front, back⟩ := ih.mp behind
        exact ⟨middle, ⟨next, here, front⟩, back⟩
      · rintro ⟨middle, ⟨next, here, front⟩, back⟩
        exact ⟨next, here, ih.mpr ⟨middle, front, back⟩⟩

theorem Goes.times (goes : Goes step) (n : Nat) : Goes (Times step n) := by
  induction n with
  | zero =>
      rintro p q rfl
      exact ⟨[], .nil p⟩
  | succ n ih =>
      rintro p q ⟨next, here, behind⟩
      obtain ⟨front, passes⟩ := goes p next here
      obtain ⟨back, passes'⟩ := ih next q behind
      exact ⟨front ++ back, passes.append passes'⟩

theorem Goes.liesIn (goes : Goes step) (h : step p q) (inside : p.LiesIn chars) :
    q.LiesIn chars := by
  obtain ⟨passed, passes⟩ := goes p q h
  exact passes.liesIn inside

theorem Goes.eq_or_lt (goes : Goes step) (h : step p q) : p = q ∨ p.position < q.position := by
  obtain ⟨passed, passes⟩ := goes p q h
  exact passes.eq_or_lt

/-- Steps that stay where they are can be left out. -/
theorem Goes.shorten (goes : Goes step) {n : Nat} (h : Times step n p q) :
    ∃ k, p.position + k ≤ q.position ∧ Times step k p q := by
  induction n generalizing p with
  | zero => exact ⟨0, by cases h; simp, h⟩
  | succ n ih =>
      obtain ⟨next, here, behind⟩ := h
      obtain ⟨k, short, steps⟩ := ih behind
      rcases goes.eq_or_lt here with rfl | lt
      · exact ⟨k, short, steps⟩
      · exact ⟨k + 1, by omega, next, here, steps⟩

end Steps

theorem goes_spans (pattern : Pattern) : Goes pattern.Spans := by
  induction pattern with
  | empty =>
      rintro p q rfl
      exact ⟨[], .nil p⟩
  | char set =>
      intro p q h
      obtain ⟨c, -, passes⟩ := Place.advance?_eq_some_iff.mp h
      exact ⟨[c], passes⟩
  | anchor assertion =>
      rintro p q ⟨rfl, -⟩
      exact ⟨[], .nil p⟩
  | seq first second ih ih' =>
      rintro p q ⟨middle, front, back⟩
      obtain ⟨passed, passes⟩ := ih p middle front
      obtain ⟨more, passes'⟩ := ih' middle q back
      exact ⟨passed ++ more, passes.append passes'⟩
  | either first second ih ih' =>
      rintro p q (here | there)
      · exact ih p q here
      · exact ih' p q there
  | repeated pattern atLeast atMost ih =>
      rintro p q ⟨n, -, -, steps⟩
      exact ih.times n p q steps

section Building

variable {p q : Place}

@[simp] theorem spans_sequence_nil : (sequence []).Spans p q ↔ p = q := Iff.rfl

@[simp] theorem spans_sequence_cons {first : Pattern} {rest : List Pattern} :
    (sequence (first :: rest)).Spans p q ↔
      ∃ middle, first.Spans p middle ∧ (sequence rest).Spans middle q :=
  Iff.rfl

theorem spans_sequence_append {front back : List Pattern} :
    (sequence (front ++ back)).Spans p q ↔
      ∃ middle, (sequence front).Spans p middle ∧ (sequence back).Spans middle q := by
  induction front generalizing p with
  | nil => simp
  | cons first rest ih =>
      simp only [List.cons_append, spans_sequence_cons, ih]
      constructor
      · rintro ⟨next, here, middle, behind, others⟩
        exact ⟨middle, ⟨next, here, behind⟩, others⟩
      · rintro ⟨middle, ⟨next, here, behind⟩, others⟩
        exact ⟨next, here, middle, behind, others⟩

theorem spans_literal {c : Char} : (literal c).Spans p q ↔ p.Passes [c] q := by
  simp [literal, Spans, Place.advance?_eq_some_iff, CharSet.contains]

theorem spans_text {chars : String} : (text chars).Spans p q ↔ p.Passes chars.toList q := by
  rw [text]
  induction chars.toList generalizing p with
  | nil =>
      rw [List.map_nil, spans_sequence_nil]
      constructor
      · rintro rfl
        exact .nil p
      · intro passes
        exact passes.eq_of_nil
  | cons c rest ih =>
      rw [List.map_cons, spans_sequence_cons, Place.passes_cons_iff]
      simp only [spans_literal, ih]

theorem spans_oneOf {patterns : List Pattern} :
    (oneOf patterns).Spans p q ↔ ∃ pattern ∈ patterns, pattern.Spans p q := by
  induction patterns with
  | nil => simp [oneOf, Spans, Place.advance?_eq_some_iff, CharSet.contains]
  | cons first rest ih =>
      cases rest with
      | nil => simp [oneOf]
      | cons second others => simp [oneOf, Spans, ih]

theorem times_advance {set : CharSet} {n : Nat} :
    Times (fun p q => p.advance? set = some q) n p q ↔ ∃ passed, passed.length = n ∧
      (∀ c ∈ passed, set.contains c = true) ∧ p.Passes passed q := by
  induction n generalizing p with
  | zero =>
      simp only [Times, List.length_eq_zero_iff]
      constructor
      · rintro rfl
        exact ⟨[], rfl, by simp, .nil p⟩
      · rintro ⟨_, rfl, -, passes⟩
        exact passes.eq_of_nil
  | succ n ih =>
      simp only [Times, ih]
      simp only [Place.advance?_eq_some_iff]
      constructor
      · rintro ⟨next, ⟨c, member, here⟩, passed, rfl, members, behind⟩
        exact ⟨c :: passed, rfl, by simpa using ⟨member, members⟩, here.append behind⟩
      · rintro ⟨passed, length, members, passes⟩
        obtain ⟨c, rest, rfl⟩ := List.exists_cons_of_length_eq_add_one length
        rw [List.forall_mem_cons] at members
        obtain ⟨next, here, behind⟩ := Place.passes_cons_iff.mp passes
        exact ⟨next, ⟨c, members.1, here⟩, rest, by simpa using length, members.2, behind⟩

theorem spans_many1 {set : CharSet} : (many1 set).Spans p q ↔
    ∃ passed, passed ≠ [] ∧ (∀ c ∈ passed, set.contains c = true) ∧ p.Passes passed q := by
  simp only [many1, Spans, times_advance]
  constructor
  · rintro ⟨n, le, -, passed, rfl, members, passes⟩
    exact ⟨passed, List.ne_nil_of_length_pos le, members, passes⟩
  · rintro ⟨passed, nonempty, members, passes⟩
    exact ⟨passed.length, List.length_pos_iff.mpr nonempty, by simp, passed, rfl, members, passes⟩

end Building

end Pattern

end EndpointResolution
