import EndpointResolution.Proofs.FunctionResults

/-!
The grammar of paths in use. A lookup in a record or in a list is refused for its path just if the
path is not of the grammar, and then it is the path that is named. Any steps that can be written are
read back from each text that they are written as, and no others are read from any text.
-/

namespace EndpointResolution.AttributePath

def Step.Writable : Step → Prop
  | .key name => IsKey name.toList
  | .index n => n < positionBound

instance : (step : Step) → Decidable step.Writable
  | .key name => inferInstanceAs (Decidable (IsKey name.toList))
  | .index n => inferInstanceAs (Decidable (n < positionBound))

/-- A name comes first, names are without dots and opening brackets, and positions are machine
words. -/
structure Writable (steps : List Step) : Prop where
  named : ∃ name rest, steps = .key name :: rest
  each : ∀ step ∈ steps, step.Writable

def bracketed (n : Nat) : List Char := '[' :: (toString n).toList ++ [']']

/-- There is a dot in front of each step but the first one, and it may be left out where a position
comes behind a name. -/
inductive WrittenAs : List Step → List Char → Prop
  | first (name : String) : WrittenAs [.key name] name.toList
  | key {steps : List Step} {text : List Char} (front : WrittenAs steps text) (name : String) :
      WrittenAs (steps ++ [.key name]) (text ++ '.' :: name.toList)
  | index {steps : List Step} {text : List Char} (front : WrittenAs steps text) (n : Nat) :
      WrittenAs (steps ++ [.index n]) (text ++ '.' :: bracketed n)
  | attached {steps : List Step} {name : String} {text : List Char}
      (front : WrittenAs (steps ++ [.key name]) text) (n : Nat) :
      WrittenAs (steps ++ [.key name] ++ [.index n]) (text ++ bracketed n)

theorem WrittenAs.exists_append {steps : List Step} {text : List Char} (h : WrittenAs steps text)
    (more : List Step) : ∃ longer, WrittenAs (steps ++ more) longer := by
  induction more generalizing steps text with
  | nil => exact ⟨text, by simpa using h⟩
  | cons step rest ih =>
      cases step with
      | key name => simpa using ih (h.key name)
      | index n => simpa using ih (h.index n)

theorem Writable.exists_writtenAs {steps : List Step} (h : Writable steps) :
    ∃ text : String, WrittenAs steps text.toList := by
  obtain ⟨name, rest, rfl⟩ := h.named
  obtain ⟨text, written⟩ := (WrittenAs.first name).exists_append rest
  exact ⟨String.ofList text, by simpa using written⟩

section Components

variable {first : Bool} {name : String} {n : Nat}

theorem component_key (named : IsKey name.toList) : Component first name.toList [.key name] := by
  simpa using @Component.key first _ named

theorem component_keyIndex (named : IsKey name.toList) (small : n < positionBound) :
    Component first (name.toList ++ bracketed n) [.key name, .index n] := by
  simpa [bracketed] using @Component.keyIndex first _ _ _ named (numeral_toString small)

theorem component_index (small : n < positionBound) : Component false (bracketed n) [.index n] :=
  .index (numeral_toString small)

end Components

/-- With a name at its end, the text may also go on with a position. -/
theorem WrittenAs.spells {steps : List Step} {text : List Char} (h : WrittenAs steps text)
    (each : ∀ step ∈ steps, step.Writable) :
    Spells text ⟨steps⟩ ∧ ∀ front name n, steps = front ++ [.key name] → n < positionBound →
      Spells (text ++ bracketed n) ⟨steps ++ [.index n]⟩ := by
  induction h with
  | first name =>
      have named : IsKey name.toList := each (.key name) (by simp)
      exact ⟨spells_of_component (component_key named), fun _ _ n _ small =>
        spells_of_component (component_keyIndex named small)⟩
  | @key steps text front name ih =>
      have named : IsKey name.toList := each (.key name) (by simp)
      obtain ⟨spelled, -⟩ := ih fun step member => each step (List.mem_append_left _ member)
      refine ⟨spelled.append_component (component_key named), fun _ _ n _ small => ?_⟩
      simpa using spelled.append_component (component_keyIndex named small)
  | @index steps text front n ih =>
      have small : n < positionBound := each (.index n) (by simp)
      obtain ⟨spelled, -⟩ := ih fun step member => each step (List.mem_append_left _ member)
      refine ⟨spelled.append_component (component_index small), fun _ _ _ ends => ?_⟩
      simpa using congrArg List.getLast? ends
  | @attached steps name text front n ih =>
      have small : n < positionBound := each (.index n) (by simp)
      obtain ⟨-, joined⟩ := ih fun step member => each step (List.mem_append_left _ member)
      refine ⟨joined steps name n rfl small, fun _ _ _ ends => ?_⟩
      simpa using congrArg List.getLast? ends

theorem WrittenAs.parse {steps : List Step} {text : String} (h : WrittenAs steps text.toList)
    (each : ∀ step ∈ steps, step.Writable) : AttributePath.parse text = .ok ⟨steps⟩ :=
  parse_eq_ok_iff.mpr (h.spells each).1

theorem Component.writable {first : Bool} {text : List Char} {steps : List Step}
    (h : Component first text steps) : ∀ step ∈ steps, step.Writable := by
  cases h with
  | key named => simpa [Step.Writable] using named
  | keyIndex named position => simpa [Step.Writable] using ⟨named, position.small⟩
  | index position => simpa [Step.Writable] using position.small

theorem Components.writable {first : Bool} {parts : List (List Char)} {steps : List Step}
    (h : Components first parts steps) : ∀ step ∈ steps, step.Writable := by
  induction h with
  | nil => simp
  | cons component others ih =>
      intro step member
      rcases List.mem_append.mp member with own | behind
      · exact component.writable step own
      · exact ih step behind

theorem Spells.writable {text : List Char} {path : AttributePath} (h : Spells text path) :
    Writable path.steps := by
  have named := h.exists_key
  obtain ⟨parts, -, -, spelled⟩ := h
  exact ⟨named, spelled.writable⟩

theorem writable_iff_exists_parse {steps : List Step} :
    Writable steps ↔ ∃ text, AttributePath.parse text = .ok ⟨steps⟩ := by
  constructor
  · intro writable
    obtain ⟨text, written⟩ := writable.exists_writtenAs
    exact ⟨text, written.parse writable.each⟩
  · rintro ⟨text, read⟩
    exact (parse_eq_ok_iff.mp read).writable

/-- A lookup in a record or in a list is refused as part of a malformed rule set just if its path is
not of the grammar. The steps that are read from texts are those that can be written, and they are
read from each text that they are written as. -/
theorem getAttr_takes_written_paths :
    (∀ value text, value.kind = .record ∨ value.kind = .array →
      ((∃ defect, Function.apply .getAttr [value, .string text] =
          .error (.invalidRuleSet defect)) ↔ ¬ WellFormed text.toList) ∧
      (¬ WellFormed text.toList → Function.apply .getAttr [value, .string text] =
        .error (.invalidRuleSet (.attributePath text)))) ∧
    ∀ steps, (Writable steps ↔ ∃ text, AttributePath.parse text = .ok ⟨steps⟩) ∧
      (Writable steps → (∃ text : String, WrittenAs steps text.toList) ∧
        ∀ text : String, WrittenAs steps text.toList → AttributePath.parse text = .ok ⟨steps⟩) := by
  refine ⟨fun value text kind => ?_, fun steps => ⟨writable_iff_exists_parse, fun writable =>
    ⟨writable.exists_writtenAs, fun text written => written.parse writable.each⟩⟩⟩
  have taken : value.kind ∈ Function.indexable := by simpa [Function.indexable] using kind
  have refused := @Function.apply_getAttr_of_not_wellFormed _ taken text
  refine ⟨⟨?_, fun malformed => ⟨_, refused malformed⟩⟩, refused⟩
  rintro ⟨defect, fails⟩ wellFormed
  obtain ⟨path, spelled⟩ := wellFormed
  rw [Function.apply_getAttr taken (parse_eq_ok_iff.mpr spelled)] at fails
  cases follow_astray path.steps value _ fails

/-- A position one past the greatest one, and a text with a position on its own. -/
theorem getAttr_takes_written_paths_of_positions :
    Function.apply .getAttr [.array [], .string "a[18446744073709551616]"] =
        .error (.invalidRuleSet (.attributePath "a[18446744073709551616]")) ∧
      AttributePath.parse "a[7].[0].b]" =
        .ok ⟨[.key "a", .index 7, .index 0, .key "b]"]⟩ := by
  obtain ⟨lookups, steps⟩ := getAttr_takes_written_paths
  have malformed : ¬ WellFormed "a[18446744073709551616]".toList := by
    intro wellFormed
    obtain ⟨path, read⟩ := wellFormed_iff.mp wellFormed
    have unread : parse? "a[18446744073709551616]" = none := by decide +kernel
    rw [unread] at read
    cases read
  have writable : Writable [.key "a", .index 7, .index 0, .key "b]"] :=
    ⟨⟨_, _, rfl⟩, by decide⟩
  have written : WrittenAs [.key "a", .index 7, .index 0, .key "b]"] "a[7].[0].b]".toList :=
    ((@WrittenAs.attached [] "a" _ (.first "a") 7).index 0).key "b]"
  exact ⟨(lookups _ _ (.inr rfl)).2 malformed, ((steps _).2 writable).2 _ written⟩

end EndpointResolution.AttributePath
