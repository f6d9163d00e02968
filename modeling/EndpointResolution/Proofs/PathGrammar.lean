import EndpointResolution.AttributePath

/-!
The grammar of paths into values. A text is read as a path just if it is made up of components
joined by dots: names, names with a position in brackets behind them, and, but for the first,
positions in brackets alone.
-/

namespace EndpointResolution.AttributePath

/-- One or more characters that are neither dots nor opening brackets. -/
def IsKey (text : List Char) : Prop := text ≠ [] ∧ '.' ∉ text ∧ '[' ∉ text

instance (text : List Char) : Decidable (IsKey text) :=
  inferInstanceAs (Decidable (text ≠ [] ∧ '.' ∉ text ∧ '[' ∉ text))

/-- One or more digits, after a plus sign at will, whose value is a machine word. -/
def Numeral (text : List Char) (n : Nat) : Prop :=
  ∃ digits, (text = digits ∨ text = '+' :: digits) ∧ digits ≠ [] ∧ (∀ c ∈ digits, c.isDigit) ∧
    Text.digitsValue digits = n ∧ n < positionBound

/-- A component, the first one or another, and the steps that it stands for. -/
inductive Component : Bool → List Char → List Step → Prop
  | key {first : Bool} {key : List Char} (named : IsKey key) :
      Component first key [.key (String.ofList key)]
  | keyIndex {first : Bool} {key numeral : List Char} {n : Nat} (named : IsKey key)
      (position : Numeral numeral n) :
      Component first (key ++ '[' :: numeral ++ [']']) [.key (String.ofList key), .index n]
  | index {numeral : List Char} {n : Nat} (position : Numeral numeral n) :
      Component false ('[' :: numeral ++ [']']) [.index n]

inductive Components : Bool → List (List Char) → List Step → Prop
  | nil {first : Bool} : Components first [] []
  | cons {first : Bool} {text : List Char} {rest : List (List Char)} {steps more : List Step}
      (component : Component first text steps) (others : Components false rest more) :
      Components first (text :: rest) (steps ++ more)

/-- The text is made up of the components of the path. -/
def Spells (text : List Char) (path : AttributePath) : Prop :=
  ∃ parts, parts ≠ [] ∧ text = List.intercalate ['.'] parts ∧ Components true parts path.steps

def WellFormed (text : List Char) : Prop := ∃ path, Spells text path

theorem Numeral.not_mem_dot {text : List Char} {n : Nat} (h : Numeral text n) : '.' ∉ text := by
  obtain ⟨digits, spelled, -, decimal, -⟩ := h
  have noDot : '.' ∉ digits := fun member => absurd (decimal '.' member) (by decide)
  rcases spelled with rfl | rfl
  · exact noDot
  · simpa using noDot

theorem Numeral.small {text : List Char} {n : Nat} (h : Numeral text n) : n < positionBound := by
  obtain ⟨_, _, _, _, _, small⟩ := h
  exact small

/-- What is left of a position behind the sign. -/
theorem decimal_eq_some_iff {digits : List Char} {n : Nat} :
    (if digits ≠ [] ∧ digits.all Char.isDigit ∧ Text.digitsValue digits < positionBound then
      some (Text.digitsValue digits) else none) = some n ↔
      digits ≠ [] ∧ (∀ c ∈ digits, c.isDigit) ∧ Text.digitsValue digits = n ∧
        n < positionBound := by
  simp only [Option.ite_none_right_eq_some, Option.some.injEq, List.all_eq_true]
  constructor
  · rintro ⟨⟨nonempty, decimal, bound⟩, rfl⟩
    exact ⟨nonempty, decimal, rfl, bound⟩
  · rintro ⟨nonempty, decimal, rfl, bound⟩
    exact ⟨⟨nonempty, decimal, bound⟩, rfl⟩

theorem position?_eq_some_iff {text : List Char} {n : Nat} :
    position? text = some n ↔ Numeral text n := by
  unfold position?
  rw [decimal_eq_some_iff]
  constructor
  · rintro ⟨nonempty, decimal, value⟩
    refine ⟨_, ?_, nonempty, decimal, value⟩
    split
    · exact .inr rfl
    · exact .inl rfl
  · rintro ⟨digits, rfl | rfl, nonempty, decimal, value⟩
    · split
      · exact absurd (decimal '+' (by simp)) (by decide)
      · exact ⟨nonempty, decimal, value⟩
    · exact ⟨nonempty, decimal, value⟩

theorem bracketed?_eq_some_iff {text : List Char} {n : Nat} :
    bracketed? text = some n ↔ ∃ numeral, text = numeral ++ [']'] ∧ Numeral numeral n := by
  rw [bracketed?, Option.ite_none_right_eq_some, position?_eq_some_iff]
  constructor
  · rintro ⟨closed, position⟩
    obtain ⟨front, rfl⟩ := List.getLast?_eq_some_iff.mp closed
    exact ⟨front, rfl, by simpa using position⟩
  · rintro ⟨numeral, rfl, position⟩
    exact ⟨by simp, by simpa using position⟩

/-- A component without a bracket is a name. -/
theorem component?_of_not_mem (first : Bool) {text : List Char} (plain : '[' ∉ text) :
    component? first text = if text = [] then none else some [.key (String.ofList text)] := by
  have passes : ∀ c ∈ text, (decide (c ≠ '[')) = true := by
    intro c member
    simpa using fun eq : c = '[' => plain (eq ▸ member)
  have keeps : text.takeWhile (· ≠ '[') = text := by
    have whole : (text ++ []).takeWhile (· ≠ '[') = text ++ [].takeWhile (· ≠ '[') :=
      List.takeWhile_append_of_pos passes
    simpa using whole
  have drops : text.dropWhile (· ≠ '[') = [] := by
    have whole : (text ++ []).dropWhile (· ≠ '[') = [].dropWhile (· ≠ '[') :=
      List.dropWhile_append_of_pos passes
    simpa using whole
  simp only [component?, keeps, drops]

/-- A component with a bracket has a position from there on, and a name in front, if anything. -/
theorem component?_bracket (first : Bool) {key : List Char} (plain : '[' ∉ key)
    (rest : List Char) :
    component? first (key ++ '[' :: rest) = (bracketed? rest).bind fun n =>
      if key = [] then if first then none else some [.index n]
      else some [.key (String.ofList key), .index n] := by
  have passes : ∀ c ∈ key, (decide (c ≠ '[')) = true := by
    intro c member
    simpa using fun eq : c = '[' => plain (eq ▸ member)
  have keeps : (key ++ '[' :: rest).takeWhile (· ≠ '[') = key := by
    rw [List.takeWhile_append_of_pos passes, List.takeWhile_cons_of_neg (by simp), List.append_nil]
  have drops : (key ++ '[' :: rest).dropWhile (· ≠ '[') = '[' :: rest := by
    rw [List.dropWhile_append_of_pos passes, List.dropWhile_cons_of_neg (by simp)]
  cases inside : bracketed? rest with
  | none => simp only [component?, drops, inside, Option.bind_none]
  | some n => simp only [component?, keeps, drops, inside, Option.bind_some]

theorem component?_eq_some_iff (first : Bool) {text : List Char} (oneOf : '.' ∉ text)
    {steps : List Step} : component? first text = some steps ↔ Component first text steps := by
  constructor
  · intro read
    by_cases bracket : '[' ∈ text
    · obtain ⟨key, rest, rfl, plain⟩ := List.eq_append_cons_of_mem bracket
      rw [component?_bracket first plain] at read
      cases inside : bracketed? rest with
      | none => simp [inside] at read
      | some n =>
          obtain ⟨numeral, rfl, position⟩ := bracketed?_eq_some_iff.mp inside
          by_cases empty : key = []
          · subst empty
            cases first with
            | true => simp [inside] at read
            | false =>
                have single : [.index n] = steps := by simpa [inside] using read
                exact single ▸ .index position
          · have named : IsKey key := ⟨empty, fun dot => oneOf (by simp [dot]), plain⟩
            have both : [.key (String.ofList key), .index n] = steps := by
              simpa [inside, empty] using read
            have spelled : Component first (key ++ '[' :: numeral ++ [']'])
              [.key (String.ofList key), .index n] := .keyIndex named position
            rw [← both]
            simpa using spelled
    · rw [component?_of_not_mem first bracket, Option.ite_none_left_eq_some] at read
      obtain ⟨nonempty, single⟩ := read
      cases single
      exact .key ⟨nonempty, oneOf, bracket⟩
  · intro spelled
    cases spelled with
    | key named => rw [component?_of_not_mem first named.2.2, if_neg named.1]
    | @keyIndex _ key numeral n named position =>
        have inside := bracketed?_eq_some_iff.mpr ⟨numeral, rfl, position⟩
        rw [List.append_assoc, List.cons_append, component?_bracket first named.2.2]
        simp [inside, named.1]
    | @index numeral n position =>
        have inside := bracketed?_eq_some_iff.mpr ⟨numeral, rfl, position⟩
        have alone := component?_bracket false List.not_mem_nil (numeral ++ [']'])
        simpa [inside] using alone

theorem components?_eq_some_iff {parts : List (List Char)} (oneOf : ∀ part ∈ parts, '.' ∉ part)
    {first : Bool} {steps : List Step} :
    components? first parts = some steps ↔ Components first parts steps := by
  induction parts generalizing first steps with
  | nil =>
      constructor
      · rintro ⟨⟩
        exact .nil
      · rintro ⟨⟩
        rfl
  | cons part rest ih =>
      have here := @component?_eq_some_iff first part (oneOf part (by simp))
      have behind := @ih (fun other member => oneOf other (by simp [member])) false
      rw [components?]
      constructor
      · intro read
        cases own : component? first part with
        | none => simp [own] at read
        | some front =>
            cases others : components? false rest with
            | none => simp [own, others] at read
            | some more =>
                have both : front ++ more = steps := by simpa [own, others] using read
                exact both ▸ .cons (here.mp own) (behind.mp others)
      · intro spelled
        cases spelled with
        | cons component others => simp [here.mpr component, behind.mpr others]

theorem Component.not_mem_dot {first : Bool} {text : List Char} {steps : List Step}
    (h : Component first text steps) : '.' ∉ text := by
  cases h with
  | key named => exact named.2.1
  | keyIndex named position => simp [named.2.1, position.not_mem_dot]
  | index position => simp [position.not_mem_dot]

theorem Components.not_mem_dot {first : Bool} {parts : List (List Char)} {steps : List Step}
    (h : Components first parts steps) : ∀ part ∈ parts, '.' ∉ part := by
  induction h with
  | nil => simp
  | cons component _ ih => simpa using ⟨component.not_mem_dot, ih⟩

/-- A text is read as a path just if it is spelled as one. -/
theorem parse?_eq_some_iff {text : String} {path : AttributePath} :
    parse? text = some path ↔ Spells text.toList path := by
  rw [parse?, Option.map_eq_some_iff]
  constructor
  · rintro ⟨steps, read, rfl⟩
    refine ⟨text.toList.splitOn '.', ?_, (List.intercalate_splitOn '.').symm, ?_⟩
    · simp
    · exact (components?_eq_some_iff fun _ => Text.not_mem_of_mem_splitOn).mp read
  · rintro ⟨parts, nonempty, joined, spelled⟩
    refine ⟨path.steps, ?_, rfl⟩
    rw [joined, List.splitOn_intercalate '.' spelled.not_mem_dot nonempty]
    exact (components?_eq_some_iff spelled.not_mem_dot).mpr spelled

theorem wellFormed_iff {text : String} :
    WellFormed text.toList ↔ ∃ path, parse? text = some path := by
  simp only [WellFormed, parse?_eq_some_iff]

/-- A position is written in decimal. -/
theorem numeral_toString {n : Nat} (small : n < positionBound) : Numeral (toString n).toList n := by
  have written : (toString n).toList = Nat.toDigits 10 n := Nat.toList_repr
  rw [written]
  exact ⟨_, .inl rfl, Nat.toDigits_ne_nil,
    fun _ => Nat.isDigit_of_mem_toDigits (by decide) (by decide), Nat.ofDigitChars_ten_toDigits,
    small⟩

theorem spells_of_component {text : List Char} {steps : List Step}
    (component : Component true text steps) : Spells text ⟨steps⟩ := by
  have single : Components true [text] steps := by simpa using Components.cons component .nil
  exact ⟨[text], by simp, by simp, single⟩

theorem parse_eq_ok_iff {text : String} {path : AttributePath} :
    parse text = .ok path ↔ Spells text.toList path := by
  rw [← parse?_eq_some_iff, parse]
  cases parse? text <;> simp

theorem parse_of_component {text : String} {steps : List Step}
    (component : Component true text.toList steps) : parse text = .ok ⟨steps⟩ :=
  parse_eq_ok_iff.mpr (spells_of_component component)

theorem parse_of_isKey {name : String} (named : IsKey name.toList) :
    parse name = .ok ⟨[.key name]⟩ := by
  simpa using parse_of_component (.key named)

theorem parse_of_keyIndex {name numeral : String} {n : Nat} (named : IsKey name.toList)
    (position : Numeral numeral.toList n) :
    parse (name ++ "[" ++ numeral ++ "]") = .ok ⟨[.key name, .index n]⟩ := by
  have spelled : Component true (name ++ "[" ++ numeral ++ "]").toList [.key name, .index n] := by
    simpa using Component.keyIndex named position
  exact parse_of_component spelled

/-- Every path starts with a name. -/
theorem Spells.exists_key {text : List Char} {path : AttributePath} (h : Spells text path) :
    ∃ name rest, path.steps = .key name :: rest := by
  obtain ⟨parts, some, -, spelled⟩ := h
  obtain ⟨steps⟩ := path
  cases spelled with
  | nil => exact absurd rfl some
  | cons component others => cases component <;> exact ⟨_, _, rfl⟩

/-- What stands at the beginning may stand behind as well. -/
theorem Component.behind {first : Bool} {text : List Char} {steps : List Step}
    (h : Component first text steps) : Component false text steps := by
  cases h with
  | key named => exact .key named
  | keyIndex named position => exact .keyIndex named position
  | index position => exact .index position

theorem Components.behind {first : Bool} {parts : List (List Char)} {steps : List Step}
    (h : Components first parts steps) : Components false parts steps := by
  cases h with
  | nil => exact .nil
  | cons component others => exact .cons component.behind others

theorem Components.append {first : Bool} {parts others : List (List Char)} {steps more : List Step}
    (h : Components first parts steps) (nonempty : parts ≠ [])
    (back : Components false others more) : Components first (parts ++ others) (steps ++ more) := by
  induction h with
  | nil => exact absurd rfl nonempty
  | @cons first text rest own behind component tail ih =>
      rw [List.cons_append, List.append_assoc]
      refine .cons component ?_
      by_cases last : rest = []
      · subst last
        cases tail
        exact back
      · exact ih last

theorem Spells.append_components {text : List Char} {path : AttributePath} (h : Spells text path)
    {parts : List (List Char)} {more : List Step} (nonempty : parts ≠ [])
    (back : Components false parts more) :
    Spells (text ++ '.' :: List.intercalate ['.'] parts) ⟨path.steps ++ more⟩ := by
  obtain ⟨own, some, rfl, spelled⟩ := h
  refine ⟨own ++ parts, by simp [some], ?_, spelled.append some back⟩
  rw [Text.intercalate_append some nonempty]

theorem Spells.append_component {text part : List Char} {path : AttributePath}
    (h : Spells text path) {more : List Step} (component : Component false part more) :
    Spells (text ++ '.' :: part) ⟨path.steps ++ more⟩ := by
  have single : Components false [part] more := by simpa using Components.cons component .nil
  simpa using h.append_components (by simp) single

/-- A path and another one behind a dot make up a path. -/
theorem Spells.append {text other : List Char} {path behind : AttributePath} (h : Spells text path)
    (back : Spells other behind) :
    Spells (text ++ '.' :: other) ⟨path.steps ++ behind.steps⟩ := by
  obtain ⟨parts, some, rfl, spelled⟩ := back
  exact h.append_components some spelled.behind

theorem not_wellFormed_nil : ¬ WellFormed [] := by
  intro h
  obtain ⟨path, read⟩ := (@wellFormed_iff "").mp h
  cases read

end EndpointResolution.AttributePath
