import EndpointResolution.Rule.Eval

/-!
What one rule can do. Its conditions all hold, or one of them halts the rule with a falsy value or
with a failure; each condition sees the bindings of those in front of it. Every statement about
evaluation starts from these three cases and from induction over nested rules.
-/

namespace EndpointResolution

/-- The values that do not satisfy a condition. -/
def Value.Falsy (value : Value) : Prop := value = .none ∨ value = .boolean false

theorem Value.truthy_iff (value : Value) : value.truthy = true ↔ ¬ value.Falsy := by
  cases value with
  | boolean b => cases b <;> simp [truthy, Falsy]
  | none => simp [truthy, Falsy]
  | integer _ | string _ | array _ | record _ | endpoint _ _ _ => simp [truthy, Falsy]

/-- The conditions hold in turn with the values, and the last scope has their bindings. -/
inductive AllHold : Scope → List Condition → List Value → Scope → Prop
  | nil (s : Scope) : AllHold s [] [] s
  | cons {s inner : Scope} {c : Condition} {rest : List Condition} {value : Value}
      {values : List Value} (evaluates : c.expr.eval s = .ok value) (holds : ¬ value.Falsy)
      (behind : AllHold (c.bindIn value s) rest values inner) :
      AllHold s (c :: rest) (value :: values) inner

/-- A condition gives the result, and those in front of it hold. -/
def Halts (s : Scope) (conditions : List Condition) (result : Result Value) : Prop :=
  ∃ held c rest values inner, conditions = held ++ c :: rest ∧
    AllHold s held values inner ∧ c.expr.eval inner = result

def Fails (s : Scope) (conditions : List Condition) (e : Error) : Prop :=
  Halts s conditions (.error e)

def Skips (s : Scope) (conditions : List Condition) : Prop :=
  ∃ value : Value, value.Falsy ∧ Halts s conditions (.ok value)

theorem halts_here (c : Condition) (rest : List Condition) (s : Scope) :
    Halts s (c :: rest) (c.expr.eval s) :=
  ⟨[], c, rest, [], s, rfl, .nil s, rfl⟩

theorem halts_behind {s : Scope} {c : Condition} {rest : List Condition} {value : Value}
    {result : Result Value} (evaluates : c.expr.eval s = .ok value) (holds : ¬ value.Falsy)
    (h : Halts (c.bindIn value s) rest result) : Halts s (c :: rest) result := by
  obtain ⟨held, d, behind, values, inner, rfl, before, hd⟩ := h
  exact ⟨c :: held, d, behind, value :: values, inner, rfl, .cons evaluates holds before, hd⟩

/-- Conditions all hold, or skip the rule, or fail. -/
theorem conditions_cases (conditions : List Condition) (s : Scope) :
    (∃ values inner, AllHold s conditions values inner) ∨ Skips s conditions ∨
      ∃ e, Fails s conditions e := by
  induction conditions generalizing s with
  | nil => exact .inl ⟨[], s, .nil s⟩
  | cons c rest ih =>
      cases evaluates : c.expr.eval s with
      | error e =>
          have halts : Halts s (c :: rest) (.error e) := by
            simpa only [evaluates] using halts_here c rest s
          exact .inr (.inr ⟨e, halts⟩)
      | ok value =>
          by_cases falsy : value.Falsy
          · have halts : Halts s (c :: rest) (.ok value) := by
              simpa only [evaluates] using halts_here c rest s
            exact .inr (.inl ⟨value, falsy, halts⟩)
          · rcases ih (c.bindIn value s) with ⟨values, inner, h⟩ | ⟨last, hl, h⟩ | ⟨e, h⟩
            · exact .inl ⟨value :: values, inner, .cons evaluates falsy h⟩
            · exact .inr (.inl ⟨last, hl, halts_behind evaluates falsy h⟩)
            · exact .inr (.inr ⟨e, halts_behind evaluates falsy h⟩)

namespace Rule

/-- Conditions behind others are evaluated in the scope that the others leave, if they all hold. -/
theorem enter_append (s : Scope) (front rest : List Condition) :
    enter s (front ++ rest) =
      match enter s front with
      | .error e => .error e
      | .ok none => .ok none
      | .ok (some inner) => enter inner rest := by
  induction front generalizing s with
  | nil => rfl
  | cons c front ih =>
      simp only [List.cons_append, enter, bind, Except.bind]
      cases c.expr.eval s with
      | error e => rfl
      | ok value =>
          cases truthy : value.truthy with
          | true => simpa [truthy] using ih (c.bindIn value s)
          | false => simp [truthy, pure, Except.pure]

theorem enter_of_allHold {s inner : Scope} {conditions : List Condition} {values : List Value}
    (h : AllHold s conditions values inner) : enter s conditions = .ok (some inner) := by
  induction h with
  | nil s => rfl
  | cons evaluates holds _ ih =>
      have truthy := (Value.truthy_iff _).mpr holds
      simpa [enter, evaluates, truthy, bind, Except.bind] using ih

/-- Conditions that hold are passed, and those behind them see their bindings. -/
theorem enter_append_of_allHold {s inner : Scope} {held : List Condition} {values : List Value}
    (h : AllHold s held values inner) (rest : List Condition) :
    enter s (held ++ rest) = enter inner rest := by
  rw [enter_append, enter_of_allHold h]

theorem enter_of_fails {s : Scope} {conditions : List Condition} {e : Error}
    (h : Fails s conditions e) : enter s conditions = .error e := by
  obtain ⟨held, c, rest, values, inner, rfl, before, fails⟩ := h
  rw [enter_append_of_allHold before]
  simp [enter, fails, bind, Except.bind]

theorem enter_of_skips {s : Scope} {conditions : List Condition}
    (h : Skips s conditions) : enter s conditions = .ok none := by
  obtain ⟨value, falsy, held, c, rest, values, inner, rfl, before, evaluates⟩ := h
  have untrue : value.truthy = false := by
    simpa [falsy] using Value.truthy_iff value
  rw [enter_append_of_allHold before]
  simp [enter, evaluates, untrue, bind, Except.bind, pure, Except.pure]

end Rule

theorem allHold_unique {s inner inner' : Scope} {conditions : List Condition}
    {values values' : List Value} (h : AllHold s conditions values inner)
    (h' : AllHold s conditions values' inner') : inner = inner' := by
  have same := (Rule.enter_of_allHold h).symm.trans (Rule.enter_of_allHold h')
  simpa using same

theorem not_skips_of_allHold {s inner : Scope} {conditions : List Condition}
    {values : List Value} (h : AllHold s conditions values inner) : ¬ Skips s conditions := by
  intro skips
  have same := (Rule.enter_of_allHold h).symm.trans (Rule.enter_of_skips skips)
  simp at same

theorem not_skips_of_fails {s : Scope} {conditions : List Condition} {e : Error}
    (h : Fails s conditions e) : ¬ Skips s conditions := by
  intro skips
  have same := (Rule.enter_of_fails h).symm.trans (Rule.enter_of_skips skips)
  simp at same

namespace Rule

/-- One condition has a falsy value, and those in front of it hold. -/
def Skipped (s : Scope) (rule : Rule) : Prop := Skips s rule.conditions

/-- What a rule gives whose conditions hold. -/
def conclude (s : Scope) : Outcome Rule → Result Endpoint
  | .endpoint template => template.eval s
  | .error message => .error (failure s message)
  | .tree rules => evalAll s rules

/-- Conditions first, then the outcome in the scope behind them. -/
theorem eval_eq (s : Scope) (rule : Rule) :
    rule.eval s =
      match enter s rule.conditions with
      | .error e => .error e
      | .ok none => .ok none
      | .ok (some inner) => (conclude inner rule.outcome).map some := by
  obtain ⟨conditions, outcome, documentation⟩ := rule
  unfold eval
  dsimp only
  rcases enter s conditions with e | _ | inner
  · rfl
  · rfl
  · cases outcome <;> rfl

/-- The rule behind more conditions. -/
def guarded (front : List Condition) (rule : Rule) : Rule :=
  { rule with conditions := front ++ rule.conditions }

/-- A rule behind more conditions is the rule in the scope behind them, if they all hold. -/
theorem eval_guarded (s : Scope) (front : List Condition) (rule : Rule) :
    (rule.guarded front).eval s =
      match enter s front with
      | .error e => .error e
      | .ok none => .ok none
      | .ok (some inner) => rule.eval inner := by
  rw [eval_eq, guarded, enter_append]
  rcases enter s front with e | _ | inner
  · rfl
  · rfl
  · exact (eval_eq inner rule).symm

theorem eval_of_skipped {s : Scope} {rule : Rule} (h : rule.Skipped s) :
    rule.eval s = .ok none := by
  rw [eval_eq, enter_of_skips h]

theorem eval_of_fails {s : Scope} {rule : Rule} {e : Error} (h : Fails s rule.conditions e) :
    rule.eval s = .error e := by
  rw [eval_eq, enter_of_fails h]

theorem eval_of_allHold {s inner : Scope} {rule : Rule} {values : List Value}
    (h : AllHold s rule.conditions values inner) :
    rule.eval s = (conclude inner rule.outcome).map some := by
  rw [eval_eq, enter_of_allHold h]

theorem evalAll_cons_of_skipped {s : Scope} {rule : Rule} (h : rule.Skipped s)
    (rest : List Rule) : evalAll s (rule :: rest) = evalAll s rest := by
  simp [evalAll, eval_of_skipped h]

theorem evalAll_cons_of_fails {s : Scope} {rule : Rule} {e : Error}
    (h : Fails s rule.conditions e) (rest : List Rule) :
    evalAll s (rule :: rest) = .error e := by
  simp [evalAll, eval_of_fails h]

theorem evalAll_cons_of_allHold {s inner : Scope} {rule : Rule} {values : List Value}
    (h : AllHold s rule.conditions values inner) (rest : List Rule) :
    evalAll s (rule :: rest) = conclude inner rule.outcome := by
  rw [evalAll, eval_of_allHold h]
  cases conclude inner rule.outcome <;> rfl

/-- Rules that are all skipped match nothing. -/
theorem evalAll_of_skipped {s : Scope} {rules : List Rule}
    (h : ∀ rule ∈ rules, rule.Skipped s) : evalAll s rules = .error .noRuleMatched := by
  induction rules with
  | nil => rfl
  | cons rule rest ih =>
      rw [evalAll_cons_of_skipped (h rule (by simp))]
      exact ih fun other member => h other (by simp [member])

section Induction

variable {motive : List Rule → Prop}

mutual

private theorem children_induction (nil : motive [])
    (cons : ∀ rule rest, (∀ children, rule.outcome = .tree children → motive children) →
      motive rest → motive (rule :: rest)) :
    ∀ (rule : Rule) (children : List Rule), rule.outcome = .tree children → motive children
  | ⟨_, .tree children, _⟩, _, rfl => nested_induction nil cons children

/-- Induction over a list of rules and, at each of them, over the rules inside it. -/
theorem nested_induction (nil : motive [])
    (cons : ∀ rule rest, (∀ children, rule.outcome = .tree children → motive children) →
      motive rest → motive (rule :: rest)) :
    ∀ rules : List Rule, motive rules
  | [] => nil
  | rule :: rest =>
      cons rule rest (children_induction nil cons rule) (nested_induction nil cons rest)

end

end Induction

end Rule

end EndpointResolution
