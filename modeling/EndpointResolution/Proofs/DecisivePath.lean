import EndpointResolution.Proofs.RuleSteps

/-!
The rule that decides. Evaluation follows one path of positions into the tree of rules: it passes
the rules that are skipped, enters trees whose conditions hold, and stops where nothing is left to
pass or to enter. The main statement is that there is exactly one such path and that the result
is what the rule at its end gives, with the bindings made on the way.
-/

namespace EndpointResolution.Rule

/-- The rule stands at the position, and all rules in front of it are skipped. -/
def ComesTo (s : Scope) (rules : List Rule) (position : Nat) (rule : Rule) : Prop :=
  rules[position]? = some rule ∧ ∀ earlier ∈ rules.take position, earlier.Skipped s

/-- The path leads to the target through trees whose conditions hold, and the second scope is
the one in force in front of the target. -/
inductive Reaches : Scope → List Rule → List Nat → Scope → Rule → Prop
  | here {s : Scope} {rules : List Rule} {position : Nat} {rule : Rule}
      (comes : ComesTo s rules position rule) : Reaches s rules [position] s rule
  | inside {s inner reached : Scope} {rules children : List Rule} {position : Nat}
      {rule target : Rule} {values : List Value} {path : List Nat}
      (comes : ComesTo s rules position rule) (tree : rule.outcome = .tree children)
      (holds : AllHold s rule.conditions values inner)
      (leads : Reaches inner children path reached target) :
      Reaches s rules (position :: path) reached target

/-- Evaluation goes no further than the rule: it is not skipped, and it is no tree, or one of its
conditions fails, or all rules inside it are skipped. -/
def Settles (s : Scope) (rule : Rule) : Prop :=
  ¬ rule.Skipped s ∧
    ((∀ children, rule.outcome ≠ .tree children) ∨
      (∃ e, Fails s rule.conditions e) ∨
      ∃ children values inner, rule.outcome = .tree children ∧
        AllHold s rule.conditions values inner ∧ ∀ child ∈ children, child.Skipped inner)

/-- The path ends where evaluation does; the empty path stands for a list that is skipped. -/
def Decisive (s : Scope) (rules : List Rule) (path : List Nat) : Prop :=
  (path = [] ∧ ∀ rule ∈ rules, rule.Skipped s) ∨
    ∃ reached rule, Reaches s rules path reached rule ∧ rule.Settles reached

/-- What a rule gives at which evaluation ends. -/
inductive Gives (s : Scope) (rule : Rule) : Result Endpoint → Prop
  | failed {e : Error} (fails : Fails s rule.conditions e) : Gives s rule (.error e)
  | endpoint {inner : Scope} {values : List Value} {template : EndpointTemplate}
      (outcome : rule.outcome = .endpoint template)
      (holds : AllHold s rule.conditions values inner) : Gives s rule (template.eval inner)
  | message {inner : Scope} {values : List Value} {message : Expr} {text : String}
      (outcome : rule.outcome = .error message)
      (holds : AllHold s rule.conditions values inner)
      (evaluates : message.eval inner = .ok (.string text)) :
      Gives s rule (.error (.ruleDefined text))
  | messageKind {inner : Scope} {values : List Value} {message : Expr} {value : Value}
      (outcome : rule.outcome = .error message)
      (holds : AllHold s rule.conditions values inner)
      (evaluates : message.eval inner = .ok value) (other : value.kind ≠ .string) :
      Gives s rule (.error (.typeMismatch [.string] value.kind))
  | messageFails {inner : Scope} {values : List Value} {message : Expr} {e : Error}
      (outcome : rule.outcome = .error message)
      (holds : AllHold s rule.conditions values inner)
      (evaluates : message.eval inner = .error e) : Gives s rule (.error e)
  | exhausted {inner : Scope} {values : List Value} {children : List Rule}
      (outcome : rule.outcome = .tree children)
      (holds : AllHold s rule.conditions values inner)
      (skipped : ∀ child ∈ children, child.Skipped inner) :
      Gives s rule (.error .noRuleMatched)

/-- The result that a decisive path stands for. -/
def Verdict (s : Scope) (rules : List Rule) (path : List Nat) (result : Result Endpoint) : Prop :=
  (path = [] ∧ result = .error .noRuleMatched) ∨
    ∃ reached rule, Reaches s rules path reached rule ∧ rule.Gives reached result

theorem comesTo_zero (s : Scope) (rule : Rule) (rest : List Rule) :
    ComesTo s (rule :: rest) 0 rule :=
  ⟨rfl, by simp⟩

theorem comesTo_succ_iff {s : Scope} {rule target : Rule} {rest : List Rule} {position : Nat} :
    ComesTo s (rule :: rest) (position + 1) target ↔
      rule.Skipped s ∧ ComesTo s rest position target := by
  simp only [ComesTo, List.getElem?_cons_succ, List.take_succ_cons, List.forall_mem_cons]
  exact and_left_comm

theorem reaches_succ_iff {s reached : Scope} {rule target : Rule} {rest : List Rule}
    {position : Nat} {path : List Nat} :
    Reaches s (rule :: rest) ((position + 1) :: path) reached target ↔
      rule.Skipped s ∧ Reaches s rest (position :: path) reached target := by
  constructor
  · intro h
    cases h with
    | here comes =>
        obtain ⟨skipped, comes⟩ := comesTo_succ_iff.mp comes
        exact ⟨skipped, .here comes⟩
    | inside comes tree holds leads =>
        obtain ⟨skipped, comes⟩ := comesTo_succ_iff.mp comes
        exact ⟨skipped, .inside comes tree holds leads⟩
  · rintro ⟨skipped, h⟩
    cases h with
    | here comes => exact .here (comesTo_succ_iff.mpr ⟨skipped, comes⟩)
    | inside comes tree holds leads =>
        exact .inside (comesTo_succ_iff.mpr ⟨skipped, comes⟩) tree holds leads

/-- A path ends at the first rule that it comes to or goes on inside it. -/
theorem reaches_cons_cases {s reached : Scope} {rules : List Rule} {target : Rule}
    {position : Nat} {path : List Nat} (h : Reaches s rules (position :: path) reached target) :
    ∃ rule, ComesTo s rules position rule ∧ (path = [] ∨ ∃ children values inner,
      rule.outcome = .tree children ∧ AllHold s rule.conditions values inner ∧
      Reaches inner children path reached target) := by
  cases h with
  | here comes => exact ⟨_, comes, .inl rfl⟩
  | inside comes tree holds leads => exact ⟨_, comes, .inr ⟨_, _, _, tree, holds, leads⟩⟩

theorem reaches_ne_nil {s reached : Scope} {rules : List Rule} {path : List Nat} {rule : Rule}
    (h : Reaches s rules path reached rule) : path ≠ [] := by
  cases h <;> simp

/-- At most one rule is come to and not skipped. -/
theorem comesTo_unique {s : Scope} {rules : List Rule} {i j : Nat} {rule other : Rule}
    (h : ComesTo s rules i rule) (hr : ¬ rule.Skipped s)
    (h' : ComesTo s rules j other) (ho : ¬ other.Skipped s) : i = j ∧ rule = other := by
  have earlier {k l : Nat} {r : Rule} (at' : rules[k]? = some r) (lt : k < l) :
      r ∈ rules.take l := by
    apply List.mem_of_getElem? (i := k)
    rw [List.getElem?_take_of_lt lt, at']
  rcases Nat.lt_trichotomy i j with lt | eq | gt
  · exact absurd (h'.2 rule (earlier h.1 lt)) hr
  · subst eq
    exact ⟨rfl, Option.some.inj (h.1.symm.trans h'.1)⟩
  · exact absurd (h.2 other (earlier h'.1 gt)) ho

theorem exists_decisive (rules : List Rule) : ∀ s, ∃ path, Decisive s rules path := by
  induction rules using nested_induction with
  | nil => exact fun s => ⟨[], .inl ⟨rfl, by simp⟩⟩
  | cons rule rest inside ih =>
      intro s
      have comes := comesTo_zero s rule rest
      rcases conditions_cases rule.conditions s with ⟨values, inner, holds⟩ | skips | ⟨e, fails⟩
      · have entered := not_skips_of_allHold holds
        cases outcome : rule.outcome with
        | endpoint template =>
            exact ⟨[0], .inr ⟨s, rule, .here comes, entered, .inl (by simp [outcome])⟩⟩
        | error message =>
            exact ⟨[0], .inr ⟨s, rule, .here comes, entered, .inl (by simp [outcome])⟩⟩
        | tree children =>
            obtain ⟨path, ⟨_, skipped⟩ | ⟨reached, target, leads, settles⟩⟩ :=
              inside children outcome inner
            · exact ⟨[0], .inr ⟨s, rule, .here comes, entered,
                .inr (.inr ⟨children, values, inner, outcome, holds, skipped⟩)⟩⟩
            · exact ⟨0 :: path, .inr ⟨reached, target, .inside comes outcome holds leads, settles⟩⟩
      · obtain ⟨path, ⟨_, skipped⟩ | ⟨reached, target, leads, settles⟩⟩ := ih s
        · refine ⟨[], .inl ⟨rfl, ?_⟩⟩
          simpa using ⟨skips, skipped⟩
        · cases path with
          | nil => exact absurd rfl (reaches_ne_nil leads)
          | cons position path =>
              exact ⟨(position + 1) :: path,
                .inr ⟨reached, target, reaches_succ_iff.mpr ⟨skips, leads⟩, settles⟩⟩
      · exact ⟨[0], .inr ⟨s, rule, .here comes, not_skips_of_fails fails, .inr (.inl ⟨e, fails⟩)⟩⟩

/-- A list whose rules are all skipped leads to skipped rules only. -/
theorem skipped_of_reaches {s reached : Scope} {rules : List Rule} {path : List Nat}
    {target : Rule} (skipped : ∀ rule ∈ rules, rule.Skipped s)
    (h : Reaches s rules path reached target) : target.Skipped reached := by
  cases h with
  | here comes => exact skipped target (List.mem_of_getElem? comes.1)
  | inside comes tree holds leads =>
      have passed := skipped _ (List.mem_of_getElem? comes.1)
      exact absurd passed (not_skips_of_allHold holds)

/-- What is inside a rule at which evaluation ends is skipped. -/
theorem skipped_of_settles {s inner : Scope} {rule : Rule} {children : List Rule}
    {values : List Value} (h : rule.Settles s) (tree : rule.outcome = .tree children)
    (holds : AllHold s rule.conditions values inner) :
    ∀ child ∈ children, child.Skipped inner := by
  obtain ⟨-, leaf | ⟨e, fails⟩ | ⟨others, values', inner', tree', holds', skipped⟩⟩ := h
  · exact absurd tree (leaf children)
  · have same := (enter_of_fails fails).symm.trans (enter_of_allHold holds)
    cases same
  · cases tree.symm.trans tree'
    rwa [allHold_unique holds holds']

theorem reaches_unique {s reached reached' : Scope} {rules : List Rule} {path path' : List Nat}
    {target target' : Rule} (h : Reaches s rules path reached target)
    (ends : target.Settles reached) (h' : Reaches s rules path' reached' target')
    (ends' : target'.Settles reached') : path = path' := by
  induction h generalizing path' with
  | here comes =>
      cases h' with
      | here comes' => rw [(comesTo_unique comes ends.1 comes' ends'.1).1]
      | inside comes' tree' holds' leads' =>
          have entered' := not_skips_of_allHold holds'
          obtain ⟨-, rfl⟩ := comesTo_unique comes ends.1 comes' entered'
          have skipped := skipped_of_settles ends tree' holds'
          exact absurd (skipped_of_reaches skipped leads') ends'.1
  | inside comes tree holds leads ih =>
      have entered := not_skips_of_allHold holds
      cases h' with
      | here comes' =>
          obtain ⟨-, rfl⟩ := comesTo_unique comes entered comes' ends'.1
          have skipped := skipped_of_settles ends' tree holds
          exact absurd (skipped_of_reaches skipped leads) ends.1
      | inside comes' tree' holds' leads' =>
          have entered' := not_skips_of_allHold holds'
          obtain ⟨rfl, rfl⟩ := comesTo_unique comes entered comes' entered'
          cases tree.symm.trans tree'
          cases allHold_unique holds holds'
          rw [ih ends leads']

theorem decisive_unique {s : Scope} {rules : List Rule} {path path' : List Nat}
    (h : Decisive s rules path) (h' : Decisive s rules path') : path = path' := by
  rcases h with ⟨rfl, skipped⟩ | ⟨reached, rule, leads, ends⟩
  · rcases h' with ⟨rfl, -⟩ | ⟨reached', rule', leads', ends'⟩
    · rfl
    · exact absurd (skipped_of_reaches skipped leads') ends'.1
  · rcases h' with ⟨rfl, skipped⟩ | ⟨reached', rule', leads', ends'⟩
    · exact absurd (skipped_of_reaches skipped leads) ends.1
    · exact reaches_unique leads ends leads' ends'

theorem failure_of_string {s : Scope} {message : Expr} {text : String}
    (h : message.eval s = .ok (.string text)) : failure s message = .ruleDefined text := by
  simp [failure, Expr.evalString, h, bind, Except.bind, Value.expectString, Value.expect,
    Value.string?]

theorem failure_of_other {s : Scope} {message : Expr} {value : Value}
    (h : message.eval s = .ok value) (other : value.kind ≠ .string) :
    failure s message = .typeMismatch [.string] value.kind := by
  have none : value.string? = none := by
    cases value <;> simp_all [Value.kind, Value.string?]
  simp [failure, Expr.evalString, h, bind, Except.bind, Value.expectString, Value.expect, none]

theorem failure_of_error {s : Scope} {message : Expr} {e : Error}
    (h : message.eval s = .error e) : failure s message = e := by
  simp [failure, Expr.evalString, h, bind, Except.bind]

/-- What a rule gives is what a list gives that starts with it. -/
theorem evalAll_cons_of_gives {s : Scope} {rule : Rule} {result : Result Endpoint}
    (h : rule.Gives s result) (rest : List Rule) : evalAll s (rule :: rest) = result := by
  cases h with
  | failed fails => exact evalAll_cons_of_fails fails rest
  | endpoint outcome holds =>
      rw [evalAll_cons_of_allHold holds, outcome, conclude]
  | message outcome holds evaluates =>
      rw [evalAll_cons_of_allHold holds, outcome, conclude, failure_of_string evaluates]
  | messageKind outcome holds evaluates other =>
      rw [evalAll_cons_of_allHold holds, outcome, conclude, failure_of_other evaluates other]
  | messageFails outcome holds evaluates =>
      rw [evalAll_cons_of_allHold holds, outcome, conclude, failure_of_error evaluates]
  | exhausted outcome holds skipped =>
      rw [evalAll_cons_of_allHold holds, outcome, conclude, evalAll_of_skipped skipped]

theorem exists_gives_of_settles {s : Scope} {rule : Rule} (h : rule.Settles s) :
    ∃ result, rule.Gives s result := by
  obtain ⟨entered, ends⟩ := h
  rcases conditions_cases rule.conditions s with ⟨values, inner, holds⟩ | skips | ⟨e, fails⟩
  · cases outcome : rule.outcome with
    | endpoint template => exact ⟨_, .endpoint outcome holds⟩
    | error message =>
        cases evaluates : message.eval inner with
        | error e => exact ⟨_, .messageFails outcome holds evaluates⟩
        | ok value =>
            by_cases text : ∃ text, value = .string text
            · obtain ⟨text, rfl⟩ := text
              exact ⟨_, .message outcome holds evaluates⟩
            · refine ⟨_, .messageKind outcome holds evaluates ?_⟩
              cases value <;> simp_all [Value.kind]
    | tree children =>
        exact ⟨_, .exhausted outcome holds (skipped_of_settles ⟨entered, ends⟩ outcome holds)⟩
  · exact absurd skips entered
  · exact ⟨_, .failed fails⟩

theorem evalAll_of_comesTo {s : Scope} {rules : List Rule} {position : Nat} {rule : Rule}
    (h : ComesTo s rules position rule) :
    ∃ rest, evalAll s rules = evalAll s (rule :: rest) := by
  induction rules generalizing position with
  | nil => simp [ComesTo] at h
  | cons first rest ih =>
      cases position with
      | zero =>
          cases h.1
          exact ⟨rest, rfl⟩
      | succ position =>
          obtain ⟨skipped, comes⟩ := comesTo_succ_iff.mp h
          rw [evalAll_cons_of_skipped skipped]
          exact ih comes

/-- A list gives what any rule gives to which a path leads. -/
theorem evalAll_of_reaches {s reached : Scope} {rules : List Rule} {path : List Nat}
    {target : Rule} {result : Result Endpoint} (h : Reaches s rules path reached target)
    (gives : target.Gives reached result) : evalAll s rules = result := by
  induction h with
  | here comes =>
      obtain ⟨rest, same⟩ := evalAll_of_comesTo comes
      rw [same, evalAll_cons_of_gives gives]
  | inside comes tree holds leads ih =>
      obtain ⟨rest, same⟩ := evalAll_of_comesTo comes
      rw [same, evalAll_cons_of_allHold holds, tree, conclude]
      exact ih gives

theorem verdict_iff {s : Scope} {rules : List Rule} {path : List Nat} {result : Result Endpoint}
    (h : Decisive s rules path) : Verdict s rules path result ↔ evalAll s rules = result := by
  rcases h with ⟨rfl, skipped⟩ | ⟨reached, rule, leads, ends⟩
  · rw [evalAll_of_skipped skipped]
    constructor
    · rintro (⟨-, rfl⟩ | ⟨reached, rule, leads, -⟩)
      · rfl
      · exact absurd rfl (reaches_ne_nil leads)
    · rintro rfl
      exact .inl ⟨rfl, rfl⟩
  · constructor
    · rintro (⟨rfl, -⟩ | ⟨reached', rule', leads', gives⟩)
      · exact absurd rfl (reaches_ne_nil leads)
      · exact evalAll_of_reaches leads' gives
    · rintro rfl
      obtain ⟨result, gives⟩ := exists_gives_of_settles ends
      rw [evalAll_of_reaches leads gives]
      exact .inr ⟨reached, rule, leads, gives⟩

/-- Exactly one path is decisive, and the result of evaluation is what it stands for. -/
theorem evaluate_decided_by_one_path (rules : List Rule) (environment : Environment) :
    ∃ path, (∀ other, Decisive { environment } rules other ↔ other = path) ∧
      ∀ result, Verdict { environment } rules path result ↔
        evaluate rules environment = result := by
  obtain ⟨path, decisive⟩ := exists_decisive rules { environment }
  refine ⟨path, ?_, ?_⟩
  · intro other
    constructor
    · intro h
      exact decisive_unique h decisive
    · rintro rfl
      exact decisive
  · intro result
    exact verdict_iff decisive

end EndpointResolution.Rule
