import EndpointResolution.Proofs.RuleSteps

/-!
Trees and their rules in place of them. A tree whose conditions hold decides, even if its rules are
all skipped, whereas rules in its place would leave the decision to those behind them. If the last
rule of a tree has no conditions, there is nothing to leave, and the rules can take the place of
the tree, each behind the conditions of the tree.
-/

namespace EndpointResolution.Rule

theorem eval_ne_none_of_unconditional {rule : Rule} (h : rule.conditions = []) (s : Scope) :
    rule.eval s ≠ .ok none := by
  rw [eval_eq, h, enter]
  dsimp only
  cases conclude s rule.outcome <;> simp [Except.map]

theorem evalAll_append_congr {s : Scope} {rules others : List Rule} (front : List Rule)
    (same : evalAll s rules = evalAll s others) :
    evalAll s (front ++ rules) = evalAll s (front ++ others) := by
  induction front with
  | nil => exact same
  | cons rule front ih => simp only [List.cons_append, evalAll, ih]

section Guarded

variable {s : Scope} {conditions : List Condition} {rules : List Rule}

theorem evalAll_guarded_of_error {e : Error} (fails : enter s conditions = .error e)
    (nonempty : rules ≠ []) (rest : List Rule) :
    evalAll s (rules.map (guarded conditions) ++ rest) = .error e := by
  cases rules with
  | nil => exact absurd rfl nonempty
  | cons rule others => simp only [List.map_cons, List.cons_append, evalAll, eval_guarded, fails]

theorem evalAll_guarded_of_none (skipped : enter s conditions = .ok none) (rest : List Rule) :
    evalAll s (rules.map (guarded conditions) ++ rest) = evalAll s rest := by
  induction rules with
  | nil => rfl
  | cons rule others ih =>
      simp only [List.map_cons, List.cons_append, evalAll, eval_guarded, skipped, ih]

/-- Behind conditions that hold, rules decide as they do in the scope behind the conditions, and
if one of them has no conditions of its own, the rest does not matter. -/
theorem evalAll_guarded_of_some {inner : Scope} (entered : enter s conditions = .ok (some inner))
    (decides : ∃ rule ∈ rules, rule.conditions = []) (rest : List Rule) :
    evalAll s (rules.map (guarded conditions) ++ rest) = evalAll inner rules := by
  induction rules with
  | nil => simp at decides
  | cons rule others ih =>
      rw [List.map_cons, List.cons_append, evalAll, evalAll, eval_guarded, entered]
      dsimp only
      cases evaluates : rule.eval inner with
      | error e => rfl
      | ok result =>
          cases result with
          | some endpoint => rfl
          | none =>
              -- The rule has been skipped, so another one has no conditions.
              obtain ⟨own, member, unconditional⟩ := decides
              rcases List.mem_cons.mp member with rfl | behind
              · exact absurd evaluates (eval_ne_none_of_unconditional unconditional inner)
              · exact ih ⟨own, behind, unconditional⟩

end Guarded

theorem evalAll_tree_eq_guarded {children : List Rule}
    (decides : ∃ child ∈ children, child.conditions = []) (s : Scope)
    (conditions : List Condition) (documentation : Option String) (rest : List Rule) :
    evalAll s (⟨conditions, .tree children, documentation⟩ :: rest) =
      evalAll s (children.map (guarded conditions) ++ rest) := by
  rw [evalAll, eval_eq]
  dsimp only
  cases entered : enter s conditions with
  | error e =>
      obtain ⟨child, member, -⟩ := decides
      rw [evalAll_guarded_of_error entered (List.ne_nil_of_mem member)]
  | ok result =>
      cases result with
      | none => rw [evalAll_guarded_of_none entered]
      | some inner =>
          rw [evalAll_guarded_of_some entered decides]
          dsimp only [conclude]
          cases evalAll inner children <;> rfl

/-- A tree whose last rule has no conditions can be replaced by its rules, each with the conditions
of the tree in front of its own. -/
theorem evaluate_tree_eq_flattened {children : List Rule} {last : Rule}
    (ends : children.getLast? = some last) (unconditional : last.conditions = [])
    (front rest : List Rule) (conditions : List Condition) (documentation : Option String)
    (environment : Environment) :
    evaluate (front ++ [⟨conditions, .tree children, documentation⟩] ++ rest) environment =
      evaluate (front ++ children.map (guarded conditions) ++ rest) environment := by
  have decides : ∃ child ∈ children, child.conditions = [] :=
    ⟨last, List.mem_of_getLast? ends, unconditional⟩
  rw [evaluate, evaluate, List.append_assoc, List.append_assoc]
  exact evalAll_append_congr front
    (evalAll_tree_eq_guarded decides _ conditions documentation rest)

/-- The condition of the tree binds the region to a name that its first rule binds anew before it is
skipped, and its last rule reports. -/
theorem evaluate_tree_eq_flattened_of_reports :
    let environment : Environment := .ofList [("Region", .string "r")]
    let conditions : List Condition := [⟨.reference "Region", some "Name"⟩]
    let skipped : Rule := ⟨[⟨.boolean true, some "Name"⟩, ⟨.boolean false, none⟩],
      .error (.reference "Name"), none⟩
    let last : Rule := ⟨[], .error (.reference "Name"), none⟩
    let tree : Rule := ⟨conditions, .tree [skipped, last], none⟩
    [skipped, last].getLast? = some last ∧ last.conditions = [] ∧
      evaluate ([skipped] ++ [tree] ++ [last]) environment =
        evaluate ([skipped] ++ [skipped, last].map (guarded conditions) ++ [last]) environment ∧
      evaluate ([skipped] ++ [tree] ++ [last]) environment = .error (.ruleDefined "r") := by
  intro environment conditions skipped last tree
  exact ⟨rfl, rfl, evaluate_tree_eq_flattened rfl rfl [skipped] [last] conditions none environment,
    rfl⟩

-- Without such a rule the tree keeps the decision that its rules would leave to the next one.
example :
    let environment : Environment := .ofList [("Region", .string "r")]
    let skipped : Rule := ⟨[⟨.boolean false, none⟩], .error (.reference "Region"), none⟩
    let last : Rule := ⟨[], .error (.reference "Region"), none⟩
    evaluate [⟨[], .tree [skipped], none⟩, last] environment = .error .noRuleMatched ∧
      evaluate [skipped, last] environment = .error (.ruleDefined "r") :=
  ⟨rfl, rfl⟩

end EndpointResolution.Rule
