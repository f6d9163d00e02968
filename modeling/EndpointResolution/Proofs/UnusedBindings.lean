import EndpointResolution.Proofs.FreeNames

/-!
Names that make no difference to rules: whatever is bound to names that are not free in them, and
bindings of their own that nothing behind refers to. A condition keeps its value without its
binding, so the two lists of rules below pass the same conditions, in scopes that differ at the
unused name alone.
-/

namespace EndpointResolution.Rule

mutual

/-- Referred to somewhere in the rule or in the rules inside it, bound there or not. -/
def Mentions (name : String) : Rule → Prop
  | ⟨conditions, .endpoint template, _⟩ =>
      (∃ c ∈ conditions, c.expr.Mentions name) ∨ template.Mentions name
  | ⟨conditions, .error message, _⟩ =>
      (∃ c ∈ conditions, c.expr.Mentions name) ∨ message.Mentions name
  | ⟨conditions, .tree rules, _⟩ =>
      (∃ c ∈ conditions, c.expr.Mentions name) ∨ MentionsAny name rules

def MentionsAny (name : String) : List Rule → Prop
  | [] => False
  | rule :: rest => rule.Mentions name ∨ MentionsAny name rest

end

/-- The second list has one binding less, at any depth. What is left of its rule behind the
condition does not refer to the name. -/
inductive Unbinds : List Rule → List Rule → Prop
  | here {front behind : List Condition} {expr : Expr} {name : String} {outcome : Outcome Rule}
      {documentation : Option String} {rest : List Rule}
      (unused : ¬ Mentions name ⟨behind, outcome, documentation⟩) :
      Unbinds (⟨front ++ ⟨expr, some name⟩ :: behind, outcome, documentation⟩ :: rest)
        (⟨front ++ ⟨expr, none⟩ :: behind, outcome, documentation⟩ :: rest)
  | inside {conditions : List Condition} {documentation : Option String}
      {children children' rest : List Rule} (unbinds : Unbinds children children') :
      Unbinds (⟨conditions, .tree children, documentation⟩ :: rest)
        (⟨conditions, .tree children', documentation⟩ :: rest)
  | later {rule : Rule} {rest rest' : List Rule} (unbinds : Unbinds rest rest') :
      Unbinds (rule :: rest) (rule :: rest')

theorem mentions_of_freeBehind {name : String} {behind : Prop} {conditions : List Condition}
    (free : FreeBehind name behind conditions) :
    (∃ c ∈ conditions, c.expr.Mentions name) ∨ behind := by
  induction conditions with
  | nil => exact .inr free
  | cons c rest ih =>
      rcases free with own | ⟨-, later⟩
      · exact .inl ⟨c, by simp, own⟩
      · exact (ih later).imp_left fun ⟨other, member, m⟩ => ⟨other, by simp [member], m⟩

mutual

theorem mentions_of_free {name : String} (rule : Rule) (free : rule.Free name) :
    rule.Mentions name := by
  match rule with
  | ⟨_, .endpoint _, _⟩ | ⟨_, .error _, _⟩ => exact mentions_of_freeBehind free
  | ⟨_, .tree rules, _⟩ =>
      exact (mentions_of_freeBehind free).imp_right (mentionsAny_of_freeAny rules)

theorem mentionsAny_of_freeAny {name : String} (rules : List Rule) (free : FreeAny name rules) :
    MentionsAny name rules := by
  match rules with
  | [] => exact free
  | rule :: rest => exact free.imp (mentions_of_free rule) (mentionsAny_of_freeAny rest)

end

/-- A binding that is not free behind it makes no difference to its rule. -/
theorem eval_of_not_free {name : String} {rule : Rule} (unused : ¬ rule.Free name)
    (front : List Condition) (expr : Expr) (s : Scope) :
    (rule.guarded (front ++ [⟨expr, none⟩])).eval s =
      (rule.guarded (front ++ [⟨expr, some name⟩])).eval s := by
  rw [eval_guarded, eval_guarded, enter_append, enter_append]
  rcases enter s front with e | _ | inner
  · rfl
  · rfl
  · simp only [enter, bind, Except.bind]
    cases expr.eval inner with
    | error e => rfl
    | ok value =>
        cases truthy : value.truthy with
        | false => simp [truthy]
        | true =>
            have agree : AgreeOn (fun other => rule.Free other) inner (inner.bind name value) := by
              intro other free
              rw [Scope.get?_bind, if_neg]
              rintro rfl
              exact unused free
            simpa [truthy, Condition.bindIn] using rule.eval_congr agree

theorem evalAll_of_unbinds {rules rules' : List Rule} (h : Unbinds rules rules') (s : Scope) :
    evalAll s rules' = evalAll s rules := by
  induction h generalizing s with
  | @here front behind expr name outcome documentation rest unused =>
      have same := eval_of_not_free (fun free => unused (mentions_of_free _ free)) front expr s
      simp only [guarded, List.append_assoc, List.singleton_append] at same
      simp only [evalAll, same]
  | inside _ ih => simp only [evalAll, eval_eq, conclude, ih]
  | later _ ih => simp only [evalAll, ih]

/-- Rules give the same in environments that agree on their free names, and the same in every
environment without a binding that nothing behind it refers to. -/
theorem evaluate_depends_on_free_names (rules : List Rule) :
    (∀ environment environment' : Environment,
      (∀ name, FreeAny name rules → environment.get? name = environment'.get? name) →
        evaluate rules environment = evaluate rules environment') ∧
    ∀ rules', Unbinds rules rules' → ∀ environment,
      evaluate rules' environment = evaluate rules environment := by
  constructor
  · intro environment environment' agree
    exact evalAll_congr rules agree
  · intro rules' unbinds environment
    exact evalAll_of_unbinds unbinds { environment }

/-- A zone is bound in one environment only, and the rules bind it themselves before they refer to
it. -/
theorem evaluate_depends_on_free_names_of_zone :
    let environment : Environment := .ofList [("Region", .string "r")]
    let larger := environment.insert "Zone" (.string "z")
    let rules (unused : Option String) : List Rule :=
      [⟨[⟨.reference "Region", some "Zone"⟩], .tree
        [⟨[⟨.template ⟨[.reference "Zone", .char '!']⟩, unused⟩], .error (.reference "Zone"), none⟩],
        none⟩]
    (∀ name, FreeAny name (rules (some "Name")) →
      environment.get? name = larger.get? name) ∧
      Unbinds (rules (some "Name")) (rules none) ∧
      evaluate (rules (some "Name")) environment = evaluate (rules (some "Name")) larger ∧
      evaluate (rules none) larger = evaluate (rules (some "Name")) larger ∧
      evaluate (rules none) larger = .error (.ruleDefined "r") := by
  intro environment larger rules
  have agree (name : String) (free : FreeAny name (rules (some "Name"))) :
      environment.get? name = larger.get? name := by
    simp [rules, FreeAny, Free, FreeBehind, Expr.Mentions, Template.Mentions,
      Template.Token.Mentions] at free
    rw [Dict.get?_insert, if_neg]
    rintro rfl
    simp at free
  have unbinds : Unbinds (rules (some "Name")) (rules none) := by
    refine .inside (@Unbinds.here [] [] _ _ _ _ _ ?_)
    simp [Mentions, Expr.Mentions]
  obtain ⟨free, fewer⟩ := evaluate_depends_on_free_names (rules (some "Name"))
  exact ⟨agree, unbinds, free _ _ agree, fewer _ unbinds larger, rfl⟩

end EndpointResolution.Rule
