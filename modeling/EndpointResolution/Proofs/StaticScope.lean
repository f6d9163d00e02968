import EndpointResolution.Proofs.Binding
import EndpointResolution.Proofs.ExpressionErrors

/-!
Names that are seen to be bound before anything is evaluated. Evaluation of rules fails for a name
only if the name is free in the rules and has no value in the scope; binding gives each declared
name a value. So a rule set whose free names are declared never fails for a name.
-/

namespace EndpointResolution

/-- The causes for which evaluation of rules fails. -/
inductive Error.InRules (unbound : String → Prop) : Error → Prop
  | inExpr {e : Error} (h : e.InExpr unbound) : InRules unbound e
  | ruleDefined (message : String) : InRules unbound (.ruleDefined message)
  | noRuleMatched : InRules unbound .noRuleMatched

theorem Error.InRules.mono {names others : String → Prop} {e : Error} (h : e.InRules names)
    (sub : ∀ name, names name → others name) : e.InRules others := by
  cases h with
  | inExpr h => exact .inExpr (h.mono sub)
  | ruleDefined message => exact .ruleDefined message
  | noRuleMatched => exact .noRuleMatched

/-- A name that has no value behind a condition had none in front of it, and the condition does
not bind it. -/
theorem Condition.get?_bindIn_eq_none {c : Condition} {value : Value} {s : Scope} {name : String}
    (h : (c.bindIn value s).get? name = none) : c.assign ≠ some name ∧ s.get? name = none := by
  cases bound : c.assign with
  | none =>
      simp only [bindIn, bound] at h
      exact ⟨by simp, h⟩
  | some own =>
      simp only [bindIn, bound, Scope.get?_bind] at h
      split at h
      · cases h
      · next ne => exact ⟨by simpa using ne, h⟩

/-- What is free behind conditions that hold and lacks a value there is free in front of them, and
lacks a value there, too. -/
theorem AllHold.lacks {s inner : Scope} {held : List Condition} {values : List Value}
    (h : AllHold s held values inner) (behind : String → Prop) (rest : List Condition)
    {name : String} (lacks : inner.Lacks (fun name => FreeBehind name (behind name) rest) name) :
    s.Lacks (fun name => FreeBehind name (behind name) (held ++ rest)) name := by
  induction h with
  | nil s => exact lacks
  | cons _ _ _ ih =>
      obtain ⟨free, none⟩ := ih lacks
      obtain ⟨unassigned, unbound⟩ := Condition.get?_bindIn_eq_none none
      exact ⟨.inr ⟨unassigned, free⟩, unbound⟩

namespace Rule

theorem failure_inRules (s : Scope) (message : Expr) :
    (failure s message).InRules (s.Lacks fun name => message.Mentions name) := by
  rw [failure]
  cases evaluates : message.evalString s with
  | ok text => exact .ruleDefined text
  | error e => exact .inExpr (message.evalString_failsBy s e evaluates)

theorem conclude_failsBy {s : Scope} (outcome : Outcome Rule)
    (inside : ∀ children, outcome = .tree children →
      FailsBy (Error.InRules (s.Lacks fun name => FreeAny name children)) (evalAll s children)) :
    FailsBy (Error.InRules (s.Lacks fun name => FreeOutcome name outcome))
      (conclude s outcome) := by
  cases outcome with
  | endpoint template => exact (template.eval_failsBy s).mono fun _ cause => .inExpr cause
  | error message => exact .error (failure_inRules s message)
  | tree children => exact inside children rfl

/-- Evaluation of rules fails for a name only where the name is free and has no value. -/
theorem evalAll_failsBy (rules : List Rule) : ∀ s : Scope,
    FailsBy (Error.InRules (s.Lacks fun name => FreeAny name rules)) (evalAll s rules) := by
  induction rules using nested_induction with
  | nil => exact fun _ => .error .noRuleMatched
  | cons rule rest inside ih =>
      intro s
      have first {name : String} (lacks : s.Lacks (fun name =>
          FreeBehind name (FreeOutcome name rule.outcome) rule.conditions) name) :
          s.Lacks (fun name => FreeAny name (rule :: rest)) name :=
        ⟨.inl ((free_iff name rule).mpr lacks.1), lacks.2⟩
      rcases conditions_cases rule.conditions s with ⟨values, inner, holds⟩ | skips | ⟨e, fails⟩
      · rw [evalAll_cons_of_allHold holds]
        refine (conclude_failsBy rule.outcome fun children tree =>
          inside children tree inner).mono ?_
        intro e cause
        refine cause.mono fun name lacks => first ?_
        have front := holds.lacks (fun name => FreeOutcome name rule.outcome) [] lacks
        rwa [List.append_nil] at front
      · rw [evalAll_cons_of_skipped skips]
        refine (ih s).mono ?_
        intro e cause
        exact cause.mono fun name lacks => ⟨.inr lacks.1, lacks.2⟩
      · rw [evalAll_cons_of_fails fails]
        obtain ⟨held, c, behind, values, inner, split, holds, evaluates⟩ := fails
        refine .error (.inExpr ((c.expr.eval_failsBy inner e evaluates).mono ?_))
        intro name lacks
        apply first
        rw [split]
        exact holds.lacks _ _ ⟨.inl lacks.1, lacks.2⟩

end Rule

/-- The causes for which binding fails. -/
inductive Error.InBinding : Error → Prop
  | typeMismatch (expected : List Kind) (found : Kind) : InBinding (.typeMismatch expected found)
  | missingRequired (name : String) : InBinding (.missingRequiredParameter name)

namespace Parameters

theorem check_failsBy (type : ParameterType) (value : Value) :
    FailsBy Error.InBinding (type.check value) := by
  rw [ParameterType.check]
  split
  · exact .ok _
  · exact .error (.typeMismatch _ _)

theorem bindAll_failsBy (supplied : Environment) (declarations : List (String × Parameter)) :
    FailsBy Error.InBinding (bindAll supplied declarations) := by
  induction declarations with
  | nil => exact .ok _
  | cons declaration rest ih =>
      obtain ⟨name, parameter⟩ := declaration
      have first : FailsBy Error.InBinding (parameter.bind name (supplied.get? name)) := by
        rw [Parameter.bind]
        split
        · exact .error (.missingRequired name)
        · exact .bind (check_failsBy _ _) fun _ => .ok _
      exact .bind first fun _ => .bind ih fun _ => .ok _

theorem bind_failsBy (parameters : Parameters) (supplied : Environment) :
    FailsBy Error.InBinding (parameters.bind supplied) :=
  .bind (bindAll_failsBy supplied parameters.entries) fun _ => .ok _

end Parameters

namespace RuleSet

/-- Only declared names are referred to where no earlier condition of the rule or of a tree around
it has bound them. -/
def WellScoped (ruleSet : RuleSet) : Prop :=
  ∀ name, Rule.FreeAny name ruleSet.rules → ruleSet.parameters.contains name

/-- A name for which resolution fails is free in the rules and not declared. -/
theorem free_of_resolve_eq_unresolvedReference {ruleSet : RuleSet} {supplied : Environment}
    {name : String} (failed : ruleSet.resolve supplied = .error (.unresolvedReference name)) :
    Rule.FreeAny name ruleSet.rules ∧ ruleSet.parameters.contains name = false := by
  rw [resolve] at failed
  cases bound : ruleSet.parameters.bind supplied with
  | error e =>
      rw [bound] at failed
      cases failed
      cases ruleSet.parameters.bind_failsBy supplied _ bound
  | ok environment =>
      rw [bound] at failed
      cases Rule.evalAll_failsBy ruleSet.rules { environment } _ failed with
      | inExpr cause =>
          cases cause with
          | unresolvedReference lacks =>
              obtain ⟨free, none⟩ := lacks
              rw [← Parameters.contains_of_bind bound]
              exact ⟨free, by simpa [Scope.get?, Assoc.find?, Dict.contains] using none⟩

/-- Static scoping is sound: a well-scoped rule set resolves without a failure for a name, whatever
is supplied. -/
theorem resolve_ne_unresolvedReference {ruleSet : RuleSet} (h : ruleSet.WellScoped)
    (supplied : Environment) (name : String) :
    ruleSet.resolve supplied ≠ .error (.unresolvedReference name) := by
  intro failed
  obtain ⟨free, undeclared⟩ := free_of_resolve_eq_unresolvedReference failed
  simp [h name free] at undeclared

/-- A tree whose condition binds what the rule inside it looks into; the region is optional. -/
def reportsSuffix : RuleSet where
  version := "1.0"
  parameters := .ofList [("Region", { type := .string })]
  rules :=
    [⟨[{ expr := .call .isSet [.reference "Region"] },
        { expr := .call .partition [.reference "Region"], assign := some "Partition" }],
      .tree [⟨[], .error (.template ⟨[.reference "Region", .access "Partition" "dnsSuffix"]⟩),
        none⟩], none⟩]

theorem resolve_ne_unresolvedReference_reportsSuffix :
    reportsSuffix.WellScoped ∧ reportsSuffix.resolve (.ofList [("Region", .string "r")]) ≠
      .error (.unresolvedReference "Partition") := by
  have visible : reportsSuffix.WellScoped := by
    intro name free
    simp [reportsSuffix, Rule.FreeAny, Rule.Free, FreeBehind, Expr.Mentions, Expr.MentionsAny,
      Template.Mentions, Template.Token.Mentions] at free
    obtain rfl | ⟨unbound, rfl | bound⟩ := free
    · rfl
    · rfl
    · exact absurd bound unbound
  exact ⟨visible, resolve_ne_unresolvedReference visible _ _⟩

end RuleSet

end EndpointResolution
