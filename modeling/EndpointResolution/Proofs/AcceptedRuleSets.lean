import EndpointResolution.Proofs.CheckedExpressions
import EndpointResolution.Proofs.RuleSetJson
import EndpointResolution.Proofs.StaticScope

/-!
Rule sets that have been accepted. Whatever is loaded from a document has been checked expression by
expression, as if it were built. If moreover the paths of `getAttr` calls are plain text, resolution
fails for the values at hand or for a parameter that is missing, and never because the rule set is
malformed.
-/

namespace EndpointResolution

namespace EndpointTemplate

def expressions (t : EndpointTemplate) : List Expr :=
  t.url.subexpressions ++ t.headers.entries.flatMap (fun header => Expr.allSubexpressions header.2)
    ++ Expr.fieldSubexpressions t.properties.entries

end EndpointTemplate

namespace Rule

def conditionExpressions (conditions : List Condition) : List Expr :=
  conditions.flatMap (·.expr.subexpressions)

mutual

def expressions : Rule → List Expr
  | ⟨conditions, .endpoint template, _⟩ => conditionExpressions conditions ++ template.expressions
  | ⟨conditions, .error message, _⟩ => conditionExpressions conditions ++ message.subexpressions
  | ⟨conditions, .tree rules, _⟩ => conditionExpressions conditions ++ allExpressions rules

def allExpressions : List Rule → List Expr
  | [] => []
  | rule :: rest => rule.expressions ++ allExpressions rest

end

def outcomeExpressions : Outcome Rule → List Expr
  | .endpoint template => template.expressions
  | .error message => message.subexpressions
  | .tree rules => allExpressions rules

theorem expressions_eq (rule : Rule) :
    rule.expressions = conditionExpressions rule.conditions ++ outcomeExpressions rule.outcome := by
  obtain ⟨conditions, outcome, documentation⟩ := rule
  cases outcome <;> simp only [expressions, outcomeExpressions]

end Rule

namespace RuleSet

/-- The expressions of a rule set, at every depth. -/
def expressions (ruleSet : RuleSet) : List Expr := Rule.allExpressions ruleSet.rules

/-- Every expression has been checked when it was built. -/
def Constructed (ruleSet : RuleSet) : Prop := ∀ e ∈ ruleSet.expressions, e.Checked

/-- The path of every `getAttr` is given as plain text. -/
def LiteralPaths (ruleSet : RuleSet) : Prop := ∀ e ∈ ruleSet.expressions, e.LiteralPath

end RuleSet

namespace EndpointTemplate

theorem evalHeaders_atRunTime (s : Scope) (headers : List (String × List Expr))
    (h : ∀ header ∈ headers, ∀ e ∈ Expr.allSubexpressions header.2, e.Settled) :
    FailsBy Error.AtRunTime (evalHeaders s headers) := by
  induction headers with
  | nil => exact .ok _
  | cons header rest ih =>
      rw [List.forall_mem_cons] at h
      refine .bind (Expr.evalStrings_atRunTime s header.2 h.1) fun texts => ?_
      exact .bind (ih h.2) fun others => .ok _

theorem eval_atRunTime (s : Scope) {t : EndpointTemplate} (h : ∀ e ∈ t.expressions, e.Settled) :
    FailsBy Error.AtRunTime (t.eval s) := by
  rw [expressions, List.forall_mem_append, List.forall_mem_append] at h
  obtain ⟨⟨url, headers⟩, properties⟩ := h
  refine .bind (t.url.evalString_atRunTime s url) fun _ => ?_
  refine .bind (evalHeaders_atRunTime s t.headers.entries ?_) fun _ => ?_
  · exact fun header member e inside => headers e (List.mem_flatMap.mpr ⟨header, member, inside⟩)
  · exact .bind (Expr.evalFields_atRunTime s t.properties.entries properties) fun _ => .ok _

end EndpointTemplate

namespace Rule

theorem failure_atRunTime (s : Scope) {message : Expr}
    (h : ∀ e ∈ message.subexpressions, e.Settled) : (failure s message).AtRunTime := by
  rw [failure]
  cases evaluates : message.evalString s with
  | ok text => exact .ruleDefined text
  | error e => exact message.evalString_atRunTime s h e evaluates

theorem atRunTime_of_fails {s : Scope} {conditions : List Condition} {e : Error}
    (fails : Fails s conditions e) (h : ∀ own ∈ conditionExpressions conditions, own.Settled) :
    e.AtRunTime := by
  obtain ⟨held, c, behind, values, inner, rfl, -, evaluates⟩ := fails
  refine c.expr.eval_atRunTime inner (fun own inside => h own ?_) e evaluates
  exact List.mem_flatMap.mpr ⟨c, by simp, inside⟩

theorem conclude_atRunTime {s : Scope} (outcome : Outcome Rule)
    (h : ∀ e ∈ outcomeExpressions outcome, e.Settled)
    (inside : ∀ children, outcome = .tree children →
      FailsBy Error.AtRunTime (evalAll s children)) :
    FailsBy Error.AtRunTime (conclude s outcome) := by
  cases outcome with
  | endpoint template => exact template.eval_atRunTime s h
  | error message => exact .error (failure_atRunTime s h)
  | tree children => exact inside children rfl

theorem evalAll_atRunTime (rules : List Rule) :
    (∀ e ∈ allExpressions rules, e.Settled) → ∀ s, FailsBy Error.AtRunTime (evalAll s rules) := by
  induction rules using nested_induction with
  | nil => exact fun _ _ => .error .noRuleMatched
  | cons rule rest inside ih =>
      intro h s
      rw [allExpressions, expressions_eq, List.forall_mem_append, List.forall_mem_append] at h
      obtain ⟨⟨conditions, outcome⟩, others⟩ := h
      rcases conditions_cases rule.conditions s with ⟨values, inner, holds⟩ | skips | ⟨e, fails⟩
      · rw [evalAll_cons_of_allHold holds]
        refine conclude_atRunTime rule.outcome outcome fun children tree => ?_
        rw [tree] at outcome
        exact inside children tree outcome inner
      · rw [evalAll_cons_of_skipped skips]
        exact ih others s
      · rw [evalAll_cons_of_fails fails]
        exact .error (atRunTime_of_fails fails conditions)

end Rule

namespace Document

namespace Term

mutual

theorem checked_of_compile (term : Term) {e : Expr} (h : term.compile = .ok e) :
    ∀ inner ∈ e.subexpressions, inner.Checked := by
  match term with
  | .reference _ | .boolean _ | .integer _ =>
      cases h
      simp [Expr.subexpressions, Expr.Checked]
  | .string s =>
      obtain ⟨t, read, rfl⟩ := compile_string_eq_ok_iff.mp h
      simpa [Expr.subexpressions, Expr.Checked] using ⟨s, read⟩
  | .array items =>
      obtain ⟨exprs, compiled, rfl⟩ := compile_array_eq_ok_iff.mp h
      rw [Expr.subexpressions, List.forall_mem_cons]
      exact ⟨trivial, checked_of_compileAll items compiled⟩
  | .record terms =>
      obtain ⟨fields, compiled, rfl⟩ := compile_record_eq_ok_iff.mp h
      rw [Expr.subexpressions, List.forall_mem_cons]
      exact ⟨trivial, checked_of_compileFields terms compiled⟩
  | .call name arguments =>
      obtain ⟨f, exprs, -, compiled, built⟩ := compile_call_eq_ok_iff.mp h
      obtain rfl := Expr.eq_call_of_ofCall built
      rw [Expr.subexpressions, List.forall_mem_cons]
      exact ⟨built, checked_of_compileAll arguments compiled⟩

theorem checked_of_compileAll (items : List Term) {exprs : List Expr}
    (h : compileAll items = .ok exprs) : ∀ e ∈ Expr.allSubexpressions exprs, e.Checked := by
  match items with
  | [] =>
      cases h
      simp [Expr.allSubexpressions]
  | item :: rest =>
      obtain ⟨e, others, own, behind, rfl⟩ := compileAll_cons_eq_ok_iff.mp h
      rw [Expr.allSubexpressions, List.forall_mem_append]
      exact ⟨checked_of_compile item own, checked_of_compileAll rest behind⟩

theorem checked_of_compileFields (terms : List (String × Term)) {fields : List (String × Expr)}
    (h : compileFields terms = .ok fields) :
    ∀ e ∈ Expr.fieldSubexpressions fields, e.Checked := by
  match terms with
  | [] =>
      cases h
      simp [Expr.fieldSubexpressions]
  | (name, value) :: rest =>
      obtain ⟨e, others, own, behind, rfl⟩ := compileFields_cons_eq_ok_iff.mp h
      rw [Expr.fieldSubexpressions, List.forall_mem_append]
      exact ⟨checked_of_compile value own, checked_of_compileFields rest behind⟩

end

end Term

theorem checked_of_compileClauses {clauses : List Clause} {conditions : List Condition}
    (h : compileClauses clauses = .ok conditions) :
    ∀ e ∈ Rule.conditionExpressions conditions, e.Checked := by
  intro e inside
  obtain ⟨c, member, inside⟩ := List.mem_flatMap.mp inside
  rw [compileClauses_eq_mapM] at h
  obtain ⟨clause, -, compiled⟩ := Result.exists_of_mem_mapM h member
  obtain ⟨expr, own, whole⟩ := Result.bind_eq_ok_iff.mp compiled
  cases whole
  exact Term.checked_of_compile _ own e inside

/-- What is left out or put in order has been checked all the same. -/
theorem Target.checked_of_compile {target : Target} {t : EndpointTemplate}
    (h : target.compile = .ok t) : ∀ e ∈ t.expressions, e.Checked := by
  obtain ⟨url, headers, properties, compiledUrl, compiledHeaders, compiledProperties, rfl⟩ :=
    compile_eq_ok_iff.mp h
  rw [compileHeaders_eq_mapFields] at compiledHeaders
  rw [EndpointTemplate.expressions, List.forall_mem_append, List.forall_mem_append]
  refine ⟨⟨Term.checked_of_compile target.url compiledUrl, ?_⟩, ?_⟩
  · intro e inside
    obtain ⟨header, member, inside⟩ := List.mem_flatMap.mp inside
    have listed := (List.mem_filter.mp (Assoc.mem_of_mem_ofList member)).1
    obtain ⟨terms, -, compiled⟩ := Result.exists_of_mem_mapFields compiledHeaders listed
    exact Term.checked_of_compileAll terms compiled e inside
  · intro e inside
    rw [Expr.fieldSubexpressions_eq_flatMap] at inside
    obtain ⟨property, member, inside⟩ := List.mem_flatMap.mp inside
    refine Term.checked_of_compileFields _ compiledProperties e ?_
    rw [Expr.fieldSubexpressions_eq_flatMap]
    exact List.mem_flatMap.mpr ⟨property, Assoc.mem_of_mem_ofList member, inside⟩

namespace Entry

mutual

theorem checked_of_compile (entry : Entry) {rule : Rule} (h : entry.compile = .ok rule) :
    ∀ e ∈ rule.expressions, e.Checked := by
  match entry with
  | .endpoint clauses target _ =>
      obtain ⟨template, conditions, own, held, rfl⟩ := compile_endpoint_eq_ok_iff.mp h
      rw [Rule.expressions, List.forall_mem_append]
      exact ⟨checked_of_compileClauses held, Target.checked_of_compile own⟩
  | .error clauses message _ =>
      obtain ⟨expr, conditions, own, held, rfl⟩ := compile_error_eq_ok_iff.mp h
      rw [Rule.expressions, List.forall_mem_append]
      exact ⟨checked_of_compileClauses held, Term.checked_of_compile message own⟩
  | .tree clauses entries _ =>
      obtain ⟨rules, conditions, own, held, rfl⟩ := compile_tree_eq_ok_iff.mp h
      rw [Rule.expressions, List.forall_mem_append]
      exact ⟨checked_of_compileClauses held, checked_of_compileAll entries own⟩

theorem checked_of_compileAll (entries : List Entry) {rules : List Rule}
    (h : compileAll entries = .ok rules) : ∀ e ∈ Rule.allExpressions rules, e.Checked := by
  match entries with
  | [] =>
      cases h
      simp [Rule.allExpressions]
  | entry :: rest =>
      obtain ⟨rule, others, own, behind, rfl⟩ := compileAll_cons_eq_ok_iff.mp h
      rw [Rule.allExpressions, List.forall_mem_append]
      exact ⟨checked_of_compile entry own, checked_of_compileAll rest behind⟩

end

end Entry

end Document

namespace RuleSet

/-- Loading checks as much as the constructors do. -/
theorem constructed_of_ofText {text : String} {ruleSet : RuleSet}
    (h : ofText text = .ok ruleSet) : ruleSet.Constructed := by
  obtain ⟨json, -, read⟩ := ofText_eq_ok_iff.mp h
  obtain ⟨document, -, compiled⟩ := ofJson_eq_ok_iff.mp read
  obtain ⟨rules, own, -, rfl⟩ := Document.compile_eq_ok_iff.mp compiled
  exact Document.Entry.checked_of_compileAll document.rules own

/-- A rule set that has been accepted does not turn out malformed: if its paths are plain text,
resolution fails for the values at hand or for a parameter that is missing, and evaluation of its
rules for the values at hand alone. -/
theorem atRunTime_of_accepted {ruleSet : RuleSet}
    (accepted : ruleSet.Constructed ∨ ∃ text, ofText text = .ok ruleSet)
    (literal : ruleSet.LiteralPaths) :
    (∀ supplied e, ruleSet.resolve supplied = .error e →
      e.AtRunTime ∨ ∃ name, e = .missingRequiredParameter name) ∧
    ∀ environment e, Rule.evaluate ruleSet.rules environment = .error e → e.AtRunTime := by
  have checked : ruleSet.Constructed := by
    rcases accepted with constructed | ⟨text, loaded⟩
    · exact constructed
    · exact constructed_of_ofText loaded
  have evaluates (environment : Environment) :
      FailsBy Error.AtRunTime (Rule.evaluate ruleSet.rules environment) :=
    Rule.evalAll_atRunTime ruleSet.rules (fun e inside => ⟨checked e inside, literal e inside⟩) _
  refine ⟨fun supplied e failed => ?_, evaluates⟩
  rw [resolve] at failed
  cases bound : ruleSet.parameters.bind supplied with
  | error own =>
      rw [bound] at failed
      cases failed
      cases ruleSet.parameters.bind_failsBy supplied e bound with
      | typeMismatch expected found => exact .inl (.typeMismatch expected found)
      | missingRequired name => exact .inr ⟨name, rfl⟩
  | ok environment =>
      rw [bound] at failed
      exact .inl (evaluates environment e failed)

/-- A path with a brace in it, which is doubled in the literal, and one inside a message. -/
def reportsBraced : RuleSet where
  version := "1.0"
  parameters := .ofList [("Region", { type := .string })]
  rules :=
    [⟨[{ expr := .call .getAttr [.record [("a\x7b", .reference "Region")],
            .template ⟨[.char 'a', .char '\x7b']⟩] }],
        .error (.template ⟨[.access "Region" "x"]⟩), none⟩]

/-- The path of the message does not lead into a text. -/
theorem atRunTime_of_accepted_reportsBraced :
    let supplied : Environment := .ofList [("Region", .string "r")]
    let e : Error := .typeMismatch Function.indexable .string
    reportsBraced.Constructed ∧ reportsBraced.LiteralPaths ∧
      reportsBraced.resolve supplied = .error e ∧
      (e.AtRunTime ∨ ∃ name, e = .missingRequiredParameter name) := by
  intro supplied e
  have escaped : Template.parse "a\x7b\x7b" = .ok ⟨[.char 'a', .char '\x7b']⟩ := rfl
  have short : Template.parse "\x7bRegion#x\x7d" = .ok ⟨[.access "Region" "x"]⟩ := rfl
  let path : Template := ⟨[.char 'a', .char '\x7b']⟩
  let fields : List (String × Expr) := [("a\x7b", .reference "Region")]
  have inside : reportsBraced.expressions =
      [.call .getAttr [.record fields, .template path], .record fields, .reference "Region",
        .template path, .template ⟨[.access "Region" "x"]⟩] := rfl
  have made : reportsBraced.Constructed := by
    rw [Constructed, inside]
    simp only [List.forall_mem_cons]
    exact ⟨rfl, trivial, trivial, ⟨_, escaped⟩, ⟨_, short⟩, by simp⟩
  have literal : reportsBraced.LiteralPaths := by
    rw [LiteralPaths, inside]
    simp only [List.forall_mem_cons]
    exact ⟨⟨_, rfl⟩, trivial, trivial, trivial, trivial, by simp⟩
  have failed : reportsBraced.resolve supplied = .error e := rfl
  exact ⟨made, literal, failed,
    (atRunTime_of_accepted (.inl made) literal).1 supplied e failed⟩

end RuleSet

end EndpointResolution
