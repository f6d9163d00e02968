import EndpointResolution.Proofs.FunctionResults
import EndpointResolution.Proofs.Results
import EndpointResolution.Proofs.TemplateGrammar

/-!
What is checked when an expression is built, and what evaluation makes of it. A function is given
as many arguments as it takes, and a path in plain text is a path. So if the paths of all `getAttr`
calls are plain text, evaluation fails for nothing that could have been seen before.
-/

namespace EndpointResolution

/-- The causes that depend on the values at hand. -/
inductive Error.AtRunTime : Error → Prop
  | typeMismatch (expected : List Kind) (found : Kind) : AtRunTime (.typeMismatch expected found)
  | unresolvedReference (name : String) : AtRunTime (.unresolvedReference name)
  | attributeNotFound (name : String) : AtRunTime (.attributeNotFound name)
  | noRuleMatched : AtRunTime .noRuleMatched
  | ruleDefined (message : String) : AtRunTime (.ruleDefined message)

namespace Expr

mutual

/-- The expression and all those inside it. -/
def subexpressions : Expr → List Expr
  | .call f arguments => .call f arguments :: allSubexpressions arguments
  | .array items => .array items :: allSubexpressions items
  | .record fields => .record fields :: fieldSubexpressions fields
  | .boolean b => [.boolean b]
  | .integer n => [.integer n]
  | .template t => [.template t]
  | .reference name => [.reference name]

def allSubexpressions : List Expr → List Expr
  | [] => []
  | item :: rest => item.subexpressions ++ allSubexpressions rest

def fieldSubexpressions : List (String × Expr) → List Expr
  | [] => []
  | (_, value) :: rest => value.subexpressions ++ fieldSubexpressions rest

end

/-- What is checked when an expression is built from others. -/
def Checked : Expr → Prop
  | .template t => ∃ text, Template.parse text = .ok t
  | .call f arguments => ofCall f arguments = .ok (.call f arguments)
  | .boolean _ | .integer _ | .array _ | .record _ | .reference _ => True

/-- The path of a `getAttr` is given as plain text. -/
def LiteralPath : Expr → Prop
  | .call .getAttr arguments => ∃ path, literalPath? .getAttr arguments = some path
  | _ => True

/-- Evaluation relies on this, apart from the expressions inside. -/
def Settled (e : Expr) : Prop := e.Checked ∧ e.LiteralPath

theorem fieldSubexpressions_eq_flatMap (fields : List (String × Expr)) :
    fieldSubexpressions fields = fields.flatMap fun field => field.2.subexpressions := by
  induction fields with
  | nil => rfl
  | cons field rest ih => rw [fieldSubexpressions, ih, List.flatMap_cons]

end Expr

namespace Function

/-- With as many arguments as it takes, and a path that is one, a function fails for the kinds of
its arguments or for a name on the path. -/
theorem apply_atRunTime {f : Function} {arguments : List Value}
    (counted : arguments.length = f.arity)
    (leads : f = .getAttr → ∃ value path found, arguments = [value, .string path] ∧
      AttributePath.parse? path = some found) :
    FailsBy Error.AtRunTime (f.apply arguments) := by
  rw [apply_of_counted counted]
  refine .bind_of_eq (checkKinds_failsBy .typeMismatch _ _) fun _ kinds => ?_
  by_cases path : f = .getAttr
  · obtain ⟨value, text, found, rfl, read⟩ := leads path
    subst path
    simp only [compute, AttributePath.parse, read]
    exact AttributePath.follow_failsBy .typeMismatch .attributeNotFound _ _
  · have fits := fits_iff.mpr ⟨counted, checkKinds_eq_ok_iff.mp kinds⟩
    obtain ⟨value, computes, -⟩ := exists_compute fits path
    rw [computes]
    exact .ok value

end Function

theorem Scope.resolve_atRunTime (s : Scope) (name : String) :
    FailsBy Error.AtRunTime (s.resolve name) := by
  rw [resolve]
  split
  · exact .ok _
  · exact .error (.unresolvedReference name)

namespace Template

theorem Token.Valid.eval_atRunTime {token : Token} (valid : token.Valid) (s : Scope) :
    FailsBy Error.AtRunTime (token.eval s) := by
  cases token with
  | char c => exact .ok _
  | reference name =>
      exact .bind (s.resolve_atRunTime name) fun value => value.expectString_failsBy .typeMismatch
  | access name path =>
      obtain ⟨found, read⟩ := AttributePath.wellFormed_iff.mp valid.2.2
      refine .bind (s.resolve_atRunTime name) fun value => ?_
      refine .bind (Function.apply_atRunTime rfl fun _ => ⟨value, path, found, rfl, read⟩) ?_
      exact fun found => found.expectString_failsBy .typeMismatch

theorem eval_atRunTime {t : Template} (valid : ∀ token ∈ t.tokens, token.Valid) (s : Scope) :
    FailsBy Error.AtRunTime (t.eval s) := by
  obtain ⟨tokens⟩ := t
  rw [eval]
  induction tokens with
  | nil => exact .ok _
  | cons token rest ih =>
      rw [List.forall_mem_cons] at valid
      rw [evalTokens]
      exact .bind (valid.1.eval_atRunTime s) fun text => .bind (ih valid.2) fun more => .ok _

/-- Plain text evaluates to itself, with doubled braces undone. -/
theorem eval_of_literal? {t : Template} {literal : String} (h : t.literal? = some literal)
    (s : Scope) : t.eval s = .ok literal := by
  have plain (chars : List Char) :
      evalTokens s (chars.map .char) = .ok (String.ofList chars) := by
    induction chars with
    | nil => rfl
    | cons c rest ih =>
        rw [List.map_cons, evalTokens, ih]
        exact congrArg Except.ok (by simp)
  rw [eval, literal?_eq_some_iff.mp h, plain, String.ofList_toList]

end Template

namespace Expr

variable {s : Scope}

theorem checks_of_ofCall {f : Function} {arguments : List Expr} {e : Expr}
    (h : ofCall f arguments = .ok e) :
    arguments.length = f.arity ∧ ∀ path, literalPath? f arguments = some path →
      ∃ found, AttributePath.parse? path = some found := by
  obtain ⟨_, counted, rest⟩ := Result.bind_eq_ok_iff.mp h
  rw [Function.checkArity] at counted
  split at counted
  · next fits =>
      refine ⟨fits, fun path literal => ?_⟩
      rw [literal] at rest
      obtain ⟨_, read, -⟩ := Result.bind_eq_ok_iff.mp rest
      rw [AttributePath.parse] at read
      split at read
      · next found own => exact ⟨found, own⟩
      · cases read
  · cases counted

theorem evalAll_cons_eq_ok_iff {item : Expr} {rest : List Expr} {values : List Value} :
    evalAll s (item :: rest) = .ok values ↔ ∃ value others, item.eval s = .ok value ∧
      evalAll s rest = .ok others ∧ values = value :: others := by
  rw [evalAll]
  exact Result.both_eq_ok_iff

theorem length_of_evalAll {items : List Expr} {values : List Value}
    (h : evalAll s items = .ok values) : values.length = items.length := by
  induction items generalizing values with
  | nil =>
      cases h
      rfl
  | cons item rest ih =>
      obtain ⟨value, others, -, behind, rfl⟩ := evalAll_cons_eq_ok_iff.mp h
      simp [ih behind]

/-- The path of a `getAttr` that is given as plain text is the one that evaluation finds. -/
theorem eq_of_evalAll_of_literalPath? {f : Function} {arguments : List Expr} {values : List Value}
    {path : String} (literal : literalPath? f arguments = some path)
    (h : evalAll s arguments = .ok values) : ∃ value, values = [value, .string path] := by
  unfold literalPath? at literal
  split at literal
  · next first t =>
      obtain ⟨value, _, -, behind, rfl⟩ := evalAll_cons_eq_ok_iff.mp h
      obtain ⟨second, _, own, last, rfl⟩ := evalAll_cons_eq_ok_iff.mp behind
      cases last
      rw [eval, Template.eval_of_literal? literal] at own
      cases own
      exact ⟨value, rfl⟩
  · cases literal

mutual

theorem eval_atRunTime (s : Scope) (e : Expr)
    (h : ∀ inner ∈ e.subexpressions, inner.Settled) :
    FailsBy Error.AtRunTime (e.eval s) := by
  match e with
  | .boolean _ | .integer _ => exact .ok _
  | .template t =>
      obtain ⟨⟨text, read⟩, -⟩ := h (.template t) List.mem_cons_self
      have valid := (Template.parse_eq_ok_iff.mp read).1
      exact .bind (Template.eval_atRunTime valid s) fun _ => .ok _
  | .array items =>
      rw [subexpressions, List.forall_mem_cons] at h
      exact .bind (evalAll_atRunTime s items h.2) fun _ => .ok _
  | .record fields =>
      rw [subexpressions, List.forall_mem_cons] at h
      exact .bind (evalFields_atRunTime s fields h.2) fun _ => .ok _
  | .reference name => exact s.resolve_atRunTime name
  | .call f arguments =>
      rw [subexpressions, List.forall_mem_cons] at h
      obtain ⟨⟨checked, literal⟩, inside⟩ := h
      obtain ⟨fits, leads⟩ := checks_of_ofCall checked
      refine .bind_of_eq (evalAll_atRunTime s arguments inside) fun values evaluates => ?_
      refine Function.apply_atRunTime ((length_of_evalAll evaluates).trans fits) ?_
      rintro rfl
      obtain ⟨path, plain⟩ := literal
      obtain ⟨value, rfl⟩ := eq_of_evalAll_of_literalPath? plain evaluates
      obtain ⟨found, read⟩ := leads path plain
      exact ⟨value, path, found, rfl, read⟩

theorem evalAll_atRunTime (s : Scope) (items : List Expr)
    (h : ∀ inner ∈ allSubexpressions items, inner.Settled) :
    FailsBy Error.AtRunTime (evalAll s items) := by
  match items with
  | [] => exact .ok _
  | item :: rest =>
      rw [allSubexpressions, List.forall_mem_append] at h
      refine .bind (eval_atRunTime s item h.1) fun value => ?_
      exact .bind (evalAll_atRunTime s rest h.2) fun values => .ok _

theorem evalFields_atRunTime (s : Scope) (fields : List (String × Expr))
    (h : ∀ inner ∈ fieldSubexpressions fields, inner.Settled) :
    FailsBy Error.AtRunTime (evalFields s fields) := by
  match fields with
  | [] => exact .ok _
  | (name, expr) :: rest =>
      rw [fieldSubexpressions, List.forall_mem_append] at h
      refine .bind (eval_atRunTime s expr h.1) fun value => ?_
      exact .bind (evalFields_atRunTime s rest h.2) fun values => .ok _

end

theorem evalString_atRunTime (s : Scope) (e : Expr)
    (h : ∀ inner ∈ e.subexpressions, inner.Settled) :
    FailsBy Error.AtRunTime (e.evalString s) :=
  .bind (e.eval_atRunTime s h) fun value => value.expectString_failsBy .typeMismatch

theorem evalStrings_atRunTime (s : Scope) (items : List Expr)
    (h : ∀ inner ∈ allSubexpressions items, inner.Settled) :
    FailsBy Error.AtRunTime (evalStrings s items) := by
  induction items with
  | nil => exact .ok _
  | cons item rest ih =>
      rw [allSubexpressions, List.forall_mem_append] at h
      exact .bind (item.evalString_atRunTime s h.1) fun text => .bind (ih h.2) fun texts => .ok _

end Expr

end EndpointResolution
