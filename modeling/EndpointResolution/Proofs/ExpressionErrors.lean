import EndpointResolution.Proofs.ArgumentKinds
import EndpointResolution.Proofs.FreeNames
import EndpointResolution.Proofs.StandardTable

/-!
Causes for which expressions fail: a value of the wrong kind, a path that is malformed or leads
nowhere, a wrong number of arguments, or a name that is mentioned where the scope has no value for
it. Nothing else fails inside a condition, an address or a message; in particular none of them
fails as if no rule had matched.
-/

namespace EndpointResolution

/-- The causes with which expressions fail; names count only if they are unbound. -/
inductive Error.InExpr (unbound : String → Prop) : Error → Prop
  | typeMismatch (expected : List Kind) (found : Kind) :
      InExpr unbound (.typeMismatch expected found)
  | unresolvedReference {name : String} (h : unbound name) :
      InExpr unbound (.unresolvedReference name)
  | attributeNotFound (name : String) : InExpr unbound (.attributeNotFound name)
  | invalidRuleSet (defect : Defect) : InExpr unbound (.invalidRuleSet defect)

theorem Error.InExpr.mono {names others : String → Prop} {e : Error} (h : e.InExpr names)
    (sub : ∀ name, names name → others name) : e.InExpr others := by
  cases h with
  | typeMismatch expected found => exact .typeMismatch expected found
  | unresolvedReference unbound => exact .unresolvedReference (sub _ unbound)
  | attributeNotFound name => exact .attributeNotFound name
  | invalidRuleSet defect => exact .invalidRuleSet defect

/-- If there is no result, it is for one of the causes. -/
def FailsBy {α : Type} (causes : Error → Prop) (result : Result α) : Prop :=
  ∀ e, result = .error e → causes e

namespace FailsBy

variable {α β : Type} {causes others : Error → Prop}

theorem ok (a : α) : FailsBy causes (.ok a) := by
  intro e h
  cases h

theorem error {e : Error} (h : causes e) : FailsBy causes (.error e : Result α) := by
  rintro _ ⟨⟩
  exact h

/-- The second computation may rely on the result of the first one. -/
theorem bind_of_eq {x : Result α} {f : α → Result β} (hx : FailsBy causes x)
    (hf : ∀ a, x = .ok a → FailsBy causes (f a)) : FailsBy causes (x >>= f) := by
  cases x with
  | ok a => exact hf a rfl
  | error e => exact .error (hx e rfl)

theorem bind {x : Result α} {f : α → Result β} (hx : FailsBy causes x)
    (hf : ∀ a, FailsBy causes (f a)) : FailsBy causes (x >>= f) :=
  hx.bind_of_eq fun a _ => hf a

theorem mono {x : Result α} (h : FailsBy causes x) (sub : ∀ e, causes e → others e) :
    FailsBy others x :=
  fun e failed => sub e (h e failed)

end FailsBy

/-- The causes with which following a path fails. -/
inductive AttributePath.Astray : Error → Prop
  | attributeNotFound (name : String) : Astray (.attributeNotFound name)
  | notRecord {found : Kind} (other : found ≠ .record) : Astray (.typeMismatch [.record] found)
  | notArray {found : Kind} (other : found ≠ .array) : Astray (.typeMismatch [.array] found)

theorem AttributePath.follow_astray (steps : List Step) (value : Value) :
    FailsBy Astray (follow steps value) := by
  induction steps generalizing value with
  | nil => exact .ok value
  | cons step rest ih =>
      cases step with
      | key name =>
          cases value with
          | record fields =>
              rw [follow]
              split
              · exact ih _
              · exact .error (.attributeNotFound name)
          | none | boolean _ | integer _ | string _ | array _ | endpoint _ _ _ =>
              exact .error (.notRecord (by simp [Value.kind]))
      | index position =>
          cases value with
          | array items =>
              rw [follow]
              split
              · exact ih _
              · exact .ok _
          | none | boolean _ | integer _ | string _ | record _ | endpoint _ _ _ =>
              exact .error (.notArray (by simp [Value.kind]))

section Causes

variable {causes : Error → Prop}
  (mismatch : ∀ expected found, causes (.typeMismatch expected found))

include mismatch

theorem Value.expectString_failsBy (value : Value) : FailsBy causes value.expectString := by
  rw [expectString, expect]
  split
  · exact .ok _
  · exact .error (mismatch _ _)

theorem AttributePath.follow_failsBy (missing : ∀ name, causes (.attributeNotFound name))
    (steps : List Step) (value : Value) : FailsBy causes (follow steps value) := by
  refine (follow_astray steps value).mono fun e astray => ?_
  cases astray with
  | attributeNotFound name => exact missing name
  | notRecord other => exact mismatch _ _
  | notArray other => exact mismatch _ _

theorem Function.checkKinds_failsBy (signature : List (List Kind)) (arguments : List Value) :
    FailsBy causes (checkKinds signature arguments) := by
  intro e failed
  obtain ⟨position, accepted, found, -, rfl⟩ := checkKinds_eq_error_iff.mp failed
  exact mismatch accepted found

end Causes

section Function

variable {unbound : String → Prop}

theorem AttributePath.parse_failsBy (text : String) :
    FailsBy (Error.InExpr unbound) (AttributePath.parse text) := by
  rw [parse]
  split
  · exact .ok _
  · exact .error (.invalidRuleSet _)

namespace Function

theorem checkArity_failsBy (f : Function) (given : Nat) :
    FailsBy (Error.InExpr unbound) (f.checkArity given) := by
  rw [checkArity]
  split
  · exact .ok _
  · exact .error (.invalidRuleSet _)

theorem compute_failsBy (f : Function) (arguments : List Value) :
    FailsBy (Error.InExpr unbound) (f.compute arguments) := by
  unfold compute
  split
  case h_5 =>
    split
    · exact AttributePath.follow_failsBy .typeMismatch .attributeNotFound _ _
    · next e parse => exact .error (AttributePath.parse_failsBy _ e parse)
  case h_11 region =>
    rw [partitionOf_eq_ok]
    exact .ok _
  case h_13 => exact .error (.invalidRuleSet _)
  all_goals exact .ok _

theorem apply_failsBy (f : Function) (arguments : List Value) :
    FailsBy (Error.InExpr unbound) (f.apply arguments) := by
  rw [apply]
  cases arity : f.checkArity arguments.length with
  | error e => exact .error (f.checkArity_failsBy _ e arity)
  | ok _ =>
      cases kinds : checkKinds f.signature arguments with
      | error e => exact .error (checkKinds_failsBy .typeMismatch _ _ e kinds)
      | ok _ => exact f.compute_failsBy arguments

end Function

end Function

/-- The names of a set that have no value in the scope. -/
def Scope.Lacks (s : Scope) (names : String → Prop) (name : String) : Prop :=
  names name ∧ s.get? name = none

theorem Scope.resolve_failsBy (s : Scope) {names : String → Prop} {name : String}
    (mentioned : names name) : FailsBy (Error.InExpr (s.Lacks names)) (s.resolve name) := by
  rw [resolve]
  cases bound : s.get? name with
  | some value => exact .ok value
  | none => exact .error (.unresolvedReference ⟨mentioned, bound⟩)

/-- Fewer mentions, fewer causes. -/
theorem FailsBy.of_mentions {α : Type} {x : Result α} {s : Scope} {names others : String → Prop}
    (h : FailsBy (Error.InExpr (s.Lacks names)) x) (sub : ∀ name, names name → others name) :
    FailsBy (Error.InExpr (s.Lacks others)) x :=
  h.mono fun _ cause => cause.mono fun name lacks => ⟨sub name lacks.1, lacks.2⟩

namespace Template

theorem Token.eval_failsBy (s : Scope) (token : Token) :
    FailsBy (Error.InExpr (s.Lacks fun name => token.Mentions name)) (token.eval s) := by
  cases token with
  | char c => exact .ok _
  | reference name =>
      refine .bind (s.resolve_failsBy rfl) ?_
      intro value
      exact value.expectString_failsBy .typeMismatch
  | access name path =>
      refine .bind (s.resolve_failsBy rfl) ?_
      intro value
      refine .bind (Function.apply_failsBy _ _) ?_
      intro found
      exact found.expectString_failsBy .typeMismatch

theorem eval_failsBy (s : Scope) (template : Template) :
    FailsBy (Error.InExpr (s.Lacks fun name => template.Mentions name)) (template.eval s) := by
  obtain ⟨tokens⟩ := template
  rw [eval]
  induction tokens with
  | nil => exact .ok _
  | cons token rest ih =>
      rw [evalTokens]
      refine .bind ((token.eval_failsBy s).of_mentions fun _ m => ⟨token, by simp, m⟩) ?_
      intro text
      refine .bind (ih.of_mentions ?_) fun more => .ok _
      rintro name ⟨other, member, m⟩
      exact ⟨other, by simp [member], m⟩

end Template

namespace Expr

mutual

theorem eval_failsBy (s : Scope) (e : Expr) :
    FailsBy (Error.InExpr (s.Lacks fun name => e.Mentions name)) (e.eval s) := by
  match e with
  | .boolean _ | .integer _ => exact .ok _
  | .template own => exact .bind (own.eval_failsBy s) fun _ => .ok _
  | .array items => exact .bind (evalAll_failsBy s items) fun _ => .ok _
  | .record fields => exact .bind (evalFields_failsBy s fields) fun _ => .ok _
  | .reference name => exact s.resolve_failsBy rfl
  | .call f arguments =>
      exact .bind (evalAll_failsBy s arguments) fun values => f.apply_failsBy values

theorem evalAll_failsBy (s : Scope) (items : List Expr) :
    FailsBy (Error.InExpr (s.Lacks fun name => MentionsAny name items)) (evalAll s items) := by
  match items with
  | [] => exact .ok _
  | item :: rest =>
      refine .bind ((eval_failsBy s item).of_mentions fun _ m => .inl m) ?_
      intro value
      refine .bind ((evalAll_failsBy s rest).of_mentions fun _ m => .inr m) ?_
      intro values
      exact .ok _

theorem evalFields_failsBy (s : Scope) (fields : List (String × Expr)) :
    FailsBy (Error.InExpr (s.Lacks fun name => MentionsField name fields))
      (evalFields s fields) := by
  match fields with
  | [] => exact .ok _
  | (name, expr) :: rest =>
      refine .bind ((eval_failsBy s expr).of_mentions fun _ m => .inl m) ?_
      intro value
      refine .bind ((evalFields_failsBy s rest).of_mentions fun _ m => .inr m) ?_
      intro values
      exact .ok _

end

theorem evalString_failsBy (s : Scope) (e : Expr) :
    FailsBy (Error.InExpr (s.Lacks fun name => e.Mentions name)) (e.evalString s) :=
  .bind (e.eval_failsBy s) fun value => value.expectString_failsBy .typeMismatch

theorem evalStrings_failsBy (s : Scope) (items : List Expr) :
    FailsBy (Error.InExpr (s.Lacks fun name => MentionsAny name items)) (evalStrings s items) := by
  induction items with
  | nil => exact .ok _
  | cons item rest ih =>
      refine .bind ((item.evalString_failsBy s).of_mentions fun _ m => .inl m) ?_
      intro text
      refine .bind (ih.of_mentions fun _ m => .inr m) ?_
      intro texts
      exact .ok _

end Expr

namespace EndpointTemplate

theorem evalHeaders_failsBy (s : Scope) (headers : List (String × List Expr)) :
    FailsBy (Error.InExpr (s.Lacks fun name =>
      ∃ header ∈ headers, Expr.MentionsAny name header.2)) (evalHeaders s headers) := by
  induction headers with
  | nil => exact .ok _
  | cons header rest ih =>
      obtain ⟨name, items⟩ := header
      refine .bind ((Expr.evalStrings_failsBy s items).of_mentions fun _ m =>
        ⟨(name, items), by simp, m⟩) ?_
      intro texts
      refine .bind (ih.of_mentions ?_) fun others => .ok _
      rintro name ⟨other, member, m⟩
      exact ⟨other, by simp [member], m⟩

theorem eval_failsBy (s : Scope) (template : EndpointTemplate) :
    FailsBy (Error.InExpr (s.Lacks fun name => template.Mentions name)) (template.eval s) := by
  refine .bind ((template.url.evalString_failsBy s).of_mentions fun _ m => .inl m) ?_
  intro url
  refine .bind ((evalHeaders_failsBy s template.headers.entries).of_mentions
    fun _ m => .inr (.inl m)) ?_
  intro headers
  refine .bind ((Expr.evalFields_failsBy s template.properties.entries).of_mentions
    fun _ m => .inr (.inr m)) ?_
  intro properties
  exact .ok _

end EndpointTemplate

/-- A rule without children does not fail as if no rule had matched. -/
theorem Rule.conclude_ne_noRuleMatched {s : Scope} {outcome : Outcome Rule}
    (flat : ∀ children, outcome ≠ .tree children) :
    Rule.conclude s outcome ≠ .error .noRuleMatched := by
  intro exhausted
  cases outcome with
  | endpoint template => cases template.eval_failsBy s _ exhausted
  | error message =>
      rw [conclude, failure] at exhausted
      cases evaluates : message.evalString s with
      | ok text => simp [evaluates] at exhausted
      | error e =>
          simp only [evaluates, Except.error.injEq] at exhausted
          subst exhausted
          cases message.evalString_failsBy s _ evaluates
  | tree children => exact flat children rfl

theorem Halts.ne_noRuleMatched {s : Scope} {conditions : List Condition} {result : Result Value}
    (h : Halts s conditions result) : result ≠ .error .noRuleMatched := by
  rintro rfl
  obtain ⟨held, c, rest, values, inner, -, -, fails⟩ := h
  cases c.expr.eval_failsBy inner _ fails

end EndpointResolution
