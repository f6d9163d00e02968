import EndpointResolution.Proofs.RuleSteps

/-!
Names that expressions and rules refer to. A name is free in a list of rules if it is mentioned
where no earlier condition of the rule or of a tree around it has bound it. Two scopes that agree
on the free names give the same result, whatever else they bind and however they keep it.
-/

namespace EndpointResolution

namespace Template

def Token.Mentions (name : String) : Token → Prop
  | .char _ => False
  | .reference other | .access other _ => other = name

def Mentions (name : String) (template : Template) : Prop :=
  ∃ token ∈ template.tokens, token.Mentions name

end Template

namespace Expr

mutual

def Mentions (name : String) : Expr → Prop
  | .template t => t.Mentions name
  | .array items | .call _ items => MentionsAny name items
  | .record fields => MentionsField name fields
  | .reference other => other = name
  | _ => False

def MentionsAny (name : String) : List Expr → Prop
  | [] => False
  | item :: rest => item.Mentions name ∨ MentionsAny name rest

def MentionsField (name : String) : List (String × Expr) → Prop
  | [] => False
  | (_, value) :: rest => value.Mentions name ∨ MentionsField name rest

end

end Expr

def EndpointTemplate.Mentions (name : String) (template : EndpointTemplate) : Prop :=
  template.url.Mentions name ∨
    (∃ header ∈ template.headers.entries, Expr.MentionsAny name header.2) ∨
    Expr.MentionsField name template.properties.entries

/-- Free in the conditions, or free behind them and bound by none. -/
def FreeBehind (name : String) (behind : Prop) : List Condition → Prop
  | [] => behind
  | c :: rest => c.expr.Mentions name ∨ (c.assign ≠ some name ∧ FreeBehind name behind rest)

namespace Rule

mutual

def Free (name : String) : Rule → Prop
  | ⟨conditions, .endpoint template, _⟩ => FreeBehind name (template.Mentions name) conditions
  | ⟨conditions, .error message, _⟩ => FreeBehind name (message.Mentions name) conditions
  | ⟨conditions, .tree rules, _⟩ => FreeBehind name (FreeAny name rules) conditions

def FreeAny (name : String) : List Rule → Prop
  | [] => False
  | rule :: rest => rule.Free name ∨ FreeAny name rest

end

/-- Free in the outcome, that is, behind the conditions. -/
def FreeOutcome (name : String) : Outcome Rule → Prop
  | .endpoint template => template.Mentions name
  | .error message => message.Mentions name
  | .tree rules => FreeAny name rules

theorem free_iff (name : String) (rule : Rule) :
    rule.Free name ↔ FreeBehind name (FreeOutcome name rule.outcome) rule.conditions := by
  obtain ⟨conditions, outcome, documentation⟩ := rule
  cases outcome <;> simp only [Free, FreeOutcome]

end Rule

/-- Both scopes give the names in question the same value or leave them unbound. -/
def AgreeOn (names : String → Prop) (s t : Scope) : Prop :=
  ∀ name, names name → s.get? name = t.get? name

theorem AgreeOn.mono {names others : String → Prop} {s t : Scope} (h : AgreeOn names s t)
    (sub : ∀ name, others name → names name) : AgreeOn others s t :=
  fun name mentioned => h name (sub name mentioned)

theorem AgreeOn.resolve {names : String → Prop} {s t : Scope} (h : AgreeOn names s t)
    (name : String) (mentioned : names name) : s.resolve name = t.resolve name := by
  simp only [Scope.resolve, h name mentioned]

theorem Scope.get?_bind (s : Scope) (name other : String) (value : Value) :
    (s.bind name value).get? other = if name = other then some value else s.get? other := by
  simp only [Scope.get?, Scope.bind, Assoc.find?]
  split <;> rfl

theorem AgreeOn.bindIn {names behind : String → Prop} {s t : Scope} (h : AgreeOn names s t)
    (c : Condition) (value : Value)
    (sub : ∀ name, c.assign ≠ some name → behind name → names name) :
    AgreeOn behind (c.bindIn value s) (c.bindIn value t) := by
  intro name free
  cases bound : c.assign with
  | none =>
      simp only [Condition.bindIn, bound]
      exact h name (sub name (by simp [bound]) free)
  | some own =>
      simp only [Condition.bindIn, bound, Scope.get?_bind]
      split
      · rfl
      · next ne => exact h name (sub name (by simpa [bound] using ne) free)

namespace Template

theorem Token.eval_congr {s t : Scope} (token : Token)
    (h : AgreeOn (fun name => token.Mentions name) s t) : token.eval s = token.eval t := by
  cases token with
  | char c => rfl
  | reference name | access name path => simp only [Token.eval, h.resolve name rfl]

theorem eval_congr {s t : Scope} (template : Template)
    (h : AgreeOn (fun name => template.Mentions name) s t) :
    template.eval s = template.eval t := by
  obtain ⟨tokens⟩ := template
  simp only [eval]
  induction tokens with
  | nil => rfl
  | cons token rest ih =>
      have first := token.eval_congr (h.mono fun name m => ⟨token, by simp, m⟩)
      have others := ih (h.mono fun name ⟨other, member, m⟩ => ⟨other, by simp [member], m⟩)
      simp only [evalTokens, first, others]

end Template

namespace Expr

mutual

theorem eval_congr {s t : Scope} (e : Expr) (h : AgreeOn (fun name => e.Mentions name) s t) :
    e.eval s = e.eval t := by
  match e with
  | .boolean _ | .integer _ => simp only [eval]
  | .template own => simp only [eval, own.eval_congr (h.mono fun _ m => m)]
  | .array items => simp only [eval, evalAll_congr items (h.mono fun _ m => m)]
  | .record fields => simp only [eval, evalFields_congr fields (h.mono fun _ m => m)]
  | .reference name => simpa only [eval] using h.resolve name rfl
  | .call f arguments => simp only [eval, evalAll_congr arguments (h.mono fun _ m => m)]

theorem evalAll_congr {s t : Scope} (items : List Expr)
    (h : AgreeOn (fun name => MentionsAny name items) s t) :
    evalAll s items = evalAll t items := by
  match items with
  | [] => rfl
  | item :: rest =>
      have first := eval_congr item (h.mono fun _ m => .inl m)
      have others := evalAll_congr rest (h.mono fun _ m => .inr m)
      simp only [evalAll, first, others]

theorem evalFields_congr {s t : Scope} (fields : List (String × Expr))
    (h : AgreeOn (fun name => MentionsField name fields) s t) :
    evalFields s fields = evalFields t fields := by
  match fields with
  | [] => rfl
  | (_, value) :: rest =>
      have first := eval_congr value (h.mono fun _ m => .inl m)
      have others := evalFields_congr rest (h.mono fun _ m => .inr m)
      simp only [evalFields, first, others]

end

theorem evalString_congr {s t : Scope} (e : Expr)
    (h : AgreeOn (fun name => e.Mentions name) s t) : e.evalString s = e.evalString t := by
  simp only [evalString, e.eval_congr h]

theorem evalStrings_congr {s t : Scope} (items : List Expr)
    (h : AgreeOn (fun name => MentionsAny name items) s t) :
    evalStrings s items = evalStrings t items := by
  induction items with
  | nil => rfl
  | cons item rest ih =>
      have first := item.evalString_congr (h.mono fun _ m => .inl m)
      have others := ih (h.mono fun _ m => .inr m)
      simp only [evalStrings, first, others]

end Expr

namespace EndpointTemplate

theorem evalHeaders_congr {s t : Scope} (headers : List (String × List Expr))
    (h : AgreeOn (fun name => ∃ header ∈ headers, Expr.MentionsAny name header.2) s t) :
    evalHeaders s headers = evalHeaders t headers := by
  induction headers with
  | nil => rfl
  | cons header rest ih =>
      have first := Expr.evalStrings_congr header.2 (h.mono fun _ m => ⟨header, by simp, m⟩)
      have others := ih (h.mono fun _ ⟨other, member, m⟩ => ⟨other, by simp [member], m⟩)
      simp only [evalHeaders, first, others]

theorem eval_congr {s t : Scope} (template : EndpointTemplate)
    (h : AgreeOn (fun name => template.Mentions name) s t) :
    template.eval s = template.eval t := by
  have url := template.url.evalString_congr (h.mono fun _ m => .inl m)
  have headers := evalHeaders_congr template.headers.entries (h.mono fun _ m => .inr (.inl m))
  have properties :=
    Expr.evalFields_congr template.properties.entries (h.mono fun _ m => .inr (.inr m))
  simp only [eval, url, headers, properties]

end EndpointTemplate

namespace Rule

/-- Scopes that agree on what is free in the conditions and behind them pass the conditions alike,
and agree afterwards on what is free behind them. -/
theorem enter_congr {behind : String → Prop} (conditions : List Condition) {s t : Scope}
    (h : AgreeOn (fun name => FreeBehind name (behind name) conditions) s t) :
    (∃ inner inner', enter s conditions = .ok (some inner) ∧
        enter t conditions = .ok (some inner') ∧ AgreeOn behind inner inner') ∨
      enter s conditions = enter t conditions := by
  induction conditions generalizing s t with
  | nil => exact .inl ⟨s, t, rfl, rfl, h⟩
  | cons c rest ih =>
      have same := c.expr.eval_congr (h.mono fun _ m => .inl m)
      simp only [enter, ← same, bind, Except.bind]
      cases c.expr.eval s with
      | error e => exact .inr rfl
      | ok value =>
          cases truthy : value.truthy with
          | true =>
              have behindThis := h.bindIn c value fun _ unbound m => .inr ⟨unbound, m⟩
              simpa [truthy] using ih behindThis
          | false => exact .inr (by simp [truthy])

theorem conclude_congr {s t : Scope} (outcome : Outcome Rule)
    (inside : ∀ children, outcome = .tree children →
      AgreeOn (fun name => FreeAny name children) s t → evalAll s children = evalAll t children)
    (h : AgreeOn (fun name => FreeOutcome name outcome) s t) :
    conclude s outcome = conclude t outcome := by
  cases outcome with
  | endpoint template => exact template.eval_congr h
  | error message => simp only [conclude, failure, message.evalString_congr h]
  | tree children => exact inside children rfl h

/-- If only free names matter inside a rule, only free names matter to the rule. -/
theorem eval_congr_of_inside {rule : Rule}
    (inside : ∀ children, rule.outcome = .tree children → ∀ {s t : Scope},
      AgreeOn (fun name => FreeAny name children) s t → evalAll s children = evalAll t children)
    {s t : Scope} (h : AgreeOn (fun name => rule.Free name) s t) : rule.eval s = rule.eval t := by
  rw [eval_eq, eval_eq]
  obtain ⟨inner, inner', hs, ht, agree⟩ | alike :=
    enter_congr rule.conditions (h.mono fun name m => (free_iff name rule).mpr m)
  · simp only [hs, ht]
    rw [conclude_congr rule.outcome (fun children tree => inside children tree) agree]
  · rw [alike]

/-- Only free names matter. -/
theorem evalAll_congr (rules : List Rule) :
    ∀ {s t : Scope}, AgreeOn (fun name => FreeAny name rules) s t →
      evalAll s rules = evalAll t rules := by
  induction rules using nested_induction with
  | nil => exact fun _ => rfl
  | cons rule rest inside ih =>
      intro s t h
      have same := eval_congr_of_inside inside (h.mono fun _ m => .inl m)
      have others := ih (h.mono fun _ m => .inr m)
      simp only [evalAll, same, others]

theorem eval_congr (rule : Rule) {s t : Scope} (h : AgreeOn (fun name => rule.Free name) s t) :
    rule.eval s = rule.eval t :=
  eval_congr_of_inside (fun children _ => evalAll_congr children) h

end Rule

end EndpointResolution
