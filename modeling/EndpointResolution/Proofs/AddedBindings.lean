import EndpointResolution.Proofs.FreeNames

/-!
Environments with more bindings. A name without a value ends evaluation at once, wherever it is
looked up: it never counts as falsy, and no other rule is tried. So a result that is no such failure
stays the same whatever else the environment binds, and a failure stays unless its name is one of
those bound besides.
-/

namespace EndpointResolution

/-- Both scopes look names up alike, but for added ones, which only the second one binds. -/
def Scope.ExtendedBy (added : String → Prop) (s t : Scope) : Prop :=
  ∀ name, t.get? name = s.get? name ∨ s.get? name = none ∧ added name

/-- The first result is the second one, or fails for an added name. -/
inductive Kept {α : Type} (added : String → Prop) : Result α → Result α → Prop
  | same (x : Result α) : Kept added x x
  | unresolved {name : String} (h : added name) (y : Result α) :
      Kept added (.error (.unresolvedReference name)) y

section

variable {added : String → Prop} {s t : Scope}

theorem Kept.bind {α β : Type} {x y : Result α} {f g : α → Result β} (hx : Kept added x y)
    (hf : ∀ a, Kept added (f a) (g a)) : Kept added (x >>= f) (y >>= g) := by
  cases hx with
  | same =>
      cases x with
      | ok a => exact hf a
      | error e => exact .same _
  | unresolved h => exact .unresolved h _

theorem Kept.of_ok {α : Type} {a : α} {y : Result α} (h : Kept added (.ok a) y) : y = .ok a := by
  cases h with
  | same => rfl

theorem Scope.ExtendedBy.resolve (h : s.ExtendedBy added t) (name : String) :
    Kept added (s.resolve name) (t.resolve name) := by
  simp only [Scope.resolve]
  rcases h name with same | ⟨unbound, new⟩
  · rw [same]
    exact .same _
  · rw [unbound]
    exact .unresolved new _

theorem Scope.ExtendedBy.bindIn (h : s.ExtendedBy added t) (c : Condition) (value : Value) :
    (c.bindIn value s).ExtendedBy added (c.bindIn value t) := by
  intro name
  cases bound : c.assign with
  | none =>
      simp only [Condition.bindIn, bound]
      exact h name
  | some own =>
      simp only [Condition.bindIn, bound, Scope.get?_bind]
      split
      · exact .inl rfl
      · exact h name

namespace Template

theorem Token.eval_kept (h : s.ExtendedBy added t) (token : Token) :
    Kept added (token.eval s) (token.eval t) := by
  cases token with
  | char c => exact .same _
  | reference name => exact (h.resolve name).bind fun _ => .same _
  | access name path =>
      exact (h.resolve name).bind fun _ => .same _

theorem eval_kept (h : s.ExtendedBy added t) (template : Template) :
    Kept added (template.eval s) (template.eval t) := by
  obtain ⟨tokens⟩ := template
  simp only [eval]
  induction tokens with
  | nil => exact .same _
  | cons token rest ih =>
      exact (token.eval_kept h).bind fun _ => ih.bind fun _ => .same _

end Template

namespace Expr

mutual

theorem eval_kept (h : s.ExtendedBy added t) (e : Expr) : Kept added (e.eval s) (e.eval t) := by
  match e with
  | .boolean _ | .integer _ => exact .same _
  | .template own => exact (own.eval_kept h).bind fun _ => .same _
  | .array items => exact (evalAll_kept h items).bind fun _ => .same _
  | .record fields => exact (evalFields_kept h fields).bind fun _ => .same _
  | .reference name => exact h.resolve name
  | .call f arguments => exact (evalAll_kept h arguments).bind fun _ => .same _

theorem evalAll_kept (h : s.ExtendedBy added t) (items : List Expr) :
    Kept added (evalAll s items) (evalAll t items) := by
  match items with
  | [] => exact .same _
  | item :: rest =>
      exact (eval_kept h item).bind fun _ => (evalAll_kept h rest).bind fun _ => .same _

theorem evalFields_kept (h : s.ExtendedBy added t) (fields : List (String × Expr)) :
    Kept added (evalFields s fields) (evalFields t fields) := by
  match fields with
  | [] => exact .same _
  | (_, value) :: rest =>
      exact (eval_kept h value).bind fun _ => (evalFields_kept h rest).bind fun _ => .same _

end

theorem evalString_kept (h : s.ExtendedBy added t) (e : Expr) :
    Kept added (e.evalString s) (e.evalString t) :=
  (e.eval_kept h).bind fun _ => .same _

theorem evalStrings_kept (h : s.ExtendedBy added t) (items : List Expr) :
    Kept added (evalStrings s items) (evalStrings t items) := by
  induction items with
  | nil => exact .same _
  | cons item rest ih => exact (item.evalString_kept h).bind fun _ => ih.bind fun _ => .same _

end Expr

namespace EndpointTemplate

theorem evalHeaders_kept (h : s.ExtendedBy added t) (headers : List (String × List Expr)) :
    Kept added (evalHeaders s headers) (evalHeaders t headers) := by
  induction headers with
  | nil => exact .same _
  | cons header rest ih =>
      exact (Expr.evalStrings_kept h header.2).bind fun _ => ih.bind fun _ => .same _

theorem eval_kept (h : s.ExtendedBy added t) (template : EndpointTemplate) :
    Kept added (template.eval s) (template.eval t) := by
  refine (template.url.evalString_kept h).bind fun url => ?_
  refine (evalHeaders_kept h template.headers.entries).bind fun headers => ?_
  exact (Expr.evalFields_kept h template.properties.entries).bind fun properties => .same _

end EndpointTemplate

/-- Conditions that hold still do, with the same values. -/
theorem AllHold.extend {inner : Scope} {held : List Condition} {values : List Value}
    (holds : AllHold s held values inner) (h : s.ExtendedBy added t) :
    ∃ inner', AllHold t held values inner' ∧ inner.ExtendedBy added inner' := by
  induction holds generalizing t with
  | nil s => exact ⟨t, .nil t, h⟩
  | @cons s inner c rest value values evaluates holds _ ih =>
      have same := c.expr.eval_kept h
      rw [evaluates] at same
      obtain ⟨inner', behind, extended⟩ := ih (h.bindIn c value)
      exact ⟨inner', .cons same.of_ok holds behind, extended⟩

theorem Halts.extend {conditions : List Condition} {result : Result Value}
    (halts : Halts s conditions result) (h : s.ExtendedBy added t) :
    ∃ result', Halts t conditions result' ∧ Kept added result result' := by
  obtain ⟨held, c, rest, values, inner, split, holds, rfl⟩ := halts
  obtain ⟨inner', holds', extended⟩ := holds.extend h
  exact ⟨_, ⟨held, c, rest, values, inner', split, holds', rfl⟩, c.expr.eval_kept extended⟩

namespace Rule

theorem failure_kept (h : s.ExtendedBy added t) (message : Expr) :
    Kept added (.error (failure s message) : Result Endpoint) (.error (failure t message)) := by
  have spelled (scope : Scope) : (.error (failure scope message) : Result Endpoint) =
      message.evalString scope >>= fun text => .error (.ruleDefined text) := by
    rw [failure]
    cases message.evalString scope <;> rfl
  rw [spelled s, spelled t]
  exact (message.evalString_kept h).bind fun _ => .same _

theorem conclude_kept (h : s.ExtendedBy added t) (outcome : Outcome Rule)
    (inside : ∀ children, outcome = .tree children →
      Kept added (evalAll s children) (evalAll t children)) :
    Kept added (conclude s outcome) (conclude t outcome) := by
  cases outcome with
  | endpoint template => exact template.eval_kept h
  | error message => exact failure_kept h message
  | tree children => exact inside children rfl

/-- Rules give the same with more bindings, unless they have failed for one of the added names. -/
theorem evalAll_kept (rules : List Rule) : ∀ {s t : Scope}, s.ExtendedBy added t →
    Kept added (evalAll s rules) (evalAll t rules) := by
  induction rules using nested_induction with
  | nil => exact fun _ => .same _
  | cons rule rest inside ih =>
      intro s t h
      rcases conditions_cases rule.conditions s with
        ⟨values, inner, holds⟩ | ⟨value, falsy, halts⟩ | ⟨e, fails⟩
      · obtain ⟨inner', holds', extended⟩ := holds.extend h
        rw [evalAll_cons_of_allHold holds, evalAll_cons_of_allHold holds']
        exact conclude_kept extended rule.outcome fun children tree => inside children tree extended
      · obtain ⟨result, halts', kept⟩ := halts.extend h
        rw [evalAll_cons_of_skipped ⟨value, falsy, halts⟩,
          evalAll_cons_of_skipped ⟨value, falsy, kept.of_ok ▸ halts'⟩]
        exact ih h
      · obtain ⟨result, halts', kept⟩ := Halts.extend fails h
        -- With the added name bound, the condition may hold or not.
        rw [evalAll_cons_of_fails fails]
        cases kept with
        | same =>
            rw [evalAll_cons_of_fails halts']
            exact .same _
        | unresolved new => exact .unresolved new _

/-- Rules that do not fail for a name without a value give the same in every environment that binds
more. If they do fail for one, more bindings change nothing as long as that name is not among
them. -/
theorem evaluate_of_more_bindings (rules : List Rule) (environment larger : Environment)
    (more : ∀ name value, environment.get? name = some value → larger.get? name = some value) :
    ((∀ name, evaluate rules environment ≠ .error (.unresolvedReference name)) →
      evaluate rules larger = evaluate rules environment) ∧
    ∀ name, evaluate rules environment = .error (.unresolvedReference name) →
      larger.get? name = none → evaluate rules larger = .error (.unresolvedReference name) := by
  have extended : Scope.ExtendedBy (fun name => larger.get? name ≠ none) { environment }
      { environment := larger } := by
    intro name
    show larger.get? name = environment.get? name ∨ environment.get? name = none ∧ _
    cases bound : environment.get? name with
    | some value => exact .inl (more name value bound)
    | none =>
        by_cases unbound : larger.get? name = none
        · exact .inl unbound
        · exact .inr ⟨rfl, unbound⟩
  have kept : Kept _ (evaluate rules environment) (evaluate rules larger) :=
    evalAll_kept rules extended
  generalize evaluate rules environment = result at kept ⊢
  cases kept with
  | same => exact ⟨fun _ => rfl, fun _ failed _ => failed⟩
  | @unresolved own new =>
      refine ⟨fun decided => absurd rfl (decided own), fun name failed unbound => ?_⟩
      cases failed
      exact absurd unbound new

/-- A zone is bound besides, which only a skipped rule refers to, and a host is bound in neither
environment. -/
theorem evaluate_of_more_bindings_with_zone :
    let environment : Environment := .ofList [("Region", .string "r")]
    let larger := environment.insert "Zone" (.string "z")
    let passed : Rule := ⟨[⟨.boolean false, none⟩], .error (.reference "Zone"), none⟩
    let reports (name : String) : Rule := ⟨[], .error (.reference name), none⟩
    (∀ name value, environment.get? name = some value → larger.get? name = some value) ∧
      evaluate [passed, reports "Region"] larger = evaluate [passed, reports "Region"] environment ∧
      evaluate [passed, reports "Region"] environment = .error (.ruleDefined "r") ∧
      evaluate [passed, reports "Host"] larger = .error (.unresolvedReference "Host") := by
  intro environment larger passed reports
  have more (name : String) (value : Value) (bound : environment.get? name = some value) :
      larger.get? name = some value := by
    rw [Dict.get?_insert, if_neg, bound]
    rintro rfl
    cases bound
  have reported : evaluate [passed, reports "Region"] environment = .error (.ruleDefined "r") := rfl
  refine ⟨more, ?_, reported, ?_⟩
  · refine (evaluate_of_more_bindings _ environment larger more).1 fun name undecided => ?_
    rw [reported] at undecided
    cases undecided
  · exact (evaluate_of_more_bindings _ environment larger more).2 "Host" rfl rfl

end Rule

end

end EndpointResolution
