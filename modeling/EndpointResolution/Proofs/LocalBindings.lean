import EndpointResolution.Proofs.FreeNames

/-!
Bindings that rules make, seen as a larger environment. A scope keeps them in front of the
environment, the latest first; the statements below speak of one environment into which they are
inserted. Rules inside a tree cannot tell the two apart, and rules behind a skipped one see
nothing of what it has bound.
-/

namespace EndpointResolution

/-- The bindings inserted one after the other. -/
def Dict.insertAll {α : Type} (dict : Dict α) (bindings : List (String × α)) : Dict α :=
  bindings.foldl (fun extended binding => extended.insert binding.1 binding.2) dict

/-- What the conditions bind, given their values. -/
def assignments (conditions : List Condition) (values : List Value) : List (String × Value) :=
  (conditions.zip values).filterMap fun (c, value) => c.assign.map fun name => (name, value)

/-- The conditions hold in turn, each in the environment with what those in front of it bind. -/
inductive HoldIn : Environment → List Condition → List Value → Prop
  | nil (environment : Environment) : HoldIn environment [] []
  | cons {environment : Environment} {c : Condition} {rest : List Condition} {value : Value}
      {values : List Value} (evaluates : c.expr.eval { environment } = .ok value)
      (holds : ¬ value.Falsy)
      (behind : HoldIn (environment.insertAll (assignments [c] [value])) rest values) :
      HoldIn environment (c :: rest) (value :: values)

/-- A condition is falsy in the environment with what those in front of it bind, which hold. -/
def SkipIn (environment : Environment) (conditions : List Condition) : Prop :=
  ∃ held c behind values value, conditions = held ++ c :: behind ∧
    HoldIn environment held values ∧
    c.expr.eval { environment := environment.insertAll (assignments held values) } = .ok value ∧
    value.Falsy

/-- The latest of the bindings with a name counts, and each of them before the dictionary. -/
theorem Dict.get?_insertAll {α : Type} (dict : Dict α) (bindings : List (String × α))
    (name : String) : (dict.insertAll bindings).get? name =
      (Assoc.find? name bindings.reverse).or (dict.get? name) := by
  have entries : bindings.foldl (fun entries item => Assoc.insert item.1 item.2 entries)
      dict.entries = (dict.insertAll bindings).entries :=
    List.foldl_hom Dict.entries fun _ _ => rfl
  rw [get?, ← entries, Assoc.find?_foldl_insert]
  rfl

theorem assignments_cons (c : Condition) (rest : List Condition) (value : Value)
    (values : List Value) : assignments (c :: rest) (value :: values) =
      assignments [c] [value] ++ assignments rest values := by
  simp only [assignments, List.zip_cons_cons, List.zip_nil_left]
  exact List.filterMap_append (l := [(c, value)])

/-- The scope and the environment answer every look-up alike. -/
def Scope.Represents (s : Scope) (environment : Environment) : Prop :=
  ∀ name, s.get? name = environment.get? name

theorem Scope.represents_self (environment : Environment) :
    Scope.Represents { environment } environment :=
  fun _ => rfl

theorem Scope.Represents.agreeOn {s : Scope} {environment : Environment}
    (h : s.Represents environment) (names : String → Prop) :
    AgreeOn names s { environment } :=
  fun name _ => h name

theorem Scope.Represents.bindIn {s : Scope} {environment : Environment}
    (h : s.Represents environment) (c : Condition) (value : Value) :
    (c.bindIn value s).Represents (environment.insertAll (assignments [c] [value])) := by
  intro name
  obtain ⟨expr, assign⟩ := c
  cases assign with
  | none => exact h name
  | some own =>
      have extended : environment.insertAll (assignments [⟨expr, some own⟩] [value]) =
          environment.insert own value := rfl
      rw [extended, Dict.get?_insert, ← h name]
      exact s.get?_bind own name value

/-- Conditions that hold in an environment hold in every scope for it, with the same values, and
the scope behind them is one for the environment with their bindings. -/
theorem HoldIn.allHold {environment : Environment} {conditions : List Condition}
    {values : List Value} (h : HoldIn environment conditions values) {s : Scope}
    (hs : s.Represents environment) :
    ∃ inner, AllHold s conditions values inner ∧
      inner.Represents (environment.insertAll (assignments conditions values)) := by
  induction h generalizing s with
  | nil environment => exact ⟨s, .nil s, hs⟩
  | @cons environment c rest value values evaluates holds _ ih =>
      obtain ⟨inner, behind, represents⟩ := ih (hs.bindIn c value)
      refine ⟨inner, .cons ?_ holds behind, ?_⟩
      · rw [c.expr.eval_congr (hs.agreeOn _), evaluates]
      · have both : environment.insertAll (assignments (c :: rest) (value :: values)) =
            (environment.insertAll (assignments [c] [value])).insertAll
              (assignments rest values) := by
          rw [assignments_cons]
          exact List.foldl_append
        rw [both]
        exact represents

theorem SkipIn.skips {environment : Environment} {conditions : List Condition}
    (h : SkipIn environment conditions) {s : Scope} (hs : s.Represents environment) :
    Skips s conditions := by
  obtain ⟨held, c, behind, values, value, rfl, holds, evaluates, falsy⟩ := h
  obtain ⟨inner, allHold, represents⟩ := holds.allHold hs
  refine ⟨value, falsy, held, c, behind, values, inner, rfl, allHold, ?_⟩
  rw [c.expr.eval_congr (represents.agreeOn _), evaluates]

namespace Rule

/-- Rules cannot tell a scope from the environment that it stands for. -/
theorem evalAll_of_represents {s : Scope} {environment : Environment}
    (h : s.Represents environment) (rules : List Rule) :
    evalAll s rules = evaluate rules environment :=
  evalAll_congr rules (h.agreeOn _)

/-- What rules bind is the same as a larger environment, and ends with the rule: a tree whose
conditions hold gives what its rules give in the environment with the bindings of the conditions,
and a rule that is skipped leaves nothing behind. -/
theorem evaluate_bindings_as_environment (environment : Environment) :
    (∀ conditions values children documentation rest, HoldIn environment conditions values →
      evaluate (⟨conditions, .tree children, documentation⟩ :: rest) environment =
        evaluate children (environment.insertAll (assignments conditions values))) ∧
    (∀ rule rest, SkipIn environment rule.conditions →
      evaluate (rule :: rest) environment = evaluate rest environment) ∧
    ∀ bindings name, (environment.insertAll bindings).get? name =
      (Assoc.find? name bindings.reverse).or (environment.get? name) := by
  have self := Scope.represents_self environment
  refine ⟨?_, ?_, environment.get?_insertAll⟩
  · intro conditions values children documentation rest holds
    obtain ⟨inner, allHold, represents⟩ := holds.allHold self
    have entered : evaluate (⟨conditions, .tree children, documentation⟩ :: rest) environment =
        evalAll inner children := by
      rw [evaluate, evalAll_cons_of_allHold allHold, conclude]
    rw [entered, evalAll_of_represents represents]
  · intro rule rest skip
    exact evalAll_cons_of_skipped (skip.skips self) rest

/-- A tree binds a name and the region anew; a skipped rule in front of it has bound the region
too. -/
theorem evaluate_bindings_with_new_region :
    let environment : Environment := .ofList [("Region", .string "r")]
    let passed : Rule := ⟨[⟨.boolean true, some "Region"⟩, ⟨.boolean false, none⟩],
      .error (.reference "Region"), none⟩
    let conditions : List Condition := [⟨.reference "Region", some "Outer"⟩,
      ⟨.template ⟨[.reference "Outer", .char '!']⟩, some "Region"⟩]
    let children : List Rule := [⟨[], .error (.reference "Region"), none⟩]
    let tree : Rule := ⟨conditions, .tree children, none⟩
    evaluate [passed, tree] environment = evaluate [tree] environment ∧
      evaluate [tree] environment = evaluate children (environment.insertAll
        [("Outer", .string "r"), ("Region", .string "r!")]) ∧
      evaluate [tree] environment = .error (.ruleDefined "r!") := by
  intro environment passed conditions children tree
  obtain ⟨holding, skipping, -⟩ := evaluate_bindings_as_environment environment
  have skip : SkipIn environment passed.conditions :=
    ⟨[passed.conditions[0]], _, [], [.boolean true], .boolean false, rfl,
      .cons rfl (by simp [Value.Falsy]) (.nil _), rfl, .inr rfl⟩
  have hold : HoldIn environment conditions [.string "r", .string "r!"] :=
    .cons rfl (by simp [Value.Falsy]) (.cons rfl (by simp [Value.Falsy]) (.nil _))
  exact ⟨skipping passed [tree] skip, holding conditions _ children none [] hold, rfl⟩

end Rule

end EndpointResolution
