import EndpointResolution.Rule.Eval

/-!
Evaluation that is watched. An observer hears of every rule that is entered or left and of every
condition that is evaluated. One observer records the rules visited: a rule before those inside
it, with the conditions that were evaluated and how it ended.
-/

namespace EndpointResolution

/-- What is done with the state of an observer at each event. -/
structure Observer (σ : Type) where
  /-- In front of a rule, with its position among its siblings. -/
  enter : Nat → Rule → σ → σ
  /-- Behind a condition. -/
  evaluate : Condition → Result Value → σ → σ
  /-- Behind a rule; it has no endpoint if a condition does not hold. -/
  leave : Result (Option Endpoint) → σ → σ

namespace Rule

variable {σ : Type} (o : Observer σ)

/-- As `enter`, under an observer. -/
def enterWatched (s : Scope) : List Condition → σ → Result (Option Scope) × σ
  | [], state => (.ok (some s), state)
  | c :: rest, state =>
      let result := c.expr.eval s
      let state := o.evaluate c result state
      match result with
      | .error e => (.error e, state)
      | .ok value =>
          if value.truthy then enterWatched (c.bindIn value s) rest state else (.ok none, state)

mutual

/-- As `eval`, under an observer that knows of the rule. -/
def evalWatched (s : Scope) : Rule → σ → Result (Option Endpoint) × σ
  | ⟨conditions, outcome, _⟩, state =>
      let (entered, state) := enterWatched o s conditions state
      match entered, outcome with
      | .error e, _ => (.error e, state)
      | .ok none, _ => (.ok none, state)
      | .ok (some s), .endpoint t => ((t.eval s).map some, state)
      | .ok (some s), .error message => (.error (failure s message), state)
      | .ok (some s), .tree rules =>
          let (result, state) := evalAllWatched s 0 rules state
          (result.map some, state)

/-- As `evalAll`, under an observer, for the rules from a position on. -/
def evalAllWatched (s : Scope) (position : Nat) : List Rule → σ → Result Endpoint × σ
  | [], state => (.error .noRuleMatched, state)
  | rule :: rest, state =>
      let (result, state) := rule.evalWatched s (o.enter position rule state)
      let state := o.leave result state
      match result with
      | .error e => (.error e, state)
      | .ok (some endpoint) => (.ok endpoint, state)
      | .ok none => evalAllWatched s (position + 1) rest state

end

end Rule

structure ConditionTrace where
  condition : String
  result : Except String Value

inductive RuleEnd where
  | skipped
  | resolved
  | failed (message : String)
deriving DecidableEq

/-- The path holds the position at each level, outermost first. -/
structure RuleTrace where
  path : List Nat
  documentation : Option String
  conditions : List ConditionTrace
  ending : RuleEnd

def ConditionTrace.of (c : Condition) (result : Result Value) : ConditionTrace :=
  ⟨c.expr.text, result.mapError Error.message⟩

def RuleEnd.ofResult : Result (Option Endpoint) → RuleEnd
  | .ok none => .skipped
  | .ok (some _) => .resolved
  | .error e => .failed e.message

/-- The entries so far, and where among them the rules are that have not been left, innermost
first. -/
structure Recorder where
  entries : List RuleTrace := []
  active : List Nat := []

namespace Recorder

/-- The path of the innermost rule that has not been left. -/
def path (r : Recorder) : List Nat :=
  match r.active with
  | [] => []
  | current :: _ =>
      match r.entries[current]? with
      | some entry => entry.path
      | none => []

/-- A rule counts as skipped until it has been left. -/
def enter (position : Nat) (rule : Rule) (r : Recorder) : Recorder where
  entries := r.entries ++ [⟨r.path ++ [position], rule.documentation, [], .skipped⟩]
  active := r.entries.length :: r.active

def evaluate (c : Condition) (result : Result Value) (r : Recorder) : Recorder :=
  match r.active with
  | [] => r
  | current :: _ =>
      let note (entry : RuleTrace) : RuleTrace :=
        { entry with conditions := entry.conditions ++ [.of c result] }
      { r with entries := r.entries.modify current note }

def leave (result : Result (Option Endpoint)) (r : Recorder) : Recorder :=
  match r.active with
  | [] => r
  | current :: outer =>
      let close (entry : RuleTrace) : RuleTrace := { entry with ending := .ofResult result }
      { entries := r.entries.modify current close, active := outer }

def observer : Observer Recorder where
  enter := enter
  evaluate := evaluate
  leave := leave

end Recorder

end EndpointResolution
