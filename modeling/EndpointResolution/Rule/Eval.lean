import EndpointResolution.Rule

/-!
Evaluation of rules. The first rule whose conditions all hold decides; a tree that has been entered
decides too, even when none of its rules does.
-/

namespace EndpointResolution

namespace EndpointTemplate

def evalHeaders (s : Scope) : List (String × List Expr) → Result (List (String × List String))
  | [] => .ok []
  | (name, values) :: rest => do
      return (name, ← Expr.evalStrings s values) :: (← evalHeaders s rest)

/-- The address, then headers and properties by name. -/
def eval (s : Scope) (t : EndpointTemplate) : Result Endpoint := do
  let url ← t.url.evalString s
  let headers ← evalHeaders s t.headers.entries
  let properties ← Expr.evalFields s t.properties.entries
  return ⟨url, .ofList headers, .ofList properties⟩

end EndpointTemplate

/-- The scope behind a condition that holds. -/
def Condition.bindIn (c : Condition) (value : Value) (s : Scope) : Scope :=
  match c.assign with
  | some name => s.bind name value
  | none => s

namespace Rule

/-- The scope behind the conditions, if they all hold. -/
def enter (s : Scope) : List Condition → Result (Option Scope)
  | [] => .ok (some s)
  | c :: rest => do
      let value ← c.expr.eval s
      if value.truthy then enter (c.bindIn value s) rest else return none

/-- What the rules report instead of an endpoint. -/
def failure (s : Scope) (message : Expr) : Error :=
  match message.evalString s with
  | .ok text => .ruleDefined text
  | .error e => e

mutual

/-- Nothing if a condition does not hold. -/
def eval (s : Scope) : Rule → Result (Option Endpoint)
  | ⟨conditions, outcome, _⟩ =>
      match enter s conditions, outcome with
      | .error e, _ => .error e
      | .ok none, _ => .ok none
      | .ok (some s), .endpoint t => (t.eval s).map some
      | .ok (some s), .error message => .error (failure s message)
      | .ok (some s), .tree rules => (evalAll s rules).map some

def evalAll (s : Scope) : List Rule → Result Endpoint
  | [] => .error .noRuleMatched
  | rule :: rest =>
      match rule.eval s with
      | .error e => .error e
      | .ok (some endpoint) => .ok endpoint
      | .ok none => evalAll s rest

end

/-- Evaluation without declarations: names are looked up in the environment as it is. -/
def evaluate (rules : List Rule) (environment : Environment) : Result Endpoint :=
  evalAll { environment } rules

end Rule

end EndpointResolution
