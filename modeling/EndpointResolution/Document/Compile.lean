import EndpointResolution.Document
import EndpointResolution.Json.Reader
import EndpointResolution.RuleSet

/-!
Rule sets from their documents. The outcome of a rule is compiled before its conditions, the name
of a function is looked up before its arguments, and defaults are checked last, so of several
defects the first in this order is reported.
-/

namespace EndpointResolution.Document

namespace Term

def functionOf (name : String) : Result Function :=
  match Function.ofName? name with
  | some f => .ok f
  | none => .error (.invalidRuleSet (.unknownFunction name))

mutual

def compile : Term → Result Expr
  | .reference name => .ok (.reference name)
  | .call name arguments => do
      let f ← functionOf name
      Expr.ofCall f (← compileAll arguments)
  | .boolean b => .ok (.boolean b)
  | .integer n => .ok (.integer n)
  | .string s => Expr.ofText s
  | .array items => do return .array (← compileAll items)
  | .record fields => do return .record (← compileFields fields)

def compileAll : List Term → Result (List Expr)
  | [] => .ok []
  | item :: rest => do return (← item.compile) :: (← compileAll rest)

def compileFields : List (String × Term) → Result (List (String × Expr))
  | [] => .ok []
  | (name, value) :: rest => do return (name, ← value.compile) :: (← compileFields rest)

end

end Term

def Clause.compile (c : Clause) : Result Condition := do
  return ⟨← (Term.call c.function c.arguments).compile, c.assign⟩

def compileClauses : List Clause → Result (List Condition)
  | [] => .ok []
  | c :: rest => do return (← c.compile) :: (← compileClauses rest)

namespace Target

def compileHeaders : List (String × List Term) → Result (List (String × List Expr))
  | [] => .ok []
  | (name, values) :: rest => do
      return (name, ← Term.compileAll values) :: (← compileHeaders rest)

/-- The address, then headers and properties by name. A header without values leaves no trace. -/
def compile (target : Target) : Result EndpointTemplate := do
  let url ← target.url.compile
  let headers ← compileHeaders target.headers.entries
  let properties ← Term.compileFields target.properties.entries
  return ⟨url, .ofList (headers.filter (!·.2.isEmpty)), .ofList properties⟩

end Target

namespace Entry

mutual

def compile : Entry → Result Rule
  | .endpoint conditions target documentation => do
      let outcome := .endpoint (← target.compile)
      return ⟨← compileClauses conditions, outcome, documentation⟩
  | .error conditions message documentation => do
      let outcome := .error (← message.compile)
      return ⟨← compileClauses conditions, outcome, documentation⟩
  | .tree conditions rules documentation => do
      let outcome := .tree (← compileAll rules)
      return ⟨← compileClauses conditions, outcome, documentation⟩

def compileAll : List Entry → Result (List Rule)
  | [] => .ok []
  | rule :: rest => do return (← rule.compile) :: (← compileAll rest)

end

end Entry

def compile (document : Document) : Result RuleSet := do
  RuleSet.create document.version document.parameters (← Entry.compileAll document.rules)

end EndpointResolution.Document

namespace EndpointResolution.RuleSet

def ofJson (json : Json) : Result RuleSet :=
  match Document.ofJson? json with
  | some document => document.compile
  | none => .error .malformedDocument

def ofText (text : String) : Result RuleSet :=
  match Json.parse? text with
  | some json => ofJson json
  | none => .error .malformedDocument

end EndpointResolution.RuleSet
