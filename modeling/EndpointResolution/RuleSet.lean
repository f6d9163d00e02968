import EndpointResolution.Parameter
import EndpointResolution.Rule.Trace

/-!
Rule sets: declarations of parameters and the rules over them.
-/

namespace EndpointResolution

structure RuleSet where
  version : String
  parameters : Parameters
  rules : List Rule
deriving DecidableEq

namespace RuleSet

/-- A rule set is refused if a default does not conform to its parameter. -/
def create (version : String) (parameters : Parameters) (rules : List Rule) : Result RuleSet := do
  parameters.validate
  return ⟨version, parameters, rules⟩

def resolve (ruleSet : RuleSet) (supplied : Environment) : Result Endpoint := do
  Rule.evaluate ruleSet.rules (← ruleSet.parameters.bind supplied)

/-- The same under an observer, which hears nothing if binding fails. -/
def resolveWatched {σ : Type} (o : Observer σ) (ruleSet : RuleSet) (supplied : Environment)
    (state : σ) : Result Endpoint × σ :=
  match ruleSet.parameters.bind supplied with
  | .error e => (.error e, state)
  | .ok environment => Rule.evalAllWatched o { environment } 0 ruleSet.rules state

/-- The same with a record of the rules visited. -/
def resolveTraced (ruleSet : RuleSet) (supplied : Environment) :
    Result Endpoint × List RuleTrace :=
  let (result, recorder) := ruleSet.resolveWatched Recorder.observer supplied {}
  (result, recorder.entries)

end RuleSet

end EndpointResolution
