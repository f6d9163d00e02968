import EndpointResolution.Invocation
import EndpointResolution.RuleSet

/-!
The stage of a pipeline that chooses the endpoint of an invocation. Anything that answers
parameters with an endpoint can be asked; an answer is stored for the stages that follow, and a
refusal changes nothing.
-/

namespace EndpointResolution

/-- Whoever answers parameters with an endpoint, and may keep a state from one answer to the
next. -/
abbrev Provider (σ : Type) := Environment → σ → Result Endpoint × σ

/-- The answer follows from the parameters alone. -/
def Provider.stateless {σ : Type} (answer : Environment → Result Endpoint) : Provider σ :=
  fun parameters state => (answer parameters, state)

/-- Stores what the provider answers. A known host is kept without asking it. -/
def Invocation.consult {σ : Type} (invocation : Invocation) (provider : Provider σ)
    (parameters : Environment) (state : σ) : Result Unit × Invocation × σ :=
  if invocation.discovered then (.ok (), invocation, state)
  else
    match provider parameters state with
    | (.ok endpoint, state) => (.ok (), { invocation with resolved := some endpoint }, state)
    | (.error e, state) => (.error e, invocation, state)

structure Resolver where
  provider : Environment → Result Endpoint
  bindings : List Binding

namespace Resolver

def parameters (resolver : Resolver) (request : Request) (invocation : Invocation) : Environment :=
  Binding.assemble resolver.bindings invocation request

def run (resolver : Resolver) (request : Request) (invocation : Invocation) :
    Result Unit × Invocation :=
  let (result, behind, _) :=
    invocation.consult (.stateless resolver.provider) (resolver.parameters request invocation) ()
  (result, behind)

/-- Asks the rule set, with its own bindings before the others. -/
def ofRuleSet (ruleSet : RuleSet) (bindings : List Binding) : Resolver where
  provider := ruleSet.resolve
  bindings := Binding.ofParameters ruleSet.parameters ++ bindings

end Resolver

end EndpointResolution
