import EndpointResolution.Client

/-!
One invocation of an operation, as the stages of its pipeline see it, the request it sends, and
where its parameters come from. A service binds its parameters to sources, in any number and order;
of the sources that have a value for a parameter one in the highest layer supplies it, and of
several in one layer the last.
-/

namespace EndpointResolution

/-- The members of a request that are set, by name. -/
abbrev Request := Dict Value

structure Invocation where
  operation : String
  client : Client
  /-- A host is known already, so none has to be resolved. -/
  discovered : Bool := false
  /-- The endpoint for the stages that follow. -/
  resolved : Option Endpoint := none
deriving DecidableEq

inductive Source where
  | builtIn (value : BuiltIn)
  /-- The same value for all requests of an operation. -/
  | fixed (operation : String) (value : Value)
  /-- A member of the requests of an operation. -/
  | member (operation : String) (name : String)
  /-- The value that the client has for the parameter. -/
  | client
deriving DecidableEq

structure Binding where
  parameter : String
  source : Source
deriving DecidableEq

/-- The layers of sources, lowest first. -/
inductive Layer where
  | builtIn | fixed | member | client
deriving DecidableEq

def Layer.all : List Layer := [.builtIn, .fixed, .member, .client]

def Source.layer : Source → Layer
  | .builtIn _ => .builtIn
  | .fixed _ _ => .fixed
  | .member _ _ => .member
  | .client => .client

namespace Binding

/-- A value that is present may still be absence, and then hides the lower layers too. -/
def value? (invocation : Invocation) (request : Request) (binding : Binding) : Option Value :=
  match binding.source with
  | .builtIn builtIn => invocation.client.builtIn? builtIn
  | .fixed operation value => if operation = invocation.operation then some value else none
  | .member operation name =>
      if operation = invocation.operation then request.get? name else none
  | .client => invocation.client.context.get? binding.parameter

def pair? (invocation : Invocation) (request : Request) (binding : Binding) :
    Option (String × Value) :=
  (binding.value? invocation request).map fun value => (binding.parameter, value)

/-- What the bindings of one layer supply, in their order. -/
def layerEntries (invocation : Invocation) (request : Request) (bindings : List Binding)
    (layer : Layer) : List (String × Value) :=
  (bindings.filter (·.source.layer = layer)).filterMap (pair? invocation request)

/-- The parameters of an invocation. -/
def assemble (bindings : List Binding) (invocation : Invocation) (request : Request) :
    Environment :=
  .ofList (Layer.all.flatMap (layerEntries invocation request bindings))

/-- The bindings that declarations ask for by themselves. -/
def ofParameters (parameters : Parameters) : List Binding :=
  parameters.builtIns.map fun (builtIn, parameter) => ⟨parameter, .builtIn builtIn⟩

end Binding

end EndpointResolution
