import EndpointResolution.Parameter

/-!
What a client is configured with. It supplies the known built-in values, and values for parameters
that only its service knows.
-/

namespace EndpointResolution

structure Client where
  region : Option String := none
  useDualStack : Bool := false
  useFIPS : Bool := false
  /-- The address for all requests, instead of the one that follows from the region. -/
  endpoint : Option String := none
  context : Dict Value := ∅
deriving DecidableEq

namespace Client

/-- The flags are always supplied, other built-in values only where they are set. -/
def builtIn? (client : Client) : BuiltIn → Option Value
  | .region => client.region.map .string
  | .useFIPS => some (.boolean client.useFIPS)
  | .useDualStack => some (.boolean client.useDualStack)
  | .endpoint => client.endpoint.map .string
  | .other _ => none

end Client

end EndpointResolution
