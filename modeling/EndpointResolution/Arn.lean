import EndpointResolution.Text.Cut
import EndpointResolution.Value

/-!
Resource names of the form `arn:partition:service:region:account:resource`.
-/

namespace EndpointResolution

structure Arn where
  partition : String
  service : String
  region : String
  accountId : String
  resource : List String
deriving DecidableEq

namespace Arn

/-- Segments are separated by slashes, or by colons where there is no slash. -/
def separator (resource : List Char) : Char := if '/' ∈ resource then '/' else ':'

def segments (resource : List Char) : List String :=
  (resource.splitOn (separator resource)).map String.ofList

/-- Region and account may be empty. -/
def parse? (text : String) : Option Arn := do
  let (tag, rest) ← Text.cut? ':' text.toList
  guard (tag = ['a', 'r', 'n'])
  let (partition, rest) ← Text.cut? ':' rest
  let (service, rest) ← Text.cut? ':' rest
  let (region, rest) ← Text.cut? ':' rest
  let (accountId, resource) ← Text.cut? ':' rest
  guard (partition ≠ [] ∧ service ≠ [] ∧ resource ≠ [])
  return ⟨String.ofList partition, String.ofList service, String.ofList region,
    String.ofList accountId, segments resource⟩

def toValue (arn : Arn) : Value :=
  .ofFields
    [("partition", .string arn.partition), ("service", .string arn.service),
      ("region", .string arn.region), ("accountId", .string arn.accountId),
      ("resourceId", .array (arn.resource.map .string))]

end Arn

end EndpointResolution
