import EndpointResolution.Error
import EndpointResolution.Json.Reader
import EndpointResolution.Partition
import EndpointResolution.Pattern.Reader
import EndpointResolution.Value.Json

/-!
Tables of partitions as JSON. A table is read as a whole before its patterns are.
-/

namespace EndpointResolution

namespace PartitionOutputs

def ofJson? (json : Json) : Option PartitionOutputs := do
  let [name, dnsSuffix, dualStackDnsSuffix, supportsFIPS, supportsDualStack, region] ←
    json.members? ["name", "dnsSuffix", "dualStackDnsSuffix", "supportsFIPS", "supportsDualStack",
      "implicitGlobalRegion"] | none
  return {
    name := ← (← name).string?
    dnsSuffix := ← (← dnsSuffix).string?
    dualStackDnsSuffix := ← (← dualStackDnsSuffix).string?
    supportsFIPS := ← (← supportsFIPS).boolean?
    supportsDualStack := ← (← supportsDualStack).boolean?
    implicitGlobalRegion := ← (← region).string? }

end PartitionOutputs

namespace RegionOverride

/-- As an array an override has all of its members. -/
def isWhole : Json → Bool
  | .array items => items.length = 4
  | _ => true

def ofJson? (json : Json) : Option RegionOverride := do
  let [dnsSuffix, dualStackDnsSuffix, supportsFIPS, supportsDualStack] ←
    json.members? ["dnsSuffix", "dualStackDnsSuffix", "supportsFIPS", "supportsDualStack"] | none
  guard (isWhole json)
  return {
    dnsSuffix := ← Json.optional? Json.string? dnsSuffix
    dualStackDnsSuffix := ← Json.optional? Json.string? dualStackDnsSuffix
    supportsFIPS := ← Json.optional? Json.boolean? supportsFIPS
    supportsDualStack := ← Json.optional? Json.boolean? supportsDualStack }

end RegionOverride

namespace Partition

/-- What the readers of documents and of patterns report of the texts that they refuse. The wording
is theirs. -/
structure Reports where
  document : String → String
  pattern : String → String

/-- A partition with its pattern as it is written. -/
structure Written where
  id : String
  pattern : String
  regions : Dict RegionOverride
  outputs : PartitionOutputs
deriving DecidableEq

namespace Written

def ofJson? (json : Json) : Option Written := do
  let [id, pattern, regions, outputs] ←
    json.members? ["id", "regionRegex", "regions", "outputs"] | none
  return {
    id := ← (← id).string?
    pattern := ← (← pattern).string?
    regions := ← Json.withDefault? ∅ (Json.dictOf? RegionOverride.ofJson?) regions
    outputs := ← PartitionOutputs.ofJson? (← outputs) }

def tableOfJson? (json : Json) : Option (List Written) := do
  let [partitions] ← json.members? ["partitions"] | none
  Json.listOf? ofJson? (← partitions)

def compile (reports : Reports) (written : Written) : Result Partition :=
  match Pattern.parse? written.pattern with
  | some regionPattern => .ok { written with regionPattern }
  | none => .error (.invalidPartitionTable (.pattern written.id (reports.pattern written.pattern)))

end Written

def tableOfText (reports : Reports) (text : String) : Result (List Partition) :=
  match (Json.parse? text).bind Written.tableOfJson? with
  | some table => table.mapM (Written.compile reports)
  | none => .error (.invalidPartitionTable (.document (reports.document text)))

end Partition

end EndpointResolution
