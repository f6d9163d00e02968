import EndpointResolution.Pattern
import EndpointResolution.Value

/-!
Partitions group regions that share a domain suffix and capabilities. A region belongs to the first
partition that lists it, or else to the first whose pattern it matches, or else to the default
partition.
-/

namespace EndpointResolution

structure PartitionOutputs where
  name : String
  dnsSuffix : String
  dualStackDnsSuffix : String
  supportsFIPS : Bool
  supportsDualStack : Bool
  implicitGlobalRegion : String
deriving DecidableEq

/-- What is different for a listed region. -/
structure RegionOverride where
  dnsSuffix : Option String := none
  dualStackDnsSuffix : Option String := none
  supportsFIPS : Option Bool := none
  supportsDualStack : Option Bool := none
deriving DecidableEq

structure Partition where
  id : String
  regionPattern : Pattern
  regions : Dict RegionOverride
  outputs : PartitionOutputs
deriving DecidableEq

namespace PartitionOutputs

def override (outputs : PartitionOutputs) (region : RegionOverride) : PartitionOutputs :=
  { outputs with
    dnsSuffix := region.dnsSuffix.getD outputs.dnsSuffix
    dualStackDnsSuffix := region.dualStackDnsSuffix.getD outputs.dualStackDnsSuffix
    supportsFIPS := region.supportsFIPS.getD outputs.supportsFIPS
    supportsDualStack := region.supportsDualStack.getD outputs.supportsDualStack }

def toValue (outputs : PartitionOutputs) : Value :=
  .ofFields
    [("name", .string outputs.name), ("dnsSuffix", .string outputs.dnsSuffix),
      ("dualStackDnsSuffix", .string outputs.dualStackDnsSuffix),
      ("supportsFIPS", .boolean outputs.supportsFIPS),
      ("supportsDualStack", .boolean outputs.supportsDualStack),
      ("implicitGlobalRegion", .string outputs.implicitGlobalRegion)]

end PartitionOutputs

namespace Partition

def listed? (partition : Partition) (region : String) : Option PartitionOutputs :=
  (partition.regions.get? region).map partition.outputs.override

def defaultId : String := "aws"

/-- The partition of a region that none lists, by what the patterns match. -/
def unlistedWith? (occursIn : Pattern → String → Bool) (partitions : List Partition)
    (region : String) : Option Partition :=
  (partitions.find? fun partition => occursIn partition.regionPattern region).or
    (partitions.find? (·.id = defaultId))

def resolveWith? (occursIn : Pattern → String → Bool) (partitions : List Partition)
    (region : String) : Option PartitionOutputs :=
  (partitions.findSome? (·.listed? region)).or
    ((unlistedWith? occursIn partitions region).map (·.outputs))

def resolve? (partitions : List Partition) (region : String) : Option PartitionOutputs :=
  resolveWith? Pattern.occursIn partitions region

end Partition

end EndpointResolution
