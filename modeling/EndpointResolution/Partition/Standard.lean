import EndpointResolution.Partition.Json

/-!
The standard partitions: the text of their table, and what is read from it. None overrides its
outputs for a region.
-/

namespace EndpointResolution.Partition

def standardText : String :=
"\x7b
  \"version\": \"1.1\",
  \"partitions\": [
    \x7b
      \"id\": \"aws\",
      \"regionRegex\": \"^(us|eu|ap|sa|ca|me|af|il|mx)\\\\-\\\\w+\\\\-\\\\d+$\",
      \"regions\": \x7b
        \"af-south-1\": \x7b\x7d,
        \"ap-east-1\": \x7b\x7d,
        \"ap-northeast-1\": \x7b\x7d,
        \"ap-northeast-2\": \x7b\x7d,
        \"ap-northeast-3\": \x7b\x7d,
        \"ap-south-1\": \x7b\x7d,
        \"ap-south-2\": \x7b\x7d,
        \"ap-southeast-1\": \x7b\x7d,
        \"ap-southeast-2\": \x7b\x7d,
        \"ap-southeast-3\": \x7b\x7d,
        \"ap-southeast-4\": \x7b\x7d,
        \"aws-global\": \x7b\x7d,
        \"ca-central-1\": \x7b\x7d,
        \"ca-west-1\": \x7b\x7d,
        \"eu-central-1\": \x7b\x7d,
        \"eu-central-2\": \x7b\x7d,
        \"eu-north-1\": \x7b\x7d,
        \"eu-south-1\": \x7b\x7d,
        \"eu-south-2\": \x7b\x7d,
        \"eu-west-1\": \x7b\x7d,
        \"eu-west-2\": \x7b\x7d,
        \"eu-west-3\": \x7b\x7d,
        \"il-central-1\": \x7b\x7d,
        \"me-central-1\": \x7b\x7d,
        \"me-south-1\": \x7b\x7d,
        \"sa-east-1\": \x7b\x7d,
        \"us-east-1\": \x7b\x7d,
        \"us-east-2\": \x7b\x7d,
        \"us-west-1\": \x7b\x7d,
        \"us-west-2\": \x7b\x7d
      \x7d,
      \"outputs\": \x7b
        \"name\": \"aws\",
        \"dnsSuffix\": \"amazonaws.com\",
        \"dualStackDnsSuffix\": \"api.aws\",
        \"supportsFIPS\": true,
        \"supportsDualStack\": true,
        \"implicitGlobalRegion\": \"us-east-1\"
      \x7d
    \x7d,
    \x7b
      \"id\": \"aws-cn\",
      \"regionRegex\": \"^cn\\\\-\\\\w+\\\\-\\\\d+$\",
      \"regions\": \x7b
        \"aws-cn-global\": \x7b\x7d,
        \"cn-north-1\": \x7b\x7d,
        \"cn-northwest-1\": \x7b\x7d
      \x7d,
      \"outputs\": \x7b
        \"name\": \"aws-cn\",
        \"dnsSuffix\": \"amazonaws.com.cn\",
        \"dualStackDnsSuffix\": \"api.amazonwebservices.com.cn\",
        \"supportsFIPS\": true,
        \"supportsDualStack\": true,
        \"implicitGlobalRegion\": \"cn-northwest-1\"
      \x7d
    \x7d,
    \x7b
      \"id\": \"aws-us-gov\",
      \"regionRegex\": \"^us\\\\-gov\\\\-\\\\w+\\\\-\\\\d+$\",
      \"regions\": \x7b
        \"aws-us-gov-global\": \x7b\x7d,
        \"us-gov-east-1\": \x7b\x7d,
        \"us-gov-west-1\": \x7b\x7d
      \x7d,
      \"outputs\": \x7b
        \"name\": \"aws-us-gov\",
        \"dnsSuffix\": \"amazonaws.com\",
        \"dualStackDnsSuffix\": \"api.aws\",
        \"supportsFIPS\": true,
        \"supportsDualStack\": true,
        \"implicitGlobalRegion\": \"us-gov-west-1\"
      \x7d
    \x7d,
    \x7b
      \"id\": \"aws-iso\",
      \"regionRegex\": \"^us\\\\-iso\\\\-\\\\w+\\\\-\\\\d+$\",
      \"regions\": \x7b
        \"aws-iso-global\": \x7b\x7d,
        \"us-iso-east-1\": \x7b\x7d,
        \"us-iso-west-1\": \x7b\x7d
      \x7d,
      \"outputs\": \x7b
        \"name\": \"aws-iso\",
        \"dnsSuffix\": \"c2s.ic.gov\",
        \"dualStackDnsSuffix\": \"c2s.ic.gov\",
        \"supportsFIPS\": true,
        \"supportsDualStack\": false,
        \"implicitGlobalRegion\": \"us-iso-east-1\"
      \x7d
    \x7d,
    \x7b
      \"id\": \"aws-iso-b\",
      \"regionRegex\": \"^us\\\\-isob\\\\-\\\\w+\\\\-\\\\d+$\",
      \"regions\": \x7b
        \"aws-iso-b-global\": \x7b\x7d,
        \"us-isob-east-1\": \x7b\x7d
      \x7d,
      \"outputs\": \x7b
        \"name\": \"aws-iso-b\",
        \"dnsSuffix\": \"sc2s.sgov.gov\",
        \"dualStackDnsSuffix\": \"sc2s.sgov.gov\",
        \"supportsFIPS\": true,
        \"supportsDualStack\": false,
        \"implicitGlobalRegion\": \"us-isob-east-1\"
      \x7d
    \x7d
  ]
\x7d
"

/-- The table that functions look regions up in. Its text is accepted, so no report is worded. -/
def standardTable : Result (List Partition) :=
  tableOfText { document := fun _ => "", pattern := fun _ => "" } standardText

/-- One of several areas; a single one is written without a group. -/
def areaPatterns : List String → List Pattern
  | [area] => area.toList.map .literal
  | areas => [.oneOf (areas.map .text)]

/-- Regions named by an area, a place and a number, with hyphens between them. -/
def regional (areas : List String) : Pattern :=
  .sequence
    (.textStart :: (areaPatterns areas ++
      [.literal '-', .many1 .word, .literal '-', .many1 .digit, .textEnd]))

def listing (regions : List String) : Dict RegionOverride :=
  .ofList (regions.map fun region => (region, {}))

def aws : Partition where
  id := "aws"
  regionPattern := regional ["us", "eu", "ap", "sa", "ca", "me", "af", "il", "mx"]
  regions := listing
    ["af-south-1", "ap-east-1", "ap-northeast-1", "ap-northeast-2", "ap-northeast-3", "ap-south-1",
      "ap-south-2", "ap-southeast-1", "ap-southeast-2", "ap-southeast-3", "ap-southeast-4",
      "aws-global", "ca-central-1", "ca-west-1", "eu-central-1", "eu-central-2", "eu-north-1",
      "eu-south-1", "eu-south-2", "eu-west-1", "eu-west-2", "eu-west-3", "il-central-1",
      "me-central-1", "me-south-1", "sa-east-1", "us-east-1", "us-east-2", "us-west-1", "us-west-2"]
  outputs :=
    { name := "aws"
      dnsSuffix := "amazonaws.com"
      dualStackDnsSuffix := "api.aws"
      supportsFIPS := true
      supportsDualStack := true
      implicitGlobalRegion := "us-east-1" }

def awsCn : Partition where
  id := "aws-cn"
  regionPattern := regional ["cn"]
  regions := listing ["aws-cn-global", "cn-north-1", "cn-northwest-1"]
  outputs :=
    { name := "aws-cn"
      dnsSuffix := "amazonaws.com.cn"
      dualStackDnsSuffix := "api.amazonwebservices.com.cn"
      supportsFIPS := true
      supportsDualStack := true
      implicitGlobalRegion := "cn-northwest-1" }

def awsUsGov : Partition where
  id := "aws-us-gov"
  regionPattern := regional ["us-gov"]
  regions := listing ["aws-us-gov-global", "us-gov-east-1", "us-gov-west-1"]
  outputs :=
    { name := "aws-us-gov"
      dnsSuffix := "amazonaws.com"
      dualStackDnsSuffix := "api.aws"
      supportsFIPS := true
      supportsDualStack := true
      implicitGlobalRegion := "us-gov-west-1" }

def awsIso : Partition where
  id := "aws-iso"
  regionPattern := regional ["us-iso"]
  regions := listing ["aws-iso-global", "us-iso-east-1", "us-iso-west-1"]
  outputs :=
    { name := "aws-iso"
      dnsSuffix := "c2s.ic.gov"
      dualStackDnsSuffix := "c2s.ic.gov"
      supportsFIPS := true
      supportsDualStack := false
      implicitGlobalRegion := "us-iso-east-1" }

def awsIsoB : Partition where
  id := "aws-iso-b"
  regionPattern := regional ["us-isob"]
  regions := listing ["aws-iso-b-global", "us-isob-east-1"]
  outputs :=
    { name := "aws-iso-b"
      dnsSuffix := "sc2s.sgov.gov"
      dualStackDnsSuffix := "sc2s.sgov.gov"
      supportsFIPS := true
      supportsDualStack := false
      implicitGlobalRegion := "us-isob-east-1" }

def standard : List Partition := [aws, awsCn, awsUsGov, awsIso, awsIsoB]

end EndpointResolution.Partition
