import EndpointResolution.Value

/-!
The closed library of functions that expressions may apply: names and signatures. Every function
has a fixed number of arguments, and each position takes a fixed set of kinds.
-/

namespace EndpointResolution

inductive Function where
  | isSet
  | not
  | booleanEquals
  | stringEquals
  | getAttr
  | substring
  | parseArn
  | parseURL
  | uriEncode
  | isValidHostLabel
  | partition
  | isVirtualHostableS3Bucket
deriving DecidableEq

namespace Function

def all : List Function :=
  [.isSet, .not, .booleanEquals, .stringEquals, .getAttr, .substring, .parseArn, .parseURL,
    .uriEncode, .isValidHostLabel, .partition, .isVirtualHostableS3Bucket]

def name : Function → String
  | .isSet => "isSet"
  | .not => "not"
  | .booleanEquals => "booleanEquals"
  | .stringEquals => "stringEquals"
  | .getAttr => "getAttr"
  | .substring => "substring"
  | .parseArn => "aws.parseArn"
  | .parseURL => "parseURL"
  | .uriEncode => "uriEncode"
  | .isValidHostLabel => "isValidHostLabel"
  | .partition => "aws.partition"
  | .isVirtualHostableS3Bucket => "aws.isVirtualHostableS3Bucket"

/-- The function of a name; `parseArn` is also known without its namespace. -/
def ofName? (text : String) : Option Function :=
  if text = "parseArn" then some .parseArn else all.find? (·.name = text)

/-- What `getAttr` can look into. -/
def indexable : List Kind := [.record, .array]

/-- The kinds taken at each position. -/
def signature : Function → List (List Kind)
  | .isSet => [Kind.all]
  | .not => [[.boolean]]
  | .booleanEquals => [[.boolean], [.boolean]]
  | .stringEquals => [[.string], [.string]]
  | .getAttr => [indexable, [.string]]
  | .substring => [[.string], [.integer], [.integer], [.boolean]]
  | .parseArn => [[.string]]
  | .parseURL => [[.string]]
  | .uriEncode => [[.string]]
  | .isValidHostLabel => [[.string], [.boolean]]
  | .partition => [[.string]]
  | .isVirtualHostableS3Bucket => [[.string], [.boolean]]

def arity (f : Function) : Nat := f.signature.length

theorem ofName?_name (f : Function) : ofName? f.name = some f := by cases f <;> decide

end Function

end EndpointResolution
