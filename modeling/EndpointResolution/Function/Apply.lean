import EndpointResolution.Arn
import EndpointResolution.AttributePath
import EndpointResolution.HostLabel
import EndpointResolution.Partition.Standard
import EndpointResolution.Text.Cut
import EndpointResolution.Text.Utf8
import EndpointResolution.Url.Address

/-!
Application of functions. The number of arguments is checked first, then the kind of each argument
from left to right; what is left to fail is a path that leads nowhere.
-/

namespace EndpointResolution.Function

def checkArity (f : Function) (given : Nat) : Result Unit :=
  if given = f.arity then .ok () else .error (.invalidRuleSet (.arity f given))

/-- The first argument of a kind that its position does not take is the one reported. -/
def checkKinds : List (List Kind) → List Value → Result Unit
  | accepted :: signature, argument :: arguments =>
      if argument.kind ∈ accepted then checkKinds signature arguments
      else .error (.typeMismatch accepted argument.kind)
  | _, _ => .ok ()

def partitionOf (region : String) : Result Value :=
  if region = "" then .ok .none
  else
    match Partition.standardTable with
    | .ok table => .ok (.ofOption PartitionOutputs.toValue (Partition.resolve? table region))
    | .error e => .error e

/-- Arguments of accepted number and kinds. -/
def compute : Function → List Value → Result Value
  | .isSet, [value] => .ok (.boolean (!value.isNone))
  | .not, [.boolean b] => .ok (.boolean !b)
  | .booleanEquals, [.boolean a, .boolean b] => .ok (.boolean (a = b))
  | .stringEquals, [.string a, .string b] => .ok (.boolean (a = b))
  | .getAttr, [value, .string path] =>
      match AttributePath.parse path with
      | .ok path => path.get value
      | .error e => .error e
  | .substring, [.string text, .integer start, .integer stop, .boolean backwards] =>
      .ok (.ofOption .string (Text.substring? text start stop backwards))
  | .parseArn, [.string text] => .ok (.ofOption Arn.toValue (Arn.parse? text))
  | .parseURL, [.string text] => .ok (.ofOption Address.toValue (Address.parse? text))
  | .uriEncode, [.string text] => .ok (.string (Percent.encode text))
  | .isValidHostLabel, [.string text, .boolean subdomains] =>
      .ok (.boolean (HostLabel.isValid text subdomains))
  | .partition, [.string region] => partitionOf region
  | .isVirtualHostableS3Bucket, [.string text, .boolean subdomains] =>
      .ok (.boolean (Bucket.isVirtualHostable text subdomains))
  | f, arguments => .error (.invalidRuleSet (.arity f arguments.length))

def apply (f : Function) (arguments : List Value) : Result Value :=
  match f.checkArity arguments.length with
  | .error e => .error e
  | .ok () =>
      match checkKinds f.signature arguments with
      | .error e => .error e
      | .ok () => f.compute arguments

end EndpointResolution.Function
