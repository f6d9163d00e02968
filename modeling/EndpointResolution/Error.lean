import EndpointResolution.Function

/-!
Causes of failure, and the wording of each.
-/

namespace EndpointResolution

/-- What is wrong with the text of a template. -/
inductive TemplateFault where
  | unclosed
  | notInterpolation
  | unmatched
deriving DecidableEq

/-- What makes a rule set malformed. -/
inductive Defect where
  | arity (function : Function) (given : Nat)
  | attributePath (path : String)
  | template (text : String) (fault : TemplateFault)
  | unknownFunction (name : String)
  | parameterDefault (name : String) (expected : List Kind) (found : Kind)
deriving DecidableEq

/-- What makes a table of partitions invalid, with what the reader of documents or the one of
patterns reports of the text that it refuses. -/
inductive TableFault where
  | document (report : String)
  | pattern (partition : String) (report : String)
deriving DecidableEq

inductive Error where
  | typeMismatch (expected : List Kind) (found : Kind)
  | unresolvedReference (name : String)
  | attributeNotFound (name : String)
  | invalidRuleSet (defect : Defect)
  | malformedDocument
  | missingRequiredParameter (name : String)
  | noRuleMatched
  | ruleDefined (message : String)
  | serviceNotAvailable (service : String)
  | invalidPartitionTable (fault : TableFault)
deriving DecidableEq

abbrev Result := Except Error

/-- A name inside a message. -/
def quoted (name : String) : String := "\x60" ++ name ++ "\x60"

def TemplateFault.message : TemplateFault → String
  | .unclosed => "unclosed " ++ quoted "\x7b"
  | .notInterpolation =>
      "interpolation must be " ++ quoted "\x7bname\x7d" ++ " or " ++ quoted "\x7bname#path\x7d"
  | .unmatched => "unmatched " ++ quoted "\x7d"

def mismatchMessage (expected : List Kind) (found : Kind) : String :=
  "type mismatch: expected " ++ Kind.describe expected ++ ", found " ++ found.name

def Defect.message : Defect → String
  | .arity function given =>
      function.name ++ " expects " ++ toString function.arity ++ " arguments, got "
        ++ toString given
  | .attributePath path => "invalid attribute path " ++ quoted path
  | .template text fault => "invalid template " ++ quoted text ++ ": " ++ fault.message
  | .unknownFunction name => "unknown function " ++ quoted name
  | .parameterDefault name expected found =>
      "invalid default for parameter " ++ quoted name ++ ": " ++ mismatchMessage expected found

def TableFault.message : TableFault → String
  | .document report => report
  | .pattern partition report =>
      "invalid region regex for partition " ++ partition ++ ": " ++ report

namespace Error

def message : Error → String
  | .typeMismatch expected found => mismatchMessage expected found
  | .unresolvedReference name => "unresolved reference to " ++ quoted name
  | .attributeNotFound name => "attribute " ++ quoted name ++ " not found"
  | .invalidRuleSet defect => "invalid rule set: " ++ defect.message
  | .malformedDocument => "error parsing rule set"
  | .missingRequiredParameter name => "missing required parameter " ++ quoted name
  | .noRuleMatched => "no rules matched"
  | .ruleDefined message => message
  | .serviceNotAvailable service =>
      "endpoint provider for " ++ quoted service ++ " is not available"
  | .invalidPartitionTable fault => "invalid partition data: " ++ fault.message

/-- The rules rejected the parameters on purpose. -/
def isRuleDefined : Error → Bool
  | .ruleDefined _ => true
  | _ => false

end Error

namespace Value

def expect {α : Type} (kind : Kind) (payload? : Value → Option α) (value : Value) : Result α :=
  match payload? value with
  | some payload => .ok payload
  | Option.none => .error (.typeMismatch [kind] value.kind)

def expectString : Value → Result String := expect .string string?

def expectBoolean : Value → Result Bool := expect .boolean boolean?

def expectInteger : Value → Result Int64 := expect .integer integer?

def expectArray : Value → Result (List Value) := expect .array array?

def expectRecord : Value → Result (List (String × Value)) := expect .record record?

end Value

end EndpointResolution
