import EndpointResolution.Scope

/-!
Declarations of parameters. Binding gives every declared name a value, the supplied one, the default
or absence, and drops what is supplied under other names.
-/

namespace EndpointResolution

inductive ParameterType where
  | string
  | boolean
  | stringArray
deriving DecidableEq

/-- Values that every client supplies. Other names are known to rule sets only. -/
inductive BuiltIn where
  | region
  | useFIPS
  | useDualStack
  | endpoint
  | other (name : String)
deriving DecidableEq

structure Parameter where
  type : ParameterType
  required : Bool := false
  default : Option Value := none
  builtIn : Option BuiltIn := none
  documentation : Option String := none
deriving DecidableEq

abbrev Parameters := Dict Parameter

namespace BuiltIn

def name : BuiltIn → String
  | .region => "AWS::Region"
  | .useFIPS => "AWS::UseFIPS"
  | .useDualStack => "AWS::UseDualStack"
  | .endpoint => "SDK::Endpoint"
  | .other name => name

def known : List BuiltIn := [.region, .useFIPS, .useDualStack, .endpoint]

def ofName (name : String) : BuiltIn := (known.find? (·.name = name)).getD (.other name)

end BuiltIn

namespace ParameterType

def name : ParameterType → String
  | .string => "String"
  | .boolean => "Boolean"
  | .stringArray => "StringArray"

/-- Kinds expected and found, where a value does not conform. Absence conforms to every type. -/
def mismatch? : ParameterType → Value → Option (List Kind × Kind)
  | _, .none => none
  | .string, .string _ => none
  | .boolean, .boolean _ => none
  | .stringArray, .array items =>
      (items.find? (·.kind ≠ .string)).map fun item => ([.string], item.kind)
  | .string, other => some ([.string], other.kind)
  | .boolean, other => some ([.boolean], other.kind)
  | .stringArray, other => some ([.array], other.kind)

def check (type : ParameterType) (value : Value) : Result Unit :=
  match type.mismatch? value with
  | none => .ok ()
  | some (expected, found) => .error (.typeMismatch expected found)

end ParameterType

namespace Parameter

/-- The value of a parameter for what is supplied under its name. -/
def valueFor (parameter : Parameter) (supplied : Option Value) : Value :=
  match supplied with
  | none | some .none => parameter.default.getD .none
  | some value => value

def bind (name : String) (parameter : Parameter) (supplied : Option Value) : Result Value := do
  let value := parameter.valueFor supplied
  if value.isNone ∧ parameter.required then .error (.missingRequiredParameter name)
  else
    parameter.type.check value
    return value

end Parameter

namespace Parameters

def bindAll (supplied : Environment) :
    List (String × Parameter) → Result (List (String × Value))
  | [] => .ok []
  | (name, parameter) :: rest => do
      return (name, ← parameter.bind name (supplied.get? name)) :: (← bindAll supplied rest)

/-- The environment for the rules; the first declaration by name that fails is reported. -/
def bind (parameters : Parameters) (supplied : Environment) : Result Environment := do
  return .ofList (← bindAll supplied parameters.entries)

def defaultMismatch? (declaration : String × Parameter) : Option Defect := do
  let value ← declaration.2.default
  let (expected, found) ← declaration.2.type.mismatch? value
  return .parameterDefault declaration.1 expected found

/-- Whether defaults conform to the types of their parameters. -/
def validate (parameters : Parameters) : Result Unit :=
  match parameters.entries.findSome? defaultMismatch? with
  | some defect => .error (.invalidRuleSet defect)
  | none => .ok ()

/-- The parameters that take a built-in value, by name. -/
def builtIns (parameters : Parameters) : List (BuiltIn × String) :=
  parameters.entries.filterMap fun declaration =>
    declaration.2.builtIn.map fun builtIn => (builtIn, declaration.1)

end Parameters

end EndpointResolution
