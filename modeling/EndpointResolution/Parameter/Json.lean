import EndpointResolution.Parameter
import EndpointResolution.Value.Json

/-!
Declarations of parameters as JSON: objects of their set members, by name of the parameter.
-/

namespace EndpointResolution

namespace ParameterType

/-- Names may begin with a small letter. -/
def ofName? (name : String) : Option ParameterType :=
  match name with
  | "String" | "string" => some .string
  | "Boolean" | "boolean" => some .boolean
  | "StringArray" | "stringArray" => some .stringArray
  | _ => none

end ParameterType

namespace Parameter

def optionalMember (name : String) (value : Option Json) : List (String × Json) :=
  match value with
  | some json => [(name, json)]
  | none => []

def toJson (p : Parameter) : Json :=
  .object ([("type", .string p.type.name), ("required", .boolean p.required)] ++
    optionalMember "default" (p.default.map Value.toJson) ++
    optionalMember "builtIn" (p.builtIn.map fun builtIn => .string builtIn.name) ++
    optionalMember "documentation" (p.documentation.map .string))

def ofJson? (json : Json) : Option Parameter := do
  let [type, required, default, builtIn, documentation] ←
    json.members? ["type", "required", "default", "builtIn", "documentation"] | none
  return {
    type := ← ParameterType.ofName? (← (← type).nameOf?)
    required := ← Json.withDefault? false Json.boolean? required
    default := ← Json.optional? Value.ofJson? default
    builtIn := (← Json.optional? Json.string? builtIn).map BuiltIn.ofName
    documentation := ← Json.optional? Json.string? documentation }

end Parameter

namespace Parameters

def toJson (parameters : Parameters) : Json := .object (parameters.map Parameter.toJson).entries

def ofJson? (json : Json) : Option Parameters := Json.dictOf? Parameter.ofJson? json

end Parameters

end EndpointResolution
