import EndpointResolution.Json
import EndpointResolution.Scope

/-!
Values and endpoints as JSON. Every value can be written. An endpoint is written as an object of its
members, and so comes back as a record where a value is read.
-/

namespace EndpointResolution

/-- The machine integer of a number, if it is one. -/
def int64? (n : Int) : Option Int64 :=
  if (Int64.ofInt n).toInt = n then some (Int64.ofInt n) else none

namespace Json

def integer? : Json → Option Int64
  | .integer n => int64? n
  | _ => none

def texts (items : List String) : Json := .array (items.map .string)

end Json

namespace Endpoint

/-- Members without contents are left out. -/
def jsonMembers (url : String) (headers : Dict (List String)) (properties : List (String × Json)) :
    List (String × Json) :=
  [("url", .string url)] ++
    (if headers.isEmpty then [] else [("headers", .object (headers.map Json.texts).entries)]) ++
    (if properties.isEmpty then [] else [("properties", .object properties)])

end Endpoint

namespace Value

mutual

def toJson : Value → Json
  | .none => .null
  | .boolean b => .boolean b
  | .integer n => .integer n.toInt
  | .string text => .string text
  | .array items => .array (toJsons items)
  | .record fields => .object (fieldsToJson fields)
  | .endpoint url headers properties =>
      .object (Endpoint.jsonMembers url headers (fieldsToJson properties))

def toJsons : List Value → List Json
  | [] => []
  | value :: rest => value.toJson :: toJsons rest

def fieldsToJson : List (String × Value) → List (String × Json)
  | [] => []
  | (name, value) :: rest => (name, value.toJson) :: fieldsToJson rest

end

mutual

/-- An integer in machine range is one however it is spelled otherwise; no other number is a
value. -/
def ofJson? : Json → Option Value
  | .null => some .none
  | .boolean b => some (.boolean b)
  | .integer n => (int64? n).map .integer
  | .string text => some (.string text)
  | .array items => (ofJsons? items).map .array
  | .object members => (fieldsOfJson? members).map ofFields
  | .decimal _ | .unreadable => Option.none

def ofJsons? : List Json → Option (List Value)
  | [] => some []
  | json :: rest =>
      match ofJson? json, ofJsons? rest with
      | some value, some values => some (value :: values)
      | _, _ => Option.none

def fieldsOfJson? : List (String × Json) → Option (List (String × Value))
  | [] => some []
  | (name, json) :: rest =>
      match ofJson? json, fieldsOfJson? rest with
      | some value, some fields => some ((name, value) :: fields)
      | _, _ => Option.none

end

end Value

namespace Endpoint

def toJson (e : Endpoint) : Json :=
  .object (jsonMembers e.url e.headers (Value.fieldsToJson e.properties.entries))

def ofJson? (json : Json) : Option Endpoint := do
  let [url, headers, properties] ← json.members? ["url", "headers", "properties"] | none
  return {
    url := ← (← url).string?
    headers := ← Json.withDefault? ∅ (Json.dictOf? (Json.listOf? Json.string?)) headers
    properties := ← Json.withDefault? ∅ (Json.dictOf? Value.ofJson?) properties }

end Endpoint

def Environment.ofJson? (json : Json) : Option Environment := Json.dictOf? Value.ofJson? json

def Environment.toJson (environment : Environment) : Json :=
  .object (Value.fieldsToJson environment.entries)

end EndpointResolution
