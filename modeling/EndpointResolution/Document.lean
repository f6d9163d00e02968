import EndpointResolution.Parameter.Json
import EndpointResolution.Rule

/-!
Rule set documents: what the JSON form says before names of functions, templates and paths are
looked into. Members are decoded by shape; a document of the wrong shape is malformed as a whole.
-/

namespace EndpointResolution.Document

/-- An expression; the fields of a record are in increasing order of name. -/
inductive Term where
  | reference (name : String)
  | call (function : String) (arguments : List Term)
  | boolean (b : Bool)
  | integer (n : Int64)
  | string (s : String)
  | array (items : List Term)
  | record (fields : List (String × Term))

/-- A condition. -/
structure Clause where
  function : String
  arguments : List Term
  assign : Option String

/-- The outcome of an endpoint rule. -/
structure Target where
  url : Term
  headers : Dict (List Term)
  properties : Dict Term

/-- A rule. -/
inductive Entry where
  | endpoint (conditions : List Clause) (target : Target) (documentation : Option String)
  | error (conditions : List Clause) (message : Term) (documentation : Option String)
  | tree (conditions : List Clause) (rules : List Entry) (documentation : Option String)

namespace Term

def reference? (members : List (String × Option Term)) : Option Term :=
  match Json.occurrences "ref" members with
  | [some (.string name)] => some (.reference name)
  | _ => none

def call? (members : List (String × Option Term)) : Option Term :=
  match Json.occurrences "fn" members, Json.occurrences "argv" members with
  | [some (.string name)], [some (.array arguments)] => some (.call name arguments)
  | _, _ => none

def record? (members : List (String × Option Term)) : Option Term :=
  let fields := members.mapM fun (name, value) => value.map fun value => (name, value)
  fields.map fun fields => .record (Assoc.ofList fields)

/-- An object is a reference if it can be read as one, else a call, else a record. -/
def ofMembers? (members : List (String × Option Term)) : Option Term :=
  (reference? members).or ((call? members).or (record? members))

mutual

def ofJson? : Json → Option Term
  | .boolean b => some (.boolean b)
  | .integer n => (int64? n).map .integer
  | .string s => some (.string s)
  | .array items => (ofJsons? items).map .array
  | .object members => ofMembers? (membersOfJson members)
  | .null | .decimal _ | .unreadable => none

def ofJsons? : List Json → Option (List Term)
  | [] => some []
  | json :: rest =>
      match ofJson? json, ofJsons? rest with
      | some item, some items => some (item :: items)
      | _, _ => none

/-- Members that are no terms stay, as they may be ignored. -/
def membersOfJson : List (String × Json) → List (String × Option Term)
  | [] => []
  | (name, json) :: rest => (name, ofJson? json) :: membersOfJson rest

end

end Term

def Clause.ofJson? (json : Json) : Option Clause := do
  let [function, arguments, assign] ← json.members? ["fn", "argv", "assign"] | none
  return {
    function := ← (← function).string?
    arguments := ← Json.listOf? Term.ofJson? (← arguments)
    assign := ← Json.optional? Json.string? assign }

def Target.ofJson? (json : Json) : Option Target := do
  let [url, headers, properties] ← json.members? ["url", "headers", "properties"] | none
  return {
    url := ← Term.ofJson? (← url)
    headers := ← Json.withDefault? ∅ (Json.dictOf? (Json.listOf? Term.ofJson?)) headers
    properties := ← Json.withDefault? ∅ (Json.dictOf? Term.ofJson?) properties }

namespace Entry

inductive Tag where
  | endpoint | error | tree

/-- Rules inside a tree may also give their type by number. -/
def Tag.ofJson? (inTree : Bool) : Json → Option Tag
  | .string "endpoint" => some .endpoint
  | .string "error" => some .error
  | .string "tree" => some .tree
  | .integer 0 => if inTree then some .endpoint else none
  | .integer 1 => if inTree then some .error else none
  | .integer 2 => if inTree then some .tree else none
  | _ => none

def conditions? : Option Json → Option (List Clause) :=
  Json.withDefault? [] (Json.listOf? Clause.ofJson?)

/-- A rule of the type given, from its other members and from what its members `rules` hold. -/
def build? (inTree : Bool) (tag : Json) (body : Json) (inner : List (Option (List Entry))) :
    Option Entry := do
  match ← Tag.ofJson? inTree tag with
  | .endpoint =>
      let [conditions, target, documentation] ←
        body.members? ["conditions", "endpoint", "documentation"] | none
      return .endpoint (← conditions? conditions) (← Target.ofJson? (← target))
        (← Json.optional? Json.string? documentation)
  | .error =>
      let [conditions, message, documentation] ←
        body.members? ["conditions", "error", "documentation"] | none
      return .error (← conditions? conditions) (← Term.ofJson? (← message))
        (← Json.optional? Json.string? documentation)
  | .tree =>
      let [conditions, _, documentation] ←
        body.members? ["conditions", "rules", "documentation"] | none
      let [rules] := inner | none
      return .tree (← conditions? conditions) (← rules)
        (← Json.optional? Json.string? documentation)

mutual

/-- A rule is an object with a member `type`, or an array that begins with the type. -/
def ofJson? (inTree : Bool) : Json → Option Entry
  | .object members =>
      match Json.occurrences "type" members with
      | [tag] => build? inTree tag (.object members) (innerRules members)
      | _ => none
  | .array (tag :: conditions :: .array rules :: rest) =>
      build? inTree tag (.array (conditions :: .array rules :: rest)) [ofJsons? true rules]
  | .array (tag :: rest) => build? inTree tag (.array rest) []
  | _ => none

def ofJsons? (inTree : Bool) : List Json → Option (List Entry)
  | [] => some []
  | json :: rest =>
      match ofJson? inTree json, ofJsons? inTree rest with
      | some rule, some rules => some (rule :: rules)
      | _, _ => none

/-- The rules in every member of that name. -/
def innerRules : List (String × Json) → List (Option (List Entry))
  | [] => []
  | (name, .array items) :: rest =>
      if name = "rules" then ofJsons? true items :: innerRules rest else innerRules rest
  | (name, _) :: rest => if name = "rules" then none :: innerRules rest else innerRules rest

end

end Entry

end EndpointResolution.Document

namespace EndpointResolution

structure Document where
  version : String
  parameters : Parameters
  rules : List Document.Entry

namespace Document

/-- Everything inside a rule has to be readable, ignored members included. -/
def rules? : Json → Option (List Entry)
  | .array items => if Json.allReadable items then Entry.ofJsons? false items else none
  | _ => none

def ofJson? (json : Json) : Option Document := do
  let [version, parameters, rules] ← json.members? ["version", "parameters", "rules"] | none
  return {
    version := ← (← version).string?
    parameters := ← Json.withDefault? ∅ Parameters.ofJson? parameters
    rules := ← rules? (← rules) }

end Document

end EndpointResolution
