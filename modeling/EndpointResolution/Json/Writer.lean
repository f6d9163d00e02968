import EndpointResolution.Json
import EndpointResolution.Text.Utf8

/-!
JSON text of documents, without space between tokens.
-/

namespace EndpointResolution.Json

def escapeChar (c : Char) : List Char :=
  if c = '"' ∨ c = '\\' then ['\\', c]
  else if c.toNat < 0x20 then
    ['\\', 'u', '0', '0', Percent.hexDigit (c.toNat / 16), Percent.hexDigit (c.toNat % 16)]
  else [c]

def quote (text : String) : String := "\"" ++ String.ofList (text.toList.flatMap escapeChar) ++ "\""

mutual

/-- What is unreadable has no text of its own and is written as null. -/
def render : Json → String
  | .null | .unreadable => "null"
  | .boolean true => "true"
  | .boolean false => "false"
  | .integer n => toString n
  | .decimal text => text
  | .string text => quote text
  | .array items => "[" ++ String.intercalate "," (renderAll items) ++ "]"
  | .object members => "\x7b" ++ String.intercalate "," (renderMembers members) ++ "\x7d"

def renderAll : List Json → List String
  | [] => []
  | item :: rest => item.render :: renderAll rest

def renderMembers : List (String × Json) → List String
  | [] => []
  | (name, value) :: rest => (quote name ++ ":" ++ value.render) :: renderMembers rest

end

end EndpointResolution.Json
