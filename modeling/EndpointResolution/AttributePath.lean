import EndpointResolution.Error
import EndpointResolution.Text.Cut

/-!
Paths into values, such as `a.b[2].c`. Components are separated by dots. A component is a name, an
index in brackets, or a name followed by an index; the first one starts with a name.
-/

namespace EndpointResolution

inductive AttributePath.Step where
  | key (name : String)
  | index (position : Nat)
deriving DecidableEq

structure AttributePath where
  steps : List AttributePath.Step
deriving DecidableEq

namespace AttributePath

/-- Positions are machine words. -/
def positionBound : Nat := Nat.pow 2 64

/-- One or more digits, after a plus sign at will. -/
def position? (text : List Char) : Option Nat :=
  let digits := match text with
    | '+' :: rest => rest
    | text => text
  if digits ≠ [] ∧ digits.all Char.isDigit ∧ Text.digitsValue digits < positionBound then
    some (Text.digitsValue digits)
  else none

/-- The position inside closing brackets; the opening one has been read. -/
def bracketed? (text : List Char) : Option Nat :=
  if text.getLast? = some ']' then position? text.dropLast else none

def component? (first : Bool) (text : List Char) : Option (List Step) :=
  let key := text.takeWhile (· ≠ '[')
  match text.dropWhile (· ≠ '[') with
  | [] => if key = [] then none else some [.key (String.ofList key)]
  | _ :: rest =>
      match bracketed? rest with
      | none => none
      | some n =>
          if key = [] then if first then none else some [.index n]
          else some [.key (String.ofList key), .index n]

def components? : Bool → List (List Char) → Option (List Step)
  | _, [] => some []
  | first, text :: rest =>
      match component? first text, components? false rest with
      | some steps, some more => some (steps ++ more)
      | _, _ => none

def parse? (text : String) : Option AttributePath :=
  (components? true (text.toList.splitOn '.')).map (⟨·⟩)

def parse (text : String) : Result AttributePath :=
  match parse? text with
  | some path => .ok path
  | none => .error (.invalidRuleSet (.attributePath text))

/-- An unknown name is a failure; an index past the end means absence, whatever follows it. -/
def follow : List Step → Value → Result Value
  | [], value => .ok value
  | .key name :: rest, value =>
      match value with
      | .record fields =>
          match Assoc.find? name fields with
          | some field => follow rest field
          | none => .error (.attributeNotFound name)
      | other => .error (.typeMismatch [.record] other.kind)
  | .index n :: rest, value =>
      match value with
      | .array items =>
          match items[n]? with
          | some item => follow rest item
          | none => .ok .none
      | other => .error (.typeMismatch [.array] other.kind)

def get (path : AttributePath) (value : Value) : Result Value := follow path.steps value

end AttributePath

end EndpointResolution
