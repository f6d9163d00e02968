import EndpointResolution.Pattern.Escape
import EndpointResolution.Text.Cut

/-!
Sets in brackets. Letter case is disregarded in the operands before they are combined, and in a set
before its complement is taken.
-/

namespace EndpointResolution.Pattern.Bracket

/-- A set and the levels of brackets, operators and lists in the way it is written. -/
structure Written where
  set : CharSet
  levels : Nat := 0

def alphanumeric : CharSet := .union (.range '0' '9') Escape.letters

def named? (name : List Char) : Option CharSet :=
  match String.ofList name with
  | "ascii" => some (.range '\x00' '\x7f')
  | "cntrl" => some (.union (.range '\x00' '\x1f') (.single '\x7f'))
  | "graph" => some (.range '!' '~')
  | "print" => some (.range ' ' '~')
  | "digit" => some (.range '0' '9')
  | "lower" => some (.range 'a' 'z')
  | "upper" => some (.range 'A' 'Z')
  | "alpha" => some Escape.letters
  | "alnum" => some alphanumeric
  | "word" => some (.union (.single '_') alphanumeric)
  | "space" => some (Escape.spaces .ascii)
  | "blank" => some (.union (.single ' ') (.single '\t'))
  | "xdigit" => some (.union (.range '0' '9') (.union (.range 'a' 'f') (.range 'A' 'F')))
  | "punct" =>
      some (.union (.range '!' '/') (.union (.range ':' '@')
        (.union (.range '[' '\x60') (.range '\x7b' '~'))))
  | _ => none

/-- A name between colons and brackets, and whether the complement is wanted. -/
def name? : List Char → Option (CharSet × Bool × List Char)
  | '[' :: ':' :: rest => do
      let (inner, rest) ← Text.cut? ']' rest
      guard (inner.getLast? = some ':')
      match inner.dropLast with
      | '^' :: name => return (← named? name, true, rest)
      | name => return (← named? name, false, rest)
  | _ => none

def item? (flags : Flags) : List Char → Option (Escape × List Char)
  | '\\' :: rest => Escape.read? flags rest
  | c :: rest => some (.char c false, rest)
  | [] => none

/-- A character that is a member by itself. -/
def char? (flags : Flags) : Escape → Option Char
  | .char c _ => if flags.repertoire = .full ∨ c.toNat < 128 then some c else none
  | _ => none

def ofItem? (flags : Flags) : Escape → Option CharSet
  | .char c isByte => (char? flags (.char c isByte)).map .single
  | .set set => some set
  | .anchor _ => none

def range? (first last : Char) : Option CharSet :=
  if first ≤ last then some (.range first last) else none

/-- One member or a range. A hyphen before the closing bracket or another hyphen makes no range. -/
def member? (flags : Flags) (text : List Char) : Option (CharSet × List Char) := do
  let (first, rest) ← item? flags text
  match flags.skip rest with
  | '-' :: behind =>
      let next := flags.peek? behind
      if next = some ']' ∨ next = some '-' then return (← ofItem? flags first, flags.skip rest)
      else
        let (last, rest) ← item? flags (flags.skip behind)
        return (← range? (← char? flags first) (← char? flags last), rest)
  | rest => return (← ofItem? flags first, rest)

/-- The members since the last operator. -/
structure Members where
  set : CharSet := .empty
  count : Nat := 0
  levels : Nat := 0

def Members.add (members : Members) (written : Written) : Members :=
  { set := .union members.set written.set
    count := members.count + 1
    levels := max members.levels written.levels }

/-- A list of several members is a level of its own. -/
def Members.written (members : Members) : Written :=
  ⟨members.set, if 2 ≤ members.count then members.levels + 1 else members.levels⟩

abbrev Operator := CharSet → CharSet → CharSet

def operator? : List Char → Option (Operator × List Char)
  | '&' :: '&' :: rest => some (.inter, rest)
  | '-' :: '-' :: rest => some (.difference, rest)
  | '~' :: '~' :: rest => some (.symmetricDifference, rest)
  | _ => none

/-- The members with what stands before the last operator. -/
def combine (flags : Flags) (before : Option (Operator × Written)) (members : Members) : Written :=
  match before with
  | none => members.written
  | some (operator, left) =>
      let right := members.written
      ⟨operator (flags.fold left.set) (flags.fold right.set), max left.levels right.levels + 1⟩

/-- Hyphens that stand for themselves because they come first. -/
def hyphens (flags : Flags) : Nat → Members → List Char → Members × List Char
  | 0, members, text => (members, text)
  | n + 1, members, text =>
      match flags.skip text with
      | '-' :: rest => hyphens flags n (members.add ⟨.single '-', 0⟩) rest
      | rest => (members, rest)

/-- Hyphens, or else a closing bracket, stand for themselves where a set begins. -/
def leading (flags : Flags) (text : List Char) : Members × List Char :=
  match hyphens flags text.length {} text with
  | (members, ']' :: rest) =>
      if members.count = 0 then (members.add ⟨.single ']', 0⟩, rest) else (members, ']' :: rest)
  | read => read

def close? (flags : Flags) (negated : Bool) (written : Written) : Option Written := do
  return ⟨← flags.complementIf? negated (flags.fold written.set), written.levels + 1⟩

mutual

/-- The set after an opening bracket, up to its closing one. Each level and each member spends one
unit of fuel, so the length of the text suffices. -/
def set? (flags : Flags) : Nat → List Char → Option (Written × List Char)
  | 0, _ => none
  | n + 1, text => do
      let (negated, rest) := match flags.skip text with
        | '^' :: rest => (true, flags.skip rest)
        | rest => (false, rest)
      let (members, rest) := leading flags rest
      let (written, rest) ← members? flags n none members rest
      return (← close? flags negated written, rest)

/-- More members of a set. -/
def members? (flags : Flags) : Nat → Option (Operator × Written) → Members → List Char →
    Option (Written × List Char)
  | 0, _, _, _ => none
  | n + 1, before, members, text =>
      match flags.skip text with
      | [] => none
      | ']' :: rest => some (combine flags before members, rest)
      | text =>
          match operator? text with
          | some (operator, rest) =>
              members? flags n (some (operator, combine flags before members)) {} rest
          | none =>
              match name? text, text with
              | some (set, negated, rest), _ => do
                  let set ← flags.complementIf? negated (flags.fold set)
                  members? flags n before (members.add ⟨set, 0⟩) rest
              | none, '[' :: rest => do
                  let (written, rest) ← set? flags n rest
                  members? flags n before (members.add written) rest
              | none, text => do
                  let (set, rest) ← member? flags text
                  members? flags n before (members.add ⟨set, 0⟩) rest

end

end EndpointResolution.Pattern.Bracket
