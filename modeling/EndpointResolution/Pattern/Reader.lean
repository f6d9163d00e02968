import EndpointResolution.Pattern.Automaton
import EndpointResolution.Pattern.Bracket

/-!
The written form of patterns. Readers return what they have read and the text behind it. Each of
them spends one unit of fuel on a character or on a level of nesting, so the length of the text
suffices. A pattern is refused if it nests too deep, names two groups alike or is too large.
-/

namespace EndpointResolution.Pattern

/-- Blanks around a number do not count. -/
def trim (text : List Char) : List Char :=
  ((text.dropWhile CharSet.isSpace).reverse.dropWhile CharSet.isSpace).reverse

def number? (text : List Char) : Option Nat :=
  let digits := trim text
  if digits ≠ [] ∧ digits.all Char.isDigit ∧ Text.digitsValue digits < 0x100000000 then
    some (Text.digitsValue digits)
  else none

def bounds? (text : List Char) : Option (Nat × Option Nat) :=
  match Text.cut? ',' text with
  | none => (number? text).map fun n => (n, some n)
  | some (least, []) => (number? least).map fun n => (n, none)
  | some (least, most) =>
      match number? least, number? most with
      | some n, some m => if n ≤ m then some (n, some m) else none
      | _, _ => none

/-- A question mark behind a repetition prefers short instances, which changes no match. -/
def dropLazy : List Char → List Char
  | '?' :: rest => rest
  | rest => rest

def isRepetition (c : Char) : Bool := c = '*' || c = '+' || c = '?' || c = '\x7b'

def repetition? (flags : Flags) : List Char → Option ((Nat × Option Nat) × List Char)
  | '*' :: rest => some ((0, none), dropLazy rest)
  | '+' :: rest => some ((1, none), dropLazy rest)
  | '?' :: rest => some ((0, some 1), dropLazy rest)
  | '\x7b' :: rest => do
      let (inner, rest) ← flags.braced? false rest
      return (← bounds? inner, dropLazy (flags.skip rest))
  | _ => none

/-- There has to be something to repeat. -/
def Tree.repeat? (bounds : Nat × Option Nat) : Tree → Option Tree
  | .setting => none
  | tree => some (.repeated tree bounds.1 bounds.2)

inductive Opening where
  | setting (flags : Flags)
  | group (flags : Flags)
  | capture (name : Option (List Char))

def isNameStart (c : Char) : Bool := c = '_' || Property.alphabetic.contains c.toNat

def isNamePart (c : Char) : Bool :=
  isNameStart c || ['.', '[', ']'].contains c || GeneralCategory.numbers.contains c.toNat

def isGroupName : List Char → Bool
  | [] => false
  | c :: rest => isNameStart c && rest.all isNamePart

def groupName? (text : List Char) : Option (Opening × List Char) := do
  let (name, rest) ← Text.cut? '>' text
  guard (isGroupName name)
  return (.capture (some name), rest)

def endsFlags (c : Char) : Bool := c = ':' || c = ')'

def groupFlags? (flags : Flags) (text : List Char) : Option (Opening × List Char) := do
  let written := text.takeWhile (!endsFlags ·)
  let flags ← flags.read? written
  match text.dropWhile (!endsFlags ·) with
  | ':' :: rest => return (.group flags, rest)
  | ')' :: rest => if written.isEmpty then none else return (.setting flags, rest)
  | _ => none

/-- What follows an opening parenthesis. Nothing looks ahead or behind. -/
def opening? (flags : Flags) (text : List Char) : Option (Opening × List Char) :=
  match flags.skip text with
  | '?' :: '=' :: _ | '?' :: '!' :: _ | '?' :: '<' :: '=' :: _ | '?' :: '<' :: '!' :: _ => none
  | '?' :: 'P' :: '<' :: rest | '?' :: '<' :: rest => groupName? rest
  | '?' :: rest => groupFlags? flags rest
  | rest => some (.capture none, rest)

/-- The flags inside of a group. -/
def Opening.flags (flags : Flags) : Opening → Flags
  | .setting inner | .group inner => inner
  | .capture _ => flags

def Opening.close (inner : Tree) : Opening → Tree
  | .setting _ => .setting
  | .group _ => .group inner
  | .capture name => .capture name inner

def ofEscape? (flags : Flags) : Escape → Option Tree
  | .char c isByte =>
      if isByte ∧ flags.repertoire = .ascii ∧ 128 ≤ c.toNat then none
      else some (.char (flags.fold (.single c)) 0)
  | .set set => some (.char set 0)
  | .anchor assertion => some (.anchor assertion)

/-- One character or what it stands for. -/
def primitive? (flags : Flags) : List Char → Option (Tree × List Char)
  | '.' :: rest => flags.dot?.map fun set => (.char set 0, rest)
  | '^' :: rest => some (.anchor flags.lineStart, rest)
  | '$' :: rest => some (.anchor flags.lineEnd, rest)
  | '\\' :: rest => do
      let (escape, rest) ← Escape.read? flags rest
      return (← ofEscape? flags escape, rest)
  | c :: rest => some (.char (flags.fold (.single c)) 0, rest)
  | [] => none

mutual

/-- Alternatives up to the end or a closing parenthesis. Flags that are set in one of them hold in
the next. -/
def alternatives? : Nat → Flags → List Char → Option (List Tree × List Char)
  | 0, _, _ => none
  | n + 1, flags, text => do
      let (first, flags, rest) ← parts? n flags [] text
      match rest with
      | '|' :: rest => do
          let (others, rest) ← alternatives? n flags rest
          return (first :: others, rest)
      | rest => return ([first], rest)

/-- One alternative, of which the parts read so far are given, the latest first. -/
def parts? : Nat → Flags → List Tree → List Char → Option (Tree × Flags × List Char)
  | 0, _, _, _ => none
  | n + 1, flags, parts, text =>
      match flags.skip text with
      | [] => some (.ofParts parts.reverse, flags, [])
      | '|' :: rest => some (.ofParts parts.reverse, flags, '|' :: rest)
      | ')' :: rest => some (.ofParts parts.reverse, flags, ')' :: rest)
      | '(' :: rest =>
          match opening? flags rest with
          | none => none
          | some (.setting flags, rest) => parts? n flags (.setting :: parts) rest
          | some (opening, rest) => do
              let (choices, rest) ← alternatives? n (opening.flags flags) rest
              match rest with
              | ')' :: rest => parts? n flags (opening.close (.ofChoices choices) :: parts) rest
              | _ => none
      | '[' :: rest => do
          let (written, rest) ← Bracket.set? flags n rest
          parts? n flags (.char written.set written.levels :: parts) rest
      | c :: rest =>
          if isRepetition c then
            match parts with
            | [] => none
            | part :: before => do
                let (bounds, rest) ← repetition? flags (c :: rest)
                parts? n flags ((← part.repeat? bounds) :: before) rest
          else do
            let (part, rest) ← primitive? flags (c :: rest)
            parts? n flags (part :: parts) rest

end

def tree? (text : List Char) : Option Tree :=
  match alternatives? (4 * text.length + 4) {} text with
  | some (choices, []) => some (.ofChoices choices)
  | _ => none

def levelLimit : Nat := 250

def Tree.isAcceptable (tree : Tree) : Bool :=
  tree.levels ≤ levelLimit && tree.names.eraseDups.length = tree.names.length &&
    tree.shape.isSmall

def parse? (text : String) : Option Pattern :=
  match tree? text.toList with
  | some tree => if tree.isAcceptable then some tree.pattern else none
  | none => none

end EndpointResolution.Pattern
