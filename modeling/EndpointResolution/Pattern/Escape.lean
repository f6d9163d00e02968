import EndpointResolution.Character.Naming
import EndpointResolution.Pattern.Flags
import EndpointResolution.Text.Cut

/-!
What a backslash introduces in a written pattern. Readers return what they have read and the text
behind it.
-/

namespace EndpointResolution.Pattern

/-- A character that is given by the value of a byte may be none of ASCII only under the flag for
the full repertoire. -/
inductive Escape where
  | char (c : Char) (isByte : Bool)
  | set (set : CharSet)
  | anchor (assertion : Assertion)

namespace Escape

def hexValue? (c : Char) : Option Nat :=
  if c.isDigit then some (c.toNat - '0'.toNat)
  else if 'a' ≤ c ∧ c ≤ 'f' then some (c.toNat - 'a'.toNat + 10)
  else if 'A' ≤ c ∧ c ≤ 'F' then some (c.toNat - 'A'.toNat + 10)
  else none

def codePoint? (digits : List Char) : Option Char :=
  match digits.foldl (fun n? c => n?.bind fun n => (hexValue? c).map (16 * n + ·)) (some 0) with
  | some n => if digits ≠ [] ∧ n.isValidChar then some (Char.ofNat n) else none
  | none => none

/-- So many hexadecimal digits, or any number of them in braces. -/
def code? (flags : Flags) (length : Nat) (text : List Char) : Option (Escape × List Char) :=
  match flags.skip text with
  | '\x7b' :: rest => do
      let (digits, rest) ← flags.braced? false rest
      return (.char (← codePoint? digits) false, rest)
  | text => do
      let (digits, rest) ← flags.take? length text
      return (.char (← codePoint? digits) (length = 2), rest)

/-- The text before and behind an inequality sign. -/
def cutUnequal? : List Char → Option (List Char × List Char)
  | '!' :: '=' :: rest => some ([], rest)
  | c :: rest => (cutUnequal? rest).map fun parts => (c :: parts.1, parts.2)
  | [] => none

/-- The characters with a property, and whether the others are wanted. -/
def property? (query : List Char) : Option (Ranges × Bool) :=
  match cutUnequal? query with
  | some (name, value) => (Character.valued? name value).map (·, true)
  | none =>
      match (Text.cut? ':' query).or (Text.cut? '=' query) with
      | some (name, value) => (Character.valued? name value).map (·, false)
      | none => (Character.named? query).map (·, false)

def query? (flags : Flags) (text : List Char) : Option (List Char × List Char) :=
  match flags.skip text with
  | '\x7b' :: rest => flags.braced? false rest
  | '\\' :: _ | [] => none
  | c :: rest => some ([c], rest)

def propertySet? (flags : Flags) (negated : Bool) (text : List Char) :
    Option (Escape × List Char) := do
  guard (flags.repertoire = .full)
  let (query, rest) ← query? flags text
  let (ranges, unequal) ← property? query
  return (.set (← flags.complementIf? (negated != unequal) (flags.fold (.listed ranges))), rest)

def digits : Repertoire → CharSet
  | .full => .digit
  | .ascii => .range '0' '9'

def letters : CharSet := .union (.range 'a' 'z') (.range 'A' 'Z')

def words : Repertoire → CharSet
  | .full => .word
  | .ascii => .union (.single '_') (.union (.range '0' '9') letters)

def spaces : Repertoire → CharSet
  | .full => .space
  | .ascii => .union (.single ' ') (.range '\t' '\r')

def class? (flags : Flags) (c : Char) : Option CharSet :=
  match c with
  | 'd' => some (digits flags.repertoire)
  | 'w' => some (words flags.repertoire)
  | 's' => some (spaces flags.repertoire)
  | 'D' => flags.complementIf? true (digits flags.repertoire)
  | 'W' => flags.complementIf? true (words flags.repertoire)
  | 'S' => flags.complementIf? true (spaces flags.repertoire)
  | _ => none

def edge? (name : List Char) : Option WordEdge :=
  match String.ofList name with
  | "start" => some .start
  | "end" => some .stop
  | "start-half" => some .startHalf
  | "end-half" => some .stopHalf
  | _ => none

/-- An edge may be named in braces. Braces that begin with anything else are no part of it. -/
def edgeName? (flags : Flags) (text : List Char) : Option (WordEdge × List Char) :=
  match text with
  | '\x7b' :: rest =>
      match flags.skip rest with
      | [] => none
      | c :: _ =>
          if c.isAlpha ∨ c = '-' then do
            let (name, rest) ← flags.braced? false rest
            return (← edge? name, rest)
          else some (.boundary, text)
  | text => some (.boundary, text)

/-- Characters that a backslash takes literally. -/
def isPunctuation (c : Char) : Bool := c.toNat < 128 && !c.isAlphanum && c ≠ '<' && c ≠ '>'

/-- What follows a backslash. -/
def read? (flags : Flags) (text : List Char) : Option (Escape × List Char) :=
  let word (edge : WordEdge) : Escape := .anchor (.word flags.repertoire edge)
  match text with
  | 'x' :: rest => code? flags 2 rest
  | 'u' :: rest => code? flags 4 rest
  | 'U' :: rest => code? flags 8 rest
  | 'p' :: rest => propertySet? flags false rest
  | 'P' :: rest => propertySet? flags true rest
  | 'n' :: rest => some (.char '\n' false, rest)
  | 't' :: rest => some (.char '\t' false, rest)
  | 'r' :: rest => some (.char '\r' false, rest)
  | 'f' :: rest => some (.char '\x0c' false, rest)
  | 'v' :: rest => some (.char '\x0b' false, rest)
  | 'a' :: rest => some (.char '\x07' false, rest)
  | 'A' :: rest => some (.anchor .textStart, rest)
  | 'z' :: rest => some (.anchor .textEnd, rest)
  | 'b' :: rest => (edgeName? flags rest).map fun read => (word read.1, read.2)
  | 'B' :: rest => some (word .interior, rest)
  | '<' :: rest => some (word .start, rest)
  | '>' :: rest => some (word .stop, rest)
  | c :: rest =>
      if isPunctuation c then some (.char c false, rest)
      else (class? flags c).map fun set => (.set set, rest)
  | [] => none

end Escape

end EndpointResolution.Pattern
