import EndpointResolution.Character.Direction
import EndpointResolution.Character.HostName
import EndpointResolution.Character.Joining
import EndpointResolution.Text.Composed
import EndpointResolution.Url.Punycode

/-!
Labels of host names. An encoded label stands for international text, which has to be in composed
form and to keep the rules for joiners; where a name holds letters from right to left, all of its
labels have to keep the rules for directions.
-/

namespace EndpointResolution.Label

/-- Characters that no name holds. A percent sign would introduce an encoded character. -/
def isForbidden (c : Char) : Bool :=
  c.toNat ≤ 0x20 || 0x7F ≤ c.toNat ||
    ['#', '%', '/', ':', '<', '>', '?', '@', '[', '\\', ']', '^', '|'].contains c

def isPermitted (c : Char) : Bool := !isForbidden c || Character.isHostName c

def nonJoiner : Char := '\u200c'

def joiner : Char := '\u200d'

/-- Whether the next character that joins at all joins in one of these ways. -/
def reaches (ways : List Joining) : List Char → Bool
  | [] => false
  | c :: rest =>
      if ways.contains (.ofChar c) then true
      else if Joining.ofChar c = .transparent then reaches ways rest
      else false

/-- A joiner follows a silenced vowel, or else keeps apart letters that would join. The characters
before it are given in reverse. -/
def mayJoin (before : List Char) (c : Char) (rest : List Char) : Bool :=
  before.head?.any Combining.isVirama ||
    (c = nonJoiner && reaches [.left, .dual] before && reaches [.right, .dual] rest)

def keepsJoinerRules (before : List Char) : List Char → Bool
  | [] => true
  | c :: rest =>
      (if c = joiner ∨ c = nonJoiner then mayJoin before c rest else true) &&
        keepsJoinerRules (c :: before) rest

def hasRightToLeft (text : List Char) : Bool :=
  text.any fun c => [Direction.right, .arabicNumber].contains (.ofChar c)

/-- The direction of the last character that is no mark. -/
def lastDirection? (directions : List Direction) : Option Direction :=
  directions.reverse.find? (· ≠ .nonspacing)

/-- A label goes in the direction of its first character, which is a letter, and ends in a letter or
a digit. From right to left, digits are of one sort. -/
def keepsDirectionRules (text : List Char) : Bool :=
  let directions := text.map Direction.ofChar
  let isAmong (allowed : List Direction) : Bool := (lastDirection? directions).any allowed.contains
  match directions with
  | [] => true
  | .left :: _ =>
      directions.all (fun d => d ≠ .right && d ≠ .arabicNumber) && isAmong [.left, .europeanNumber]
  | .right :: _ =>
      directions.all (· ≠ .left) && isAmong [.right, .europeanNumber, .arabicNumber] &&
        !(directions.contains .europeanNumber && directions.contains .arabicNumber)
  | _ => false

def encodedLimit : Nat := 2000

def lengthLimit : Nat := 1000

/-- International text is not all ASCII and begins with no mark. -/
def isInternational (text : List Char) : Bool :=
  text.length ≤ lengthLimit && text.any (128 ≤ ·.toNat) && text.all isPermitted &&
    text.head?.all (fun c => !Character.isMark c) && keepsJoinerRules [] text &&
    Text.isComposed text

/-- The text that a label stands for. -/
def decode? (label : List Char) : Option (List Char) :=
  match label with
  | 'x' :: 'n' :: '-' :: '-' :: rest =>
      if rest.length ≤ encodedLimit then
        match Punycode.decode? rest with
        | some text => if isInternational text then some text else none
        | none => none
      else none
  | label => some label

def areAcceptable (labels : List (List Char)) : Bool :=
  match labels.mapM decode? with
  | some texts => !texts.any hasRightToLeft || texts.all keepsDirectionRules
  | none => false

end EndpointResolution.Label
