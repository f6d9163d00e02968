import EndpointResolution.Character.CaseVariants
import EndpointResolution.Character.Property

/-!
Sets of characters, as patterns name them. A set is either one of the whole repertoire or one of
ASCII alone, which limits the letters that differ in case.
-/

namespace EndpointResolution

inductive Repertoire where
  | full
  | ascii
deriving DecidableEq

inductive CharSet where
  | empty
  | single (c : Char)
  | range (first last : Char)
  | listed (ranges : Ranges)
  | digit
  | word
  | space
  | union (a b : CharSet)
  | complement (a : CharSet)
  | caseless (repertoire : Repertoire) (a : CharSet)
deriving DecidableEq

namespace CharSet

def inter (a b : CharSet) : CharSet := .complement (.union (.complement a) (.complement b))

def difference (a b : CharSet) : CharSet := inter a (.complement b)

def symmetricDifference (a b : CharSet) : CharSet := .union (difference a b) (difference b a)

/-- White space of all scripts. -/
def isSpace (c : Char) : Bool := Property.whiteSpace.contains c.toNat

def asciiVariants (c : Char) : List Char :=
  if c.isLower then [c.toUpper] else if c.isUpper then [c.toLower] else []

/-- The characters that differ from this one in case alone. -/
def variants (c : Char) : Repertoire → List Char
  | .full => (CaseVariants.ofCode c.toNat).map Char.ofNat
  | .ascii => asciiVariants c

def contains : CharSet → Char → Bool
  | .empty, _ => false
  | .single a, c => a = c
  | .range first last, c => first ≤ c && c ≤ last
  | .listed ranges, c => ranges.contains c.toNat
  | .digit, c => Character.isDecimalDigit c
  | .word, c => Character.isWord c
  | .space, c => isSpace c
  | .union a b, c => a.contains c || b.contains c
  | .complement a, c => !a.contains c
  | .caseless repertoire a, c => a.contains c || (variants c repertoire).any a.contains

def asciiLetters : List (Nat × List Nat) :=
  ((List.range 128).map Char.ofNat).map fun c => (c.toNat, (asciiVariants c).map Char.toNat)

/-- Adds what differs in case alone from a member. -/
def closeCase (repertoire : Repertoire) (ranges : Ranges) : Ranges :=
  let letters := match repertoire with
    | .full => CaseVariants.table
    | .ascii => asciiLetters
  let added := letters.filter fun letter => letter.2.any ranges.contains
  ranges.union (.ofRuns (added.map fun letter => (letter.1, letter.1)))

def toRanges : CharSet → Ranges
  | .empty => .empty
  | .single c => ⟨[(c.toNat, c.toNat)]⟩
  | .range first last => (Ranges.complement .empty).inter ⟨[(first.toNat, last.toNat)]⟩
  | .listed ranges => ranges
  | .digit => GeneralCategory.decimalNumbers
  | .word => Character.wordCharacters
  | .space => Property.whiteSpace
  | .union a b => a.toRanges.union b.toRanges
  | .complement a => a.toRanges.complement
  | .caseless repertoire a => closeCase repertoire a.toRanges

end CharSet

end EndpointResolution
