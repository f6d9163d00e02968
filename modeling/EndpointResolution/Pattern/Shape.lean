import EndpointResolution.Pattern.Tree

/-!
The shape of a tree: what is left of it when texts are joined, sequences and choices of one sort are
merged, and what is repeated once or never is replaced by what it amounts to.
-/

namespace EndpointResolution.Pattern

inductive Shape where
  | empty
  | text (chars : List Char)
  | set (ranges : Ranges)
  | anchor (assertion : Assertion)
  | capture (inner : Shape)
  | sequence (parts : List Shape)
  | choice (parts : List Shape)
  | repeated (shape : Shape) (atLeast : Nat) (atMost : Option Nat)

namespace Shape

mutual

/-- Captures are told apart by their places, so none is the same as another one. -/
def same : Shape → Shape → Bool
  | .empty, .empty => true
  | .text a, .text b => a = b
  | .set a, .set b => a = b
  | .anchor a, .anchor b => a = b
  | .sequence a, .sequence b | .choice a, .choice b => sameAll a b
  | .repeated a n m, .repeated b k l => a.same b && n = k && m = l
  | _, _ => false

def sameAll : List Shape → List Shape → Bool
  | [], [] => true
  | a :: as, b :: bs => a.same b && sameAll as bs
  | _, _ => false

end

mutual

/-- Whether it matches nothing but the empty text. -/
def isBlank : Shape → Bool
  | .empty | .anchor _ => true
  | .text _ | .set _ => false
  | .capture inner => inner.isBlank
  | .sequence parts | .choice parts => areBlank parts
  | .repeated shape _ atMost => atMost.any fun most => most = 0 || shape.isBlank

def areBlank : List Shape → Bool
  | [] => true
  | shape :: rest => shape.isBlank && areBlank rest

end

mutual

/-- The length of the shortest text that it matches; nothing if a part of it matches none. -/
def leastLength? : Shape → Option Nat
  | .empty | .anchor _ => some 0
  | .text chars => some chars.length
  | .set ranges => if ranges.runs.isEmpty then none else some 1
  | .capture inner => inner.leastLength?
  | .sequence parts => totalLength? parts
  | .choice parts => shortest? parts
  | .repeated shape atLeast _ => shape.leastLength?.map (· * atLeast)

def totalLength? : List Shape → Option Nat
  | [] => some 0
  | shape :: rest =>
      match shape.leastLength?, totalLength? rest with
      | some n, some m => some (n + m)
      | _, _ => none

def shortest? : List Shape → Option Nat
  | [] => none
  | [shape] => shape.leastLength?
  | shape :: rest =>
      match shape.leastLength?, shortest? rest with
      | some n, some m => some (min n m)
      | _, _ => none

end

mutual

/-- Whether an assertion has to hold where every instance begins. -/
def beginsWith (assertion : Assertion) : Shape → Bool
  | .empty | .text _ | .set _ => false
  | .anchor other => other = assertion
  | .capture inner => inner.beginsWith assertion
  | .sequence parts => sequenceBeginsWith assertion parts
  | .choice parts => allBeginWith assertion parts
  | .repeated shape atLeast _ => atLeast ≠ 0 && shape.beginsWith assertion

def sequenceBeginsWith (assertion : Assertion) : List Shape → Bool
  | [] => false
  | shape :: rest =>
      shape.beginsWith assertion || (shape.isBlank && sequenceBeginsWith assertion rest)

def allBeginWith (assertion : Assertion) : List Shape → Bool
  | [] => true
  | shape :: rest => shape.beginsWith assertion && allBeginWith assertion rest

end

mutual

/-- Whether an assertion has to hold where every instance ends. -/
def endsWith (assertion : Assertion) : Shape → Bool
  | .empty | .text _ | .set _ => false
  | .anchor other => other = assertion
  | .capture inner => inner.endsWith assertion
  | .sequence parts => sequenceEndsWith assertion parts
  | .choice parts => allEndWith assertion parts
  | .repeated shape atLeast _ => atLeast ≠ 0 && shape.endsWith assertion

def sequenceEndsWith (assertion : Assertion) : List Shape → Bool
  | [] => false
  | shape :: rest =>
      sequenceEndsWith assertion rest || (areBlank rest && shape.endsWith assertion)

def allEndWith (assertion : Assertion) : List Shape → Bool
  | [] => true
  | shape :: rest => shape.endsWith assertion && allEndWith assertion rest

end

def ofSet (ranges : Ranges) : Shape :=
  match ranges.runs with
  | [(first, last)] => if first = last then .text [Char.ofNat first] else .set ranges
  | _ => .set ranges

def steps : Shape → List Shape
  | .empty => []
  | .sequence parts => parts
  | shape => [shape]

def joinTexts : List Shape → List Shape
  | [] => []
  | .text chars :: rest =>
      match joinTexts rest with
      | .text more :: rest => .text (chars ++ more) :: rest
      | rest => .text chars :: rest
  | shape :: rest => shape :: joinTexts rest

def ofParts (parts : List Shape) : Shape :=
  match joinTexts (parts.flatMap steps) with
  | [] => .empty
  | [shape] => shape
  | parts => .sequence parts

def alternatives : Shape → List Shape
  | .choice parts => parts
  | shape => [shape]

def letter? : Shape → Option Ranges
  | .text [c] => some ⟨[(c.toNat, c.toNat)]⟩
  | _ => none

def set? : Shape → Option Ranges
  | .set ranges => some ranges
  | _ => none

/-- A choice of characters alone, or of sets alone, is a set. -/
def merged (parts : List Shape) : Shape :=
  match parts with
  | [] => .set .empty
  | [shape] => shape
  | parts =>
      match (parts.mapM letter?).or (parts.mapM set?) with
      | some sets => ofSet (.unions sets)
      | none => .choice parts

def commonLength : List Shape → List Shape → Nat
  | a :: as, b :: bs => if a.same b then commonLength as bs + 1 else 0
  | _, _ => 0

def parts? : Shape → Option (List Shape)
  | .sequence parts => some parts
  | _ => none

/-- The parts with which all alternatives begin stand before the choice. -/
def ofChoices (choices : List Shape) : Shape :=
  let flat := choices.flatMap alternatives
  match merged flat with
  | .choice flat =>
      match flat.mapM parts? with
      | some (first :: others) =>
          let length := others.foldl (fun n parts => min n (commonLength first parts)) first.length
          if length = 0 then .choice flat
          else
            let rests := (first :: others).map fun parts => ofParts (parts.drop length)
            ofParts (first.take length ++ [merged (rests.flatMap alternatives)])
      | _ => .choice flat
  | shape => shape

/-- Repetition adds nothing to a match of the empty text. -/
def repeatIt (shape : Shape) (atLeast : Nat) (atMost : Option Nat) : Shape :=
  let most := if shape.isBlank then some (min (atMost.getD 1) 1) else atMost
  let least := if shape.isBlank then min atLeast 1 else atLeast
  if least = 0 ∧ most = some 0 then .empty
  else if least = 1 ∧ most = some 1 then shape
  else .repeated shape least most

end Shape

mutual

def Tree.shape : Tree → Shape
  | .setting => .empty
  | .char set _ => .ofSet set.toRanges
  | .anchor assertion => .anchor assertion
  | .capture _ inner => .capture inner.shape
  | .group inner => inner.shape
  | .sequence parts => .ofParts (Tree.shapes parts)
  | .choice parts => .ofChoices (Tree.shapes parts)
  | .repeated tree atLeast atMost => tree.shape.repeatIt atLeast atMost

def Tree.shapes : List Tree → List Shape
  | [] => []
  | tree :: rest => tree.shape :: Tree.shapes rest

end

end EndpointResolution.Pattern
