import EndpointResolution.Character.Combining

/-!
The composed form of texts. Characters are taken apart, marks are put in the order of their classes,
and then each mark is joined to the character before it where there is a character for both.
-/

namespace EndpointResolution.Text

def decomposed (text : List Char) : List Char :=
  text.flatMap fun c =>
    if c.toNat < 0xC0 then [c]
    else (Combining.decompose Combining.depth c.toNat).map Char.ofNat

/-- Puts a mark behind those of its class and of lower ones; the latest mark comes first. -/
def insertMark (mark : Char) (cls : Nat) : List Char → List Char
  | [] => [mark]
  | c :: before =>
      if cls < Combining.classOf c then c :: insertMark mark cls before else mark :: c :: before

def addInOrder (reversed : List Char) (c : Char) : List Char :=
  let cls := Combining.classOf c
  if cls = 0 then c :: reversed else insertMark c cls reversed

def ordered (text : List Char) : List Char := (text.foldl addInOrder []).reverse

/-- A mark joins a character across marks of lower classes only, and a character of class 0 joins
its direct neighbour only. -/
def isBlocked (marks : List Char) (c : Char) : Bool :=
  marks.head?.any fun mark => Combining.classOf c ≤ Combining.classOf mark

/-- The composed form behind a character and marks that did not join it, the latest first. -/
def composeFrom (start : Char) (marks : List Char) : List Char → List Char
  | [] => start :: marks.reverse
  | c :: rest =>
      match if isBlocked marks c then none else Combining.compose? start c with
      | some composed => composeFrom composed marks rest
      | none =>
          if Combining.classOf c = 0 then start :: marks.reverse ++ composeFrom c [] rest
          else composeFrom start (c :: marks) rest

def composed (text : List Char) : List Char :=
  match ordered (decomposed text) with
  | [] => []
  | c :: rest => composeFrom c [] rest

def isComposed (text : List Char) : Bool := composed text = text

end EndpointResolution.Text
