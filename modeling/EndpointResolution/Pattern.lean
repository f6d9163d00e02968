import EndpointResolution.Character.CharSet

/-!
Patterns of texts. A pattern matches a text if some piece of the text is an instance of it; anchors
tie the piece to the ends of the text, of a line or of a word.
-/

namespace EndpointResolution

/-- Where a place lies with regard to the words around it; half an edge looks to one side only. -/
inductive WordEdge where
  | boundary
  | interior
  | start
  | stop
  | startHalf
  | stopHalf
deriving DecidableEq

/-- The characters that end lines. -/
inductive LineBreaks where
  | feed
  | feedAndReturn
deriving DecidableEq

/-- What a pattern may say of a place. -/
inductive Assertion where
  | textStart
  | textEnd
  | lineStart (breaks : LineBreaks)
  | lineEnd (breaks : LineBreaks)
  | word (repertoire : Repertoire) (edge : WordEdge)
deriving DecidableEq

inductive Pattern where
  | empty
  | char (set : CharSet)
  | anchor (assertion : Assertion)
  | seq (first second : Pattern)
  | either (first second : Pattern)
  | repeated (pattern : Pattern) (atLeast : Nat) (atMost : Option Nat)
deriving DecidableEq

/-- A place between two characters of a text; the position tells it from the others. -/
structure Place where
  position : Nat
  previous : Option Char
  rest : List Char
deriving DecidableEq

namespace Place

/-- The places from one on that has this position and this character before it. -/
def allFrom (position : Nat) (previous : Option Char) : List Char → List Place
  | [] => [⟨position, previous, []⟩]
  | c :: rest => ⟨position, previous, c :: rest⟩ :: allFrom (position + 1) (some c) rest

def all (text : String) : List Place := allFrom 0 none text.toList

def isIn (place : Place) (places : List Place) : Bool := places.any (·.position = place.position)

def union (places others : List Place) : List Place :=
  places ++ others.filter fun place => !place.isIn places

/-- The next place, behind a character of the set. -/
def advance? (set : CharSet) : Place → Option Place
  | ⟨position, _, c :: rest⟩ =>
      if set.contains c then some ⟨position + 1, some c, rest⟩ else none
  | ⟨_, _, []⟩ => none

end Place

def Repertoire.isWord (repertoire : Repertoire) (c : Char) : Bool :=
  match repertoire with
  | .full => Character.isWord c
  | .ascii => c.toNat < 128 && Character.isWord c

/-- The sides of a place that belong to words. -/
def WordEdge.holds (before after : Bool) : WordEdge → Bool
  | .boundary => before != after
  | .interior => before == after
  | .start => !before && after
  | .stop => before && !after
  | .startHalf => !before
  | .stopHalf => !after

/-- A return and the feed behind it end one line. -/
def LineBreaks.startsAt (place : Place) : LineBreaks → Bool
  | .feed => place.previous.all (· = '\n')
  | .feedAndReturn =>
      place.previous.all (· = '\n') ||
        (place.previous = some '\r' && place.rest.head? ≠ some '\n')

def LineBreaks.endsAt (place : Place) : LineBreaks → Bool
  | .feed => place.rest.head?.all (· = '\n')
  | .feedAndReturn =>
      place.rest.head?.all (· = '\r') ||
        (place.rest.head? = some '\n' && place.previous ≠ some '\r')

def Assertion.holdsAt (place : Place) : Assertion → Bool
  | .textStart => place.previous.isNone
  | .textEnd => place.rest.isEmpty
  | .lineStart breaks => breaks.startsAt place
  | .lineEnd breaks => breaks.endsAt place
  | .word repertoire edge =>
      edge.holds (place.previous.any repertoire.isWord) (place.rest.head?.any repertoire.isWord)

namespace Pattern

/-- The places after exactly so many steps. Places that a step leaves as they are stay for good. -/
def exactly (step : List Place → List Place) : Nat → List Place → List Place
  | 0, places => places
  | n + 1, places =>
      let next := step places
      if next = places then places else exactly step n next

/-- The places after up to so many steps, from those reached so far and the latest of them. -/
def within (step : List Place → List Place) : Nat → List Place → List Place → List Place
  | 0, reached, _ => reached
  | _ + 1, reached, [] => reached
  | n + 1, reached, latest =>
      let new := (step latest).filter fun place => !place.isIn reached
      within step n (new ++ reached) new

/-- A step that leads to a new place passes a character, so as many steps as there are characters
left reach all that any number of steps reaches. -/
def longest (places : List Place) : Nat :=
  places.foldl (fun n place => max n place.rest.length) 0

/-- The places behind the instances that begin at one of these. -/
def ends : Pattern → List Place → List Place
  | .empty, places => places
  | .char set, places => places.filterMap (Place.advance? set)
  | .anchor assertion, places => places.filter assertion.holdsAt
  | .seq first second, places => second.ends (first.ends places)
  | .either first second, places => Place.union (first.ends places) (second.ends places)
  | .repeated pattern atLeast atMost, places =>
      let start := exactly pattern.ends atLeast places
      let more := match atMost with
        | some limit => limit - atLeast
        | none => longest start
      within pattern.ends more start start

def occursIn (pattern : Pattern) (text : String) : Bool := !(pattern.ends (Place.all text)).isEmpty

def textStart : Pattern := .anchor .textStart

def textEnd : Pattern := .anchor .textEnd

def literal (c : Char) : Pattern := .char (.single c)

def sequence (patterns : List Pattern) : Pattern := patterns.foldr .seq .empty

def text (chars : String) : Pattern := sequence (chars.toList.map literal)

def oneOf : List Pattern → Pattern
  | [] => .char .empty
  | [pattern] => pattern
  | pattern :: rest => .either pattern (oneOf rest)

def many1 (set : CharSet) : Pattern := .repeated (.char set) 1 none

end Pattern

end EndpointResolution
