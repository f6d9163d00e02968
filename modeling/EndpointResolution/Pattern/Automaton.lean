import Std.Data.HashMap
import EndpointResolution.Pattern.Shape
import EndpointResolution.Text.Utf8

/-!
How large the automata of a pattern are. One reads texts byte by byte from their beginning and the
other one from their end; a pattern is refused if one of them is too large. No automaton is built
here: what counts is how many states it has and how many edges leave them.
-/

namespace EndpointResolution.Pattern

/-- The states so far, and the room that their edges take. -/
structure Automaton where
  states : Nat := 0
  edges : Nat := 0

inductive ReadingOrder where
  | forward
  | backward
deriving DecidableEq

namespace Automaton

def stateSize : Nat := 32

/-- What an edge takes that a byte selects. -/
def edgeSize : Nat := 8

/-- What an edge takes that no byte selects. -/
def branchSize : Nat := 4

def sizeLimit : Nat := 10 * 1024 * 1024

def size (automaton : Automaton) : Nat := stateSize * automaton.states + automaton.edges

/-- With more states and edges, unless that is too much. -/
def add? (automaton : Automaton) (states : Nat) (edges : Nat := 0) : Option Automaton :=
  let larger : Automaton := ⟨automaton.states + states, automaton.edges + edges⟩
  if larger.size ≤ sizeLimit then some larger else none

/-- A table of recent states has a fixed number of slots. What a state is like determines its slot,
and a new state takes the place of an older one. -/
def slot (slots : Nat) (numbers : List Nat) : Nat :=
  (numbers.foldl (fun (code : UInt64) n => (code ^^^ n.toUInt64) * 1099511628211)
    14695981039346656037).toNat % slots

/-- What each state is like, and its number. -/
abbrev Recent (α : Type) := Std.HashMap Nat (α × Nat)

def Recent.find? {α : Type} [DecidableEq α] (recent : Recent α) (slot : Nat) (key : α) :
    Option Nat :=
  match recent.get? slot with
  | some (other, state) => if other = key then some state else none
  | none => none

open Text.Utf8 (Span)

abbrev Edge := Span × Nat

/-- A state on the path of the latest piece: its complete edges, the latest first, and the span that
leads to the next state on the path. -/
structure Open where
  edges : List Edge := []
  last : Option Span := none

def Open.close (state : Open) (next : Nat) : List Edge :=
  match state.last with
  | some span => (span, next) :: state.edges
  | none => state.edges

structure Building where
  automaton : Automaton
  recent : Recent (List Edge) := ∅

def forwardSlots : Nat := 10000

/-- The state with these edges, the latest of which comes first. States that lead to the same states
by the same bytes are one state. -/
def Building.state? (building : Building) (edges : List Edge) : Option (Nat × Building) :=
  let numbers := edges.reverse.flatMap fun edge =>
    [edge.1.first.toNat, edge.1.last.toNat, edge.2]
  let slot := slot forwardSlots numbers
  match building.recent.find? slot edges with
  | some state => some (state, building)
  | none => do
      let state := building.automaton.states
      let automaton ← building.automaton.add? 1 (edgeSize * edges.length)
      return (state, ⟨automaton, building.recent.insert slot (edges, state)⟩)

/-- Completes a path that leads to the target, and gives its first state. -/
def Building.finish? (building : Building) (target : Nat) : List Open → Option (Nat × Building)
  | [] => some (target, building)
  | state :: deeper => do
      let (next, building) ← building.finish? target deeper
      building.state? (state.close next)

/-- The path of the next piece. Pieces come in ascending order, so a state is complete as soon as a
piece leaves its path. -/
def Building.piece? (building : Building) (target : Nat) :
    List Open → List Span → Option (List Open × Building)
  | state :: deeper, span :: spans =>
      if state.last = some span then do
        let (deeper, building) ← building.piece? target deeper spans
        return (state :: deeper, building)
      else do
        let (next, building) ← building.finish? target deeper
        let state : Open := ⟨state.close next, some span⟩
        return (state :: spans.map fun span => { last := some span }, building)
  | path, _ => some (path, building)

def addSetForward? (automaton : Automaton) (pieces : List (List Span)) : Option Automaton := do
  let target := automaton.states
  let building : Building := { automaton := ← automaton.add? 1 }
  let (path, building) ← pieces.foldlM
    (fun (path, building) piece => building.piece? target path piece) ([({} : Open)], building)
  let (_, building) ← building.finish? target path
  return building.automaton

def backwardSlots : Nat := 1000

abbrev Chains := Automaton × Recent (Nat × Span)

def chainLink? (chains : Chains) (next : Nat) (span : Span) : Option (Nat × Chains) :=
  let slot := slot backwardSlots [next, span.first.toNat, span.last.toNat]
  match chains.2.find? slot (next, span) with
  | some state => some (state, chains)
  | none => do
      let automaton ← chains.1.add? 1
      return (chains.1.states, automaton, chains.2.insert slot ((next, span), chains.1.states))

/-- Each piece is a chain from its last byte to its first one; chains may share their ends. -/
def chain? (chains : Chains) (next : Nat) : List Span → Option Chains
  | [] => (chains.1.add? 0 branchSize).map (·, chains.2)
  | span :: spans => do
      let (next, chains) ← chainLink? chains next span
      chain? chains next spans

def addSetBackward? (automaton : Automaton) (pieces : List (List Span)) : Option Automaton := do
  let stop := automaton.states + 1
  let start : Chains := (← automaton.add? 2, ∅)
  let (automaton, _) ← pieces.foldlM (fun chains piece => chain? chains stop piece) start
  return automaton

def isAscii (ranges : Ranges) : Bool := ranges.runs.all (·.2 < 128)

/-- A set of ASCII characters is a single state with an edge for each run. -/
def addSet? (order : ReadingOrder) (automaton : Automaton) (ranges : Ranges) :
    Option Automaton :=
  if isAscii ranges then automaton.add? 2 (edgeSize * ranges.runs.length)
  else
    let pieces := Text.Utf8.ofRanges ranges
    match order with
    | .forward => addSetForward? automaton pieces
    | .backward => addSetBackward? automaton pieces

/-- The edges of a state up to each text that ends there, and those behind the last of these. Texts
share their beginnings. Where a text ends inside of another one, the edges before and after it are
kept apart, because the texts are tried in their order. -/
inductive Trie where
  | node (complete : List (List (UInt8 × Trie))) (current : List (UInt8 × Trie))

namespace Trie

def leaf : Trie := .node [] []

def stop : Trie → Trie
  | .node complete current =>
      if complete ≠ [] && complete.all (·.isEmpty) && current.isEmpty then .node complete current
      else .node (complete ++ [current]) []

def ofBytes : List UInt8 → Trie
  | [] => stop leaf
  | byte :: rest => .node [] [(byte, ofBytes rest)]

def insert (bytes : List UInt8) (trie : Trie) : Trie :=
  match bytes, trie with
  | [], trie => stop trie
  | byte :: rest, .node complete current =>
      match current.lookup byte with
      | some next =>
          .node complete
            (current.map fun edge => if edge.1 = byte then (byte, insert rest next) else edge)
      | none => .node complete ((byte, ofBytes rest) :: current)

def isLeaf : Trie → Bool
  | .node complete current => complete.all (·.isEmpty) && current.isEmpty

mutual

/-- The states of a trie and the room that their edges take. -/
def cost : Trie → Automaton
  | .node complete current =>
      let inner := groupCosts complete
      let last := groupCost current
      ⟨inner.states + last.states + 1, inner.edges + last.edges + branchSize * complete.length⟩

def groupCosts : List (List (UInt8 × Trie)) → Automaton
  | [] => {}
  | group :: rest =>
      let a := groupCost group
      let b := groupCosts rest
      ⟨a.states + b.states, a.edges + b.edges⟩

/-- Edges of one sort leave a state of their own, to which a branch leads. -/
def groupCost : List (UInt8 × Trie) → Automaton
  | [] => {}
  | [(_, next)] =>
      if next.isLeaf then ⟨1, branchSize⟩
      else
        let below := cost next
        ⟨below.states + 1, below.edges + branchSize⟩
  | edges =>
      let below := edgeCosts edges
      ⟨below.states + 1, below.edges + branchSize + edgeSize * edges.length⟩

def edgeCosts : List (UInt8 × Trie) → Automaton
  | [] => {}
  | (_, next) :: rest =>
      let below := edgeCosts rest
      if next.isLeaf then below
      else
        let here := cost next
        ⟨here.states + below.states, here.edges + below.edges⟩

end

end Trie

def utf8 (chars : List Char) : List UInt8 := chars.flatMap String.utf8EncodeChar

def addTexts? (order : ReadingOrder) (automaton : Automaton) (texts : List (List Char)) :
    Option Automaton :=
  let bytes := texts.map fun text =>
    match order with
    | .forward => utf8 text
    | .backward => (utf8 text).reverse
  let cost := (bytes.foldl (fun trie text => trie.insert text) Trie.leaf).cost
  automaton.add? (cost.states + 1) cost.edges

/-- Repeats a step; a step that fails ends the repetition. -/
def times? (step : Automaton → Option Automaton) : Nat → Automaton → Option Automaton
  | 0, automaton => some automaton
  | n + 1, automaton =>
      match step automaton with
      | some automaton => times? step n automaton
      | none => none

def text? : Shape → Option (List Char)
  | .text chars => some chars
  | _ => none

/-- A fixed number of copies; none of them leaves a state that does nothing. -/
def copies? (step : Automaton → Option Automaton) (n : Nat) (automaton : Automaton) :
    Option Automaton :=
  if n = 0 then automaton.add? 1 else times? step n automaton

/-- Repetition of a step that may match the empty text or not. -/
def repeat? (step : Automaton → Option Automaton) (mayBeEmpty : Bool) (automaton : Automaton) :
    Nat → Option Nat → Option Automaton
  | 0, some 1 => do
      let automaton ← step (← automaton.add? 1)
      automaton.add? 1 (2 * branchSize)
  | 0, none =>
      if mayBeEmpty then do
        let automaton ← step automaton
        automaton.add? 3 (4 * branchSize)
      else do
        let automaton ← automaton.add? 1 (2 * branchSize)
        step automaton
  | n + 1, none => do
      let automaton ← times? step (n + 1) automaton
      automaton.add? 1 (2 * branchSize)
  | n, some m =>
      if n = m then copies? step n automaton
      else do
        let automaton ← copies? step n automaton
        let automaton ← automaton.add? 1
        times? (fun automaton => do step (← automaton.add? 1 (2 * branchSize))) (m - n) automaton

mutual

def addShape? (order : ReadingOrder) (automaton : Automaton) : Shape → Option Automaton
  | .empty | .anchor _ => automaton.add? 1
  | .text chars => automaton.add? (utf8 chars).length
  | .set ranges => addSet? order automaton ranges
  | .capture inner =>
      match order with
      | .forward => do
          let automaton ← addShape? order (← automaton.add? 1) inner
          automaton.add? 1
      | .backward => addShape? order automaton inner
  | .sequence parts =>
      match order with
      | .forward => addForward? automaton parts
      | .backward => addBackward? automaton parts
  | .choice parts =>
      match parts.mapM text? with
      | some texts => addTexts? order automaton texts
      | none => addChoice? order automaton 0 parts
  | .repeated shape atLeast atMost =>
      repeat? (fun automaton => addShape? order automaton shape)
        (shape.leastLength?.getD 0 = 0) automaton atLeast atMost

def addForward? (automaton : Automaton) : List Shape → Option Automaton
  | [] => some automaton
  | shape :: rest => do
      let automaton ← addShape? .forward automaton shape
      addForward? automaton rest

def addBackward? (automaton : Automaton) : List Shape → Option Automaton
  | [] => some automaton
  | shape :: rest => do
      let automaton ← addBackward? automaton rest
      addShape? .backward automaton shape

/-- The states where a choice begins and ends come behind the second alternative. -/
def addChoice? (order : ReadingOrder) (automaton : Automaton) (index : Nat) :
    List Shape → Option Automaton
  | [] => some automaton
  | shape :: rest => do
      let automaton ← addShape? order automaton shape
      let automaton ← automaton.add? (if index = 1 then 2 else 0) branchSize
      addChoice? order automaton (index + 1) rest

end

/-- What comes before a pattern that need not match at the beginning of the text to be read. -/
def searchStates (order : ReadingOrder) (shape : Shape) : Automaton :=
  let isTied := match order with
    | .forward => shape.beginsWith .textStart
    | .backward => shape.endsWith .textEnd
  if isTied then ⟨1, 0⟩ else ⟨3, 2 * branchSize + edgeSize⟩

def ofShape? (order : ReadingOrder) (shape : Shape) : Option Automaton := do
  let automaton ← addShape? order (searchStates order shape)
    (match order with
      | .forward => .capture shape
      | .backward => shape)
  automaton.add? 1

end Automaton

/-- Whether the automata in both directions are small enough. -/
def Shape.isSmall (shape : Shape) : Bool :=
  (Automaton.ofShape? .forward shape).isSome && (Automaton.ofShape? .backward shape).isSome

end EndpointResolution.Pattern
