/-!
Sets of characters as runs of code points, ends included, in ascending order. Two runs of a set
neither meet nor touch, and none holds a surrogate.
-/

namespace EndpointResolution

structure Ranges where
  runs : List (Nat × Nat)
deriving DecidableEq, Inhabited

namespace Ranges

def empty : Ranges := ⟨[]⟩

def contains (ranges : Ranges) (code : Nat) : Bool :=
  ranges.runs.any fun run => run.1 ≤ code && code ≤ run.2

/-- Joins what meets or touches, in runs ordered by their beginnings. -/
def join : List (Nat × Nat) → List (Nat × Nat)
  | [] => []
  | run :: rest => go run rest
where
  go (run : Nat × Nat) : List (Nat × Nat) → List (Nat × Nat)
    | [] => [run]
    | next :: rest =>
        if next.1 ≤ run.2 + 1 then go (run.1, max run.2 next.2) rest else run :: go next rest

def ofRuns (runs : List (Nat × Nat)) : Ranges := ⟨join (runs.mergeSort fun a b => a.1 ≤ b.1)⟩

def union (a b : Ranges) : Ranges := ofRuns (a.runs ++ b.runs)

def unions (sets : List Ranges) : Ranges := ofRuns (sets.flatMap (·.runs))

/-- The runs between these, from one code point on to the last one there is. -/
def gaps (start : Nat) : List (Nat × Nat) → List (Nat × Nat)
  | [] => if start ≤ 0x10FFFF then [(start, 0x10FFFF)] else []
  | run :: rest =>
      if start < run.1 then (start, run.1 - 1) :: gaps (run.2 + 1) rest else gaps (run.2 + 1) rest

def surrogates : Nat × Nat := (0xD800, 0xDFFF)

def complement (a : Ranges) : Ranges := ⟨gaps 0 (ofRuns (surrogates :: a.runs)).runs⟩

def inter (a b : Ranges) : Ranges := complement (union (complement a) (complement b))

def diff (a b : Ranges) : Ranges := complement (union (complement a) b)

def hexDigit (c : Char) : Nat := if c.isDigit then c.toNat - '0'.toNat else c.toNat - 'A'.toNat + 10

/-- The runs read, the latest first; where the present run begins and how its members are spaced;
and the code being read. -/
structure Reading where
  runs : List (Nat × Nat) := []
  first : Option (Nat × Nat) := none
  code : Option Nat := none

def Reading.close (reading : Reading) : Reading :=
  match reading.first, reading.code with
  | some (first, 1), some last => { runs := (first, last) :: reading.runs }
  | some (first, step), some last =>
      let codes := (List.range ((last - first) / step + 1)).map (first + step * ·)
      { runs := (codes.map fun code => (code, code)).reverse ++ reading.runs }
  | none, some code => { runs := (code, code) :: reading.runs }
  | _, none => { runs := reading.runs }

def Reading.next (reading : Reading) (c : Char) : Reading :=
  match c with
  | ' ' | '\n' => reading.close
  | '-' => { reading with first := reading.code.map (·, 1), code := none }
  | '~' => { reading with first := reading.code.map (·, 2), code := none }
  | c => { reading with code := some (16 * reading.code.getD 0 + hexDigit c) }

/-- The runs as they are written. Codes are hexadecimal; `41-5A` is a run, and `100~12E` is every
second code point from the one to the other. -/
def runsOf (chars : List Char) : List (Nat × Nat) :=
  (chars.foldl Reading.next {}).close.runs.reverse

def ofText (text : String) : Ranges := ofRuns (runsOf text.toList)

/-- Runs that are written in order are only joined. -/
theorem ofText_ofList {chars : List Char}
    (ordered : (runsOf chars).Pairwise fun a b => a.1 ≤ b.1) :
    ofText (String.ofList chars) = ⟨join (runsOf chars)⟩ := by
  rw [ofText, String.toList_ofList, ofRuns, List.mergeSort_of_pairwise]
  simpa using ordered

theorem contains_ofText_ofList {chars : List Char} {code : Nat}
    (ordered : (runsOf chars).Pairwise fun a b => a.1 ≤ b.1)
    (member : contains ⟨join (runsOf chars)⟩ code = true) :
    (ofText (String.ofList chars)).contains code = true := by
  rw [ofText_ofList ordered, member]

end Ranges

end EndpointResolution
