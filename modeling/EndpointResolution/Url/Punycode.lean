/-!
The letters and digits that stand for international text in a host label. The part before the last
hyphen is taken as it is; the rest is a run of numbers, each of which says which character comes
next and where it goes.
-/

namespace EndpointResolution.Punycode

def digitValue? (c : Char) : Option Nat :=
  if c.isLower then some (c.toNat - 'a'.toNat)
  else if c.isDigit then some (c.toNat - '0'.toNat + 26)
  else none

/-- Digits below the threshold end a number. -/
def threshold (position bias : Nat) : Nat := min (max (position - bias) 1) 26

def shrink (delta steps : Nat) : Nat :=
  if 455 < delta then shrink (delta / 35) (steps + 36) else steps + 36 * delta / (delta + 38)
termination_by delta
decreasing_by omega

/-- The bias for the next number, from the distance that the last one covered. -/
def adapt (distance count : Nat) (first : Bool) : Nat :=
  let delta := if first then distance / 700 else distance / 2
  shrink (delta + delta / count) 0

/-- The characters so far, the next character code and place, and the number being read. -/
structure State where
  output : List Char
  code : Nat := 128
  place : Nat := 0
  bias : Nat := 72
  start : Nat := 0
  weight : Nat := 1
  position : Nat := 36

def State.insert? (s : State) (place : Nat) : Option State :=
  let count := s.output.length + 1
  let code := s.code + place / count
  if code.isValidChar then
    some {
      output := s.output.take (place % count) ++ Char.ofNat code :: s.output.drop (place % count)
      code
      place := place % count + 1
      bias := adapt (place - s.start) count (s.start = 0)
      start := place % count + 1 }
  else none

def State.digit? (s : State) (digit : Nat) : Option State :=
  let place := s.place + digit * s.weight
  let limit := threshold s.position s.bias
  if digit < limit then s.insert? place
  else some { s with place, weight := s.weight * (36 - limit), position := s.position + 36 }

def numbers? (s : State) : List Char → Option State
  | [] => if s.position = 36 then some s else none
  | c :: rest =>
      match digitValue? c with
      | some digit => (s.digit? digit).bind (numbers? · rest)
      | none => none

/-- The text before the last hyphen and the digits after it. -/
def sections (label : List Char) : List Char × List Char :=
  let digits := (label.reverse.takeWhile (· ≠ '-')).reverse
  ((label.take (label.length - digits.length)).dropLast, digits)

def decode? (label : List Char) : Option (List Char) :=
  (numbers? { output := (sections label).1 } (sections label).2).map (·.output)

end EndpointResolution.Punycode
