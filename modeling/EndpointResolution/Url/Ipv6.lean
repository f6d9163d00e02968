import EndpointResolution.Url.Ipv4

/-!
Addresses of eight pieces of sixteen bits. In their text, two colons stand once for one or more
pieces of zero, and the last two pieces may be given as four octets. They are written in lower-case
hexadecimal, with the first of the longest runs of two or more zeros left out.
-/

namespace EndpointResolution

structure Ipv6 where
  pieces : List Nat
deriving DecidableEq

namespace Ipv6

def piece? (text : List Char) : Option Nat :=
  if text = [] ∨ 4 < text.length then none else Ipv4.valueIn? 16 text

/-- An octet in decimal, without leading zeros. -/
def octet? (text : List Char) : Option Nat :=
  if text ≠ [] ∧ text.all Char.isDigit ∧ (text.head? = some '0' → text.length = 1) ∧
      Text.digitsValue text < 256 then
    some (Text.digitsValue text)
  else none

def octetPieces? (text : List Char) : Option (List Nat) :=
  match (text.splitOn '.').mapM octet? with
  | some [a, b, c, d] => some [256 * a + b, 256 * c + d]
  | _ => none

/-- Pieces separated by colons, where the last part may hold octets. -/
def pieceList? (octetsAllowed : Bool) : List (List Char) → Option (List Nat)
  | [] => some []
  | [last] =>
      if octetsAllowed && last.contains '.' then octetPieces? last else (piece? last).map ([·])
  | part :: rest =>
      match piece? part, pieceList? octetsAllowed rest with
      | some piece, some more => some (piece :: more)
      | _, _ => none

def side? (octetsAllowed : Bool) (text : List Char) : Option (List Nat) :=
  if text = [] then some [] else pieceList? octetsAllowed (text.splitOn ':')

/-- The texts on both sides of the first two colons in a row. -/
def cutGap? : List Char → Option (List Char × List Char)
  | ':' :: ':' :: rest => some ([], rest)
  | c :: rest => (cutGap? rest).map fun sides => (c :: sides.1, sides.2)
  | [] => none

def parse? (text : List Char) : Option Ipv6 :=
  match cutGap? text with
  | some (before, after) =>
      match side? false before, side? true after with
      | some left, some right =>
          if left.length + right.length < 8 then
            some ⟨left ++ List.replicate (8 - left.length - right.length) 0 ++ right⟩
          else none
      | _, _ => none
  | none =>
      match side? true text with
      | some pieces => if pieces.length = 8 then some ⟨pieces⟩ else none
      | none => none

def hexText (n : Nat) : List Char := Nat.toDigits 16 n

def zeroRun (pieces : List Nat) : Nat := (pieces.takeWhile (· = 0)).length

/-- The longest run of zeros. -/
def longestRun : List Nat → Nat
  | [] => 0
  | pieces@(_ :: rest) => max (zeroRun pieces) (longestRun rest)

/-- The pieces before the first run of that many zeros and those after it. -/
def cutRun (run : Nat) : List Nat → List Nat × List Nat
  | [] => ([], [])
  | pieces@(piece :: rest) =>
      if zeroRun pieces = run then ([], pieces.drop run)
      else let sides := cutRun run rest; (piece :: sides.1, sides.2)

def joined (pieces : List Nat) : List Char := [':'].intercalate (pieces.map hexText)

def text (ip : Ipv6) : List Char :=
  let run := longestRun ip.pieces
  if run < 2 then joined ip.pieces
  else let sides := cutRun run ip.pieces; joined sides.1 ++ [':', ':'] ++ joined sides.2

end Ipv6

end EndpointResolution
