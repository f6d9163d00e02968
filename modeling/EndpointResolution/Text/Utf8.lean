import EndpointResolution.Character.Ranges

/-!
Texts as bytes in UTF-8. A run of code points is cut where the number of bytes changes and where a
later byte does not take all its values, so that each piece is the product of one run of values per
byte. Percent-encoding writes a text byte by byte.
-/

namespace EndpointResolution.Text.Utf8

/-- The values of one byte, ends included. -/
structure Span where
  first : UInt8
  last : UInt8
deriving DecidableEq

/-- The last codes of one, two and three bytes. -/
def lengthBounds : List Nat := [0x7F, 0x7FF, 0xFFFF]

/-- Numbers of codes that share all but their last one, two and three bytes. -/
def blocks : List Nat := [64, 4096, 262144]

/-- Where a run is cut so that it fills blocks of this size, unless it is inside of one. -/
def blockCut? (first last block : Nat) : Option Nat :=
  if first / block = last / block then none
  else if first % block ≠ 0 then some (first - first % block + block - 1)
  else if last % block ≠ block - 1 then some (last - last % block - 1)
  else none

/-- The last code before a cut. -/
def cut? (first last : Nat) : Option Nat :=
  match lengthBounds.find? fun bound => first ≤ bound && bound < last with
  | some bound => some bound
  | none => if last < 128 then none else blocks.findSome? (blockCut? first last)

def spans (first last : Nat) : List Span :=
  List.zipWith Span.mk (String.utf8EncodeChar (Char.ofNat first))
    (String.utf8EncodeChar (Char.ofNat last))

/-- The pieces of a run in ascending order. -/
def pieces (first last : Nat) : List (List Span) :=
  match cut? first last with
  | some cut =>
      if _h : first ≤ cut ∧ cut < last then pieces first cut ++ pieces (cut + 1) last
      else [spans first last]
  | none => [spans first last]
termination_by last - first
decreasing_by all_goals omega

def ofRanges (ranges : Ranges) : List (List Span) :=
  ranges.runs.flatMap fun run => pieces run.1 run.2

end EndpointResolution.Text.Utf8

namespace EndpointResolution.Percent

def isUnreserved (c : Char) : Bool := c.isAlphanum || c = '-' || c = '_' || c = '.' || c = '~'

def hexDigit (n : Nat) : Char :=
  if n < 10 then Char.ofNat ('0'.toNat + n) else Char.ofNat ('A'.toNat + (n - 10))

def encodeByte (byte : UInt8) : List Char :=
  let c := Char.ofNat byte.toNat
  if isUnreserved c then [c]
  else ['%', hexDigit (byte.toNat / 16), hexDigit (byte.toNat % 16)]

/-- The bytes of a text in UTF-8. -/
def bytes (text : String) : List UInt8 := text.toUTF8.data.toList

/-- Unreserved characters stand for themselves; every other byte is written as a percent sign and
two upper-case hexadecimal digits. -/
def encode (text : String) : String := String.ofList ((bytes text).flatMap encodeByte)

end EndpointResolution.Percent
