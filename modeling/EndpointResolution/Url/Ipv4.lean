import EndpointResolution.Text.Cut

/-!
Addresses of four octets. Their readers take up to four numbers, decimal, octal after `0` or
hexadecimal after `0x`, of which the last fills the octets that are left; they are written as four
decimal numbers.
-/

namespace EndpointResolution

structure Ipv4 where
  address : UInt32
deriving DecidableEq

namespace Ipv4

def digitValue? (radix : Nat) (c : Char) : Option Nat :=
  let value :=
    if c.isDigit then c.toNat - '0'.toNat
    else if 'a' ≤ c ∧ c ≤ 'f' then c.toNat - 'a'.toNat + 10
    else if 'A' ≤ c ∧ c ≤ 'F' then c.toNat - 'A'.toNat + 10
    else radix
  if value < radix then some value else none

def valueIn? (radix : Nat) (digits : List Char) : Option Nat :=
  digits.foldl (fun n? c => n?.bind fun n => (digitValue? radix c).map (radix * n + ·)) (some 0)

/-- A number in its own notation; `0x` alone is zero. -/
def number? : List Char → Option Nat
  | [] => none
  | ['0'] => some 0
  | '0' :: 'x' :: digits | '0' :: 'X' :: digits => valueIn? 16 digits
  | '0' :: digits => valueIn? 8 digits
  | digits => valueIn? 10 digits

/-- The parts between the dots; a final dot opens no further part. -/
def parts (text : List Char) : List (List Char) :=
  let all := text.splitOn '.'
  if all.getLast? = some [] then all.dropLast else all

/-- Whether a host of this text can only be an address. -/
def endsInNumber (text : List Char) : Bool :=
  match (parts text).getLast? with
  | none | some [] => false
  | some last => last.all Char.isDigit || (number? last).isSome

/-- Numbers in front of the last are octets. -/
def assemble? : List Nat → Nat → Option Nat
  | [], _ => none
  | [last], free => if last < 256 ^ free then some last else none
  | octet :: rest, free =>
      if octet < 256 then (assemble? rest (free - 1)).map (octet * 256 ^ (free - 1) + ·) else none

def parse? (text : List Char) : Option Ipv4 := do
  let parts := parts text
  guard (parts.length ≤ 4)
  let numbers ← parts.mapM number?
  let address ← assemble? numbers 4
  return ⟨UInt32.ofNat address⟩

def octets (ip : Ipv4) : List Nat :=
  let n := ip.address.toNat
  [n / 16777216, n / 65536 % 256, n / 256 % 256, n % 256]

def text (ip : Ipv4) : List Char := ['.'].intercalate (ip.octets.map fun n => (Nat.repr n).toList)

end Ipv4

end EndpointResolution
