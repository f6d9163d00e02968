import EndpointResolution.Json
import EndpointResolution.Text.Cut

/-!
Reading of JSON text. Readers return what they have read and the text behind it. Arrays and objects
nested too deep, texts with half a surrogate pair and numbers out of floating-point range are well
spelled but unreadable.
-/

namespace EndpointResolution.Json

def nestingLimit : Nat := 127

def isSpace (c : Char) : Bool := c = ' ' || c = '\t' || c = '\n' || c = '\r'

def skipSpace (text : List Char) : List Char := text.dropWhile isSpace

/-- Whole units of a power of ten. A number keeps as many leading digits as 64 bits take. -/
structure Scaled where
  units : Nat
  exponent : Int

/-- The leading digits that fit behind the units, and how many further ones there are. -/
def fitting (units : Nat) : List Char → Nat × Nat
  | [] => (units, 0)
  | c :: rest =>
      let next := 10 * units + (c.toNat - '0'.toNat)
      if next < 2 ^ 64 then fitting next rest else (units, rest.length + 1)

/-- Whole digits that do not fit shift the point; those of the fraction are dropped. -/
def Scaled.ofDigits (whole fraction : List Char) (exponent : Int) : Scaled :=
  let (units, dropped) := fitting 0 whole
  let (units, ignored) := fitting units fraction
  ⟨units, exponent + dropped - (fraction.length - ignored : Nat)⟩

/-- The nearest number of 53 binary digits, of two equally near ones the even one. -/
def roundBinary (n : Nat) : Nat :=
  let unit := Nat.pow 2 (Nat.log2 n - 52)
  let quotient := n / unit
  let twice := 2 * (n % unit)
  if twice > unit ∨ (twice = unit ∧ quotient % 2 = 1) then (quotient + 1) * unit
  else quotient * unit

/-- The least magnitude that rounds to infinity in double precision. -/
def magnitudeBound : Nat := (Nat.pow 2 54 - 1) * Nat.pow 2 970

def largestPower : Int := 308

/-- Whether the product of the units and the power, each of them rounded, is in range. Small powers
are divisors, which lead to no large number. -/
def Scaled.inRange (number : Scaled) : Bool :=
  if number.units = 0 ∨ number.exponent < 0 then true
  else if largestPower < number.exponent then false
  else roundBinary number.units * roundBinary (Nat.pow 10 number.exponent.toNat) < magnitudeBound

def digits (text : List Char) : List Char × List Char :=
  (text.takeWhile Char.isDigit, text.dropWhile Char.isDigit)

/-- Digits without leading zeros. -/
def whole? (text : List Char) : Option (List Char × List Char) :=
  match text with
  | '0' :: rest => some (['0'], rest)
  | _ => if (digits text).1 = [] then none else some (digits text)

def fraction? : List Char → Option (List Char × List Char)
  | '.' :: rest => if (digits rest).1 = [] then none else some (digits rest)
  | rest => some ([], rest)

def exponentDigits? (negative : Bool) (text : List Char) : Option (Int × List Char) :=
  if (digits text).1 = [] then none
  else
    let n : Int := Text.digitsValue (digits text).1
    some (if negative then -n else n, (digits text).2)

def exponent? : List Char → Option (Option Int × List Char)
  | c :: rest =>
      if c = 'e' ∨ c = 'E' then
        let read := match rest with
          | '-' :: rest => exponentDigits? true rest
          | '+' :: rest => exponentDigits? false rest
          | rest => exponentDigits? false rest
        read.map fun read => (some read.1, read.2)
      else some (none, c :: rest)
  | [] => some (none, [])

def ofNumber (negative : Bool) (whole fraction : List Char) (exponent : Option Int)
    (written : List Char) : Json :=
  let mantissa := Text.digitsValue (whole ++ fraction)
  if !(Scaled.ofDigits whole fraction (exponent.getD 0)).inRange then .unreadable
  else if fraction = [] ∧ exponent = none ∧ ¬ (negative ∧ mantissa = 0) then
    .integer (if negative then -mantissa else mantissa)
  else .decimal (String.ofList written)

def number? (text : List Char) : Option (Json × List Char) := do
  let (negative, unsigned) := match text with
    | '-' :: rest => (true, rest)
    | rest => (false, rest)
  let (whole, rest) ← whole? unsigned
  let (fraction, rest) ← fraction? rest
  let (exponent, rest) ← exponent? rest
  return (ofNumber negative whole fraction exponent (text.take (text.length - rest.length)), rest)

/-- A character, or a unit of UTF-16 given by its code. -/
inductive Item where
  | char (c : Char)
  | unit (code : Nat)

def hexValue? (c : Char) : Option Nat :=
  if c.isDigit then some (c.toNat - '0'.toNat)
  else if 'a' ≤ c ∧ c ≤ 'f' then some (c.toNat - 'a'.toNat + 10)
  else if 'A' ≤ c ∧ c ≤ 'F' then some (c.toNat - 'A'.toNat + 10)
  else none

def unit? (a b c d : Char) : Option Item := do
  return .unit (4096 * (← hexValue? a) + 256 * (← hexValue? b) + 16 * (← hexValue? c)
    + (← hexValue? d))

def escape? : Char → Option Item
  | '"' => some (.char '"')
  | '\\' => some (.char '\\')
  | '/' => some (.char '/')
  | 'b' => some (.char '\x08')
  | 'f' => some (.char '\x0c')
  | 'n' => some (.char '\n')
  | 'r' => some (.char '\r')
  | 't' => some (.char '\t')
  | _ => none

/-- The contents of a string behind its opening quote. -/
def items? : List Char → Option (List Item × List Char)
  | [] => none
  | '"' :: rest => some ([], rest)
  | '\\' :: 'u' :: a :: b :: c :: d :: rest =>
      match unit? a b c d, items? rest with
      | some item, some (items, rest) => some (item :: items, rest)
      | _, _ => none
  | '\\' :: c :: rest =>
      match escape? c, items? rest with
      | some item, some (items, rest) => some (item :: items, rest)
      | _, _ => none
  | c :: rest =>
      if c.toNat < 0x20 ∨ c = '\\' then none
      else (items? rest).map fun read => (.char c :: read.1, read.2)

/-- Two units may make up one character; no other half of a pair is text. -/
def decode? : List Item → Option (List Char)
  | [] => some []
  | .char c :: rest => (decode? rest).map (c :: ·)
  | .unit high :: .unit low :: rest =>
      if 0xD800 ≤ high ∧ high < 0xDC00 ∧ 0xDC00 ≤ low ∧ low < 0xE000 then
        (decode? rest).map
          (Char.ofNat (0x10000 + 1024 * (high - 0xD800) + (low - 0xDC00)) :: ·)
      else if high.isValidChar then (decode? (.unit low :: rest)).map (Char.ofNat high :: ·)
      else none
  | .unit code :: rest =>
      if code.isValidChar then (decode? rest).map (Char.ofNat code :: ·) else none

/-- Without a value if the string is no text. -/
def string?? (text : List Char) : Option (Option String × List Char) :=
  (items? text).map fun read => ((decode? read.1).map String.ofList, read.2)

/-- Unreadable if a name is. -/
def ofMembers (members : List (Option String × Json)) : Json :=
  match members.mapM fun member => member.1.map fun name => (name, member.2) with
  | some members => .object members
  | none => .unreadable

def expect? (c : Char) : List Char → Option (List Char)
  | d :: rest => if c = d then some rest else none
  | [] => none

def expectWord? : List Char → List Char → Option (List Char)
  | [], rest => some rest
  | c :: word, text => (expect? c text).bind (expectWord? word)

def nested (levels : Nat) (json : Json) : Json := if levels = 0 then .unreadable else json

mutual

/-- The value at the beginning of a text that may nest so many levels. Every step spends one unit of
fuel, and no more steps are taken than there are characters. -/
def value? : Nat → Nat → List Char → Option (Json × List Char)
  | 0, _, _ => none
  | fuel + 1, levels, text =>
      match text with
      | '"' :: rest => (string?? rest).map fun read => (read.1.elim .unreadable .string, read.2)
      | '[' :: rest =>
          match skipSpace rest with
          | ']' :: rest => some (nested levels (.array []), rest)
          | rest => do
              let (items, rest) ← elements? fuel (levels - 1) rest
              return (nested levels (.array items), rest)
      | '\x7b' :: rest =>
          match skipSpace rest with
          | '\x7d' :: rest => some (nested levels (.object []), rest)
          | rest => do
              let (members, rest) ← pairs? fuel (levels - 1) rest
              return (nested levels (ofMembers members), rest)
      | 'n' :: rest => (expectWord? ['u', 'l', 'l'] rest).map (.null, ·)
      | 't' :: rest => (expectWord? ['r', 'u', 'e'] rest).map (.boolean true, ·)
      | 'f' :: rest => (expectWord? ['a', 'l', 's', 'e'] rest).map (.boolean false, ·)
      | text => number? text

/-- One or more values up to a closing bracket. -/
def elements? : Nat → Nat → List Char → Option (List Json × List Char)
  | 0, _, _ => none
  | fuel + 1, levels, text => do
      let (item, rest) ← value? fuel levels text
      match skipSpace rest with
      | ',' :: rest =>
          let (items, rest) ← elements? fuel levels (skipSpace rest)
          return (item :: items, rest)
      | ']' :: rest => return ([item], rest)
      | _ => none

/-- One or more members up to a closing brace. -/
def pairs? : Nat → Nat → List Char → Option (List (Option String × Json) × List Char)
  | 0, _, _ => none
  | fuel + 1, levels, text => do
      let (name, rest) ← string?? (← expect? '"' text)
      let rest ← expect? ':' (skipSpace rest)
      let (value, rest) ← value? fuel levels (skipSpace rest)
      match skipSpace rest with
      | ',' :: rest =>
          let (members, rest) ← pairs? fuel levels (skipSpace rest)
          return ((name, value) :: members, rest)
      | '\x7d' :: rest => return ([(name, value)], rest)
      | _ => none

end

/-- A text holds one value with nothing but space around it. -/
def parse? (text : String) : Option Json :=
  let chars := text.toList
  match value? (2 * chars.length + 2) nestingLimit (skipSpace chars) with
  | some (json, rest) => if skipSpace rest = [] then some json else none
  | none => none

end EndpointResolution.Json
