import EndpointResolution.Character.GeneralCategory

/-!
Names that can become part of a host name: labels, and bucket names, which are stricter. Digits of
every script count as digits here, and lengths are in characters.
-/

namespace EndpointResolution

def labelsOf (text : String) : List (List Char) := text.toList.splitOn '.'

namespace HostLabel

def isAlphanumeric (c : Char) : Bool := c.isAlpha || Character.isDecimalDigit c

def isInner (c : Char) : Bool := isAlphanumeric c || c = '-'

/-- One to sixty-three letters, digits and hyphens, of which the first is no hyphen. -/
def isLabel : List Char → Bool
  | [] => false
  | c :: rest => isAlphanumeric c && rest.all isInner && rest.length ≤ 62

def isValid (text : String) (subdomains : Bool) : Bool :=
  if subdomains then (labelsOf text).all isLabel else isLabel text.toList

end HostLabel

namespace Bucket

def isAlphanumeric (c : Char) : Bool := c.isLower || Character.isDecimalDigit c

def isInner (c : Char) : Bool := isAlphanumeric c || c = '-'

/-- Three to sixty-three lower-case letters, digits and hyphens, with no hyphen at either end. -/
def isLabel (label : List Char) : Bool :=
  3 ≤ label.length && label.length ≤ 63 && label.all isInner &&
    label.head?.all isAlphanumeric && label.getLast?.all isAlphanumeric

/-- Four groups of digits look like an address. -/
def isAddressLike (text : String) : Bool :=
  let groups := labelsOf text
  groups.length = 4 && groups.all fun group => group ≠ [] && group.all Character.isDecimalDigit

def isVirtualHostable (text : String) (subdomains : Bool) : Bool :=
  if subdomains then !isAddressLike text && (labelsOf text).all isLabel
  else isLabel text.toList

end Bucket

end EndpointResolution
