import EndpointResolution.Url.Ipv6
import EndpointResolution.Url.Label

/-!
Hosts of web addresses: names and the two sorts of numeric addresses. Names are read in ASCII, up
to letter case; international labels come in their encoded form.
-/

namespace EndpointResolution

inductive Host where
  | domain (name : List Char)
  | ipv4 (ip : Ipv4)
  | ipv6 (ip : Ipv6)
deriving DecidableEq

namespace Host

def domain? (text : List Char) : Option (List Char) :=
  let name := text.map Char.toLower
  if text.all (!Label.isForbidden ·) && Label.areAcceptable (name.splitOn '.') then some name
  else none

def parse? (text : List Char) : Option Host :=
  match text with
  | [] => none
  | '[' :: inner =>
      if inner.getLast? = some ']' then (Ipv6.parse? inner.dropLast).map .ipv6 else none
  | text =>
      match domain? text with
      | some name =>
          if Ipv4.endsInNumber name then (Ipv4.parse? name).map .ipv4 else some (.domain name)
      | none => none

def text : Host → List Char
  | .domain name => name
  | .ipv4 ip => ip.text
  | .ipv6 ip => '[' :: ip.text ++ [']']

/-- A name that is spelled like an address counts as one. -/
def isAddress : Host → Bool
  | .domain name => (Ipv6.octetPieces? name).isSome || (Ipv6.parse? name).isSome
  | .ipv4 _ | .ipv6 _ => true

end Host

end EndpointResolution
