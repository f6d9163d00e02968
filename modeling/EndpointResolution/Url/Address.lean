import EndpointResolution.Url
import EndpointResolution.Value

/-!
Service addresses: web addresses without query and fragment whose text spells scheme, authority and
path out. Path and authority are kept as they are written.
-/

namespace EndpointResolution

structure Address where
  scheme : Url.Scheme
  authority : List Char
  path : List Char
  isIp : Bool
deriving DecidableEq

namespace Address

/-- The host is spelled as it would be written, up to letter case, and a port may follow it. -/
def spellsHost (authority : List Char) (host : Host) : Bool :=
  let hostPort := Text.afterLast '@' authority
  let spelled := hostPort.take host.text.length
  let rest := hostPort.drop host.text.length
  spelled.map Char.toLower = host.text.map Char.toLower && (rest.head?.all (· = ':'))

def ofUrl? (url : Url) (text : List Char) : Option Address := do
  guard (url.query = none ∧ url.fragment = none)
  let scheme ← Url.Scheme.ofText? url.scheme
  let behind ← Text.dropBytes? scheme.text.length text
  guard (behind.take 3 = [':', '/', '/'])
  let rest := behind.drop 3
  guard ('\\' ∉ rest)
  let authority := rest.takeWhile (· ≠ '/')
  let host ← url.host
  guard (spellsHost authority host)
  return ⟨scheme, authority, rest.dropWhile (· ≠ '/'), host.isAddress⟩

/-- The address that a text is, by what a reader of web addresses makes of it. -/
def parseWith? (read : String → Option Url) (text : String) : Option Address := do
  ofUrl? (← read text) text.toList

def parse? (text : String) : Option Address := parseWith? Url.parse? text

/-- The path with a slash at either end. -/
def normalizedPath (address : Address) : List Char :=
  let rooted := if address.path.head? = some '/' then address.path else '/' :: address.path
  if rooted.getLast? = some '/' then rooted else rooted ++ ['/']

def toValue (address : Address) : Value :=
  .ofFields
    [("scheme", .string (String.ofList address.scheme.text)),
      ("authority", .string (String.ofList address.authority)),
      ("path", .string (String.ofList address.path)),
      ("normalizedPath", .string (String.ofList address.normalizedPath)),
      ("isIp", .boolean address.isIp)]

end Address

end EndpointResolution
