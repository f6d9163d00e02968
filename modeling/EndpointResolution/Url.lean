import EndpointResolution.Text.Cut
import EndpointResolution.Url.Host

/-!
Absolute web addresses, and a reader of those that begin with `http` and `https`. It keeps the rules
of web browsers: blanks and controls around an address and line breaks inside it are dropped, and
any number of slashes of either sort comes before the authority.
-/

namespace EndpointResolution

/-- What a reader reports of an address. In general there are other schemes, and addresses without a
host. -/
structure Url where
  scheme : List Char
  host : Option Host
  query : Option (List Char)
  fragment : Option (List Char)
deriving DecidableEq

namespace Url

inductive Scheme where
  | http | https
deriving DecidableEq

def Scheme.text : Scheme → List Char
  | .http => ['h', 't', 't', 'p']
  | .https => ['h', 't', 't', 'p', 's']

def Scheme.ofText? (text : List Char) : Option Scheme :=
  [Scheme.http, .https].find? (·.text = text)

theorem Scheme.ofText?_eq_some_iff {text : List Char} {scheme : Scheme} :
    ofText? text = some scheme ↔ text = scheme.text := by
  rw [ofText?]
  constructor
  · intro found
    have own := List.find?_some found
    exact (of_decide_eq_true own).symm
  · rintro rfl
    cases scheme <;> decide

theorem Scheme.byteCount_text (scheme : Scheme) :
    Text.byteCount scheme.text = scheme.text.length := by
  cases scheme <;> decide

def isBlank (c : Char) : Bool := c.toNat ≤ 0x20

def isLineBreak (c : Char) : Bool := c = '\t' || c = '\n' || c = '\r'

def clean (text : List Char) : List Char :=
  ((text.dropWhile isBlank).reverse.dropWhile isBlank).reverse.filter (!isLineBreak ·)

def isSlash (c : Char) : Bool := c = '/' || c = '\\'

def endsAuthority (c : Char) : Bool := isSlash c || c = '?' || c = '#'

/-- The host ends at a colon outside brackets. -/
def hostLength (inBrackets : Bool) : List Char → Nat
  | [] => 0
  | c :: rest =>
      if c = ':' ∧ ¬ inBrackets then 0
      else hostLength (if c = '[' then true else if c = ']' then false else inBrackets) rest + 1

def isPort : List Char → Bool
  | [] => true
  | _ :: digits => digits.all Char.isDigit && Text.digitsValue digits ≤ 65535

/-- What comes before the first mark and, if there is a mark, what comes after it. -/
def splitMark (mark : Char) (text : List Char) : List Char × Option (List Char) :=
  match Text.cut? mark text with
  | some (before, after) => (before, some after)
  | none => (text, none)

def ofAuthority? (scheme : Scheme) (authority tail : List Char) : Option Url := do
  let hostPort := Text.afterLast '@' authority
  let length := hostLength false hostPort
  let host ← Host.parse? (hostPort.take length)
  guard (isPort (hostPort.drop length))
  let (beforeFragment, fragment) := splitMark '#' tail
  return ⟨scheme.text, some host, (splitMark '?' beforeFragment).2, fragment⟩

def parse? (text : String) : Option Url := do
  let (schemeText, rest) ← Text.cut? ':' (clean text.toList)
  let scheme ← Scheme.ofText? (schemeText.map Char.toLower)
  let rest := rest.dropWhile isSlash
  ofAuthority? scheme (rest.takeWhile (!endsAuthority ·)) (rest.dropWhile (!endsAuthority ·))

end Url

end EndpointResolution
