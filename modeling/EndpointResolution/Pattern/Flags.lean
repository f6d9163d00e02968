import EndpointResolution.Pattern

/-!
Flags of written patterns, and the blanks and comments that a pattern may hold under one of them.
-/

namespace EndpointResolution.Pattern

structure Flags where
  caseless : Bool := false
  multiline : Bool := false
  dotAll : Bool := false
  breaks : LineBreaks := .feed
  repertoire : Repertoire := .full
  spaced : Bool := false

namespace Flags

/-- Greed changes no match, so its flag has no effect. -/
def set? (on : Bool) (flags : Flags) : Char → Option Flags
  | 'i' => some { flags with caseless := on }
  | 'm' => some { flags with multiline := on }
  | 's' => some { flags with dotAll := on }
  | 'R' => some { flags with breaks := if on then .feedAndReturn else .feed }
  | 'u' => some { flags with repertoire := if on then .full else .ascii }
  | 'x' => some { flags with spaced := on }
  | 'U' => some flags
  | _ => none

/-- Flags before a hyphen are switched on and those behind it are switched off. -/
def change? (on : Bool) (flags : Flags) : List Char → Option Flags
  | [] => some flags
  | '-' :: rest => change? false flags rest
  | c :: rest => (flags.set? on c).bind fun flags => change? on flags rest

/-- A flag is written once at most, and so is the hyphen, which does not come last. -/
def read? (flags : Flags) (written : List Char) : Option Flags :=
  if written.eraseDups.length = written.length ∧ written.getLast? ≠ some '-' then
    flags.change? true written
  else none

/-- Without blanks and comments at the beginning. -/
def skipBlanks (inComment : Bool) : List Char → List Char
  | [] => []
  | c :: rest =>
      if inComment then skipBlanks (c ≠ '\n') rest
      else if c = '#' then skipBlanks true rest
      else if CharSet.isSpace c then skipBlanks false rest
      else c :: rest

def skip (flags : Flags) (text : List Char) : List Char :=
  if flags.spaced then skipBlanks false text else text

/-- The next character behind blanks, of which a single mark of a comment is one. -/
def peek? (flags : Flags) (text : List Char) : Option Char :=
  if flags.spaced then
    match text.dropWhile CharSet.isSpace with
    | '#' :: rest => (rest.dropWhile CharSet.isSpace).head?
    | rest => rest.head?
  else text.head?

/-- The text up to a closing brace, without blanks and comments, and the text behind the brace. -/
def braced? (flags : Flags) (inComment : Bool) : List Char → Option (List Char × List Char)
  | [] => none
  | c :: rest =>
      if inComment then braced? flags (c ≠ '\n') rest
      else if c = '\x7d' then some ([], rest)
      else if flags.spaced && c = '#' then braced? flags true rest
      else if flags.spaced && CharSet.isSpace c then braced? flags false rest
      else (braced? flags false rest).map fun read => (c :: read.1, read.2)

/-- So many characters, with blanks before each of them. -/
def take? (flags : Flags) : Nat → List Char → Option (List Char × List Char)
  | 0, text => some ([], text)
  | n + 1, text =>
      match flags.skip text with
      | [] => none
      | c :: rest => (take? flags n rest).map fun read => (c :: read.1, read.2)

/-- A set under the flag for letter case. -/
def fold (flags : Flags) (set : CharSet) : CharSet :=
  if flags.caseless then .caseless flags.repertoire set else set

/-- The complement, if it is wanted. No complement is within ASCII. -/
def complementIf? (flags : Flags) (wanted : Bool) (set : CharSet) : Option CharSet :=
  if !wanted then some set
  else if flags.repertoire = .full then some (.complement set)
  else none

def lineStart (flags : Flags) : Assertion :=
  if flags.multiline then .lineStart flags.breaks else .textStart

def lineEnd (flags : Flags) : Assertion :=
  if flags.multiline then .lineEnd flags.breaks else .textEnd

def lineBreak (flags : Flags) : CharSet :=
  if flags.dotAll then .empty
  else match flags.breaks with
    | .feed => .single '\n'
    | .feedAndReturn => .union (.single '\r') (.single '\n')

def dot? (flags : Flags) : Option CharSet := flags.complementIf? true flags.lineBreak

end Flags

end EndpointResolution.Pattern
