import EndpointResolution.Function.Apply
import EndpointResolution.Scope

/-!
String templates. `{name}` stands for a string value, `{name#path}` for the string that the path
leads to from it, and a doubled brace for the brace. A template is the sequence of its tokens, so
joining texts joins templates.
-/

namespace EndpointResolution

inductive Template.Token where
  | char (c : Char)
  | reference (name : String)
  | access (name path : String)
deriving DecidableEq

structure Template where
  tokens : List Template.Token
deriving DecidableEq

namespace Template

def isName (text : List Char) : Bool :=
  text ≠ [] && text.all fun c => c.isAlphanum || c = '_' || c = '-'

def access (name path : String) : Except Defect Token :=
  match AttributePath.parse? path with
  | some _ => .ok (.access name path)
  | none => .error (.attributePath path)

/-- The token of what stands between braces. -/
def interpolation (text : String) (source : List Char) : Except Defect Token :=
  match Text.cut? '#' source with
  | none =>
      if isName source then .ok (.reference (String.ofList source))
      else .error (.template text .notInterpolation)
  | some (name, path) =>
      if isName name ∧ path ≠ [] then access (String.ofList name) (String.ofList path)
      else .error (.template text .notInterpolation)

mutual

/-- The tokens of a text; reports carry the whole text. -/
def scan (text : String) : List Char → Except Defect (List Token)
  | [] => .ok []
  | '\x7b' :: '\x7b' :: rest => (scan text rest).map (.char '\x7b' :: ·)
  | '\x7d' :: '\x7d' :: rest => (scan text rest).map (.char '\x7d' :: ·)
  | '\x7b' :: rest => scanInside text [] rest
  | '\x7d' :: _ => .error (.template text .unmatched)
  | c :: rest => (scan text rest).map (.char c :: ·)

/-- The same behind an opening brace, with what has been read since it in reverse. -/
def scanInside (text : String) (source : List Char) : List Char → Except Defect (List Token)
  | [] => .error (.template text .unclosed)
  | '\x7d' :: rest =>
      match interpolation text source.reverse with
      | .ok token => (scan text rest).map (token :: ·)
      | .error defect => .error defect
  | c :: rest => scanInside text (c :: source) rest

end

def parse (text : String) : Result Template :=
  match scan text text.toList with
  | .ok tokens => .ok ⟨tokens⟩
  | .error defect => .error (.invalidRuleSet defect)

def Token.text : Token → List Char
  | .char c => if c = '\x7b' ∨ c = '\x7d' then [c, c] else [c]
  | .reference name => '\x7b' :: name.toList ++ ['\x7d']
  | .access name path => '\x7b' :: name.toList ++ '#' :: path.toList ++ ['\x7d']

def text (template : Template) : String := String.ofList (template.tokens.flatMap Token.text)

def Token.char? : Token → Option Char
  | .char c => some c
  | _ => none

/-- The text that a template without interpolations stands for. -/
def literal? (template : Template) : Option String :=
  (template.tokens.mapM Token.char?).map String.ofList

def Token.eval (s : Scope) : Token → Result String
  | .char c => .ok (String.singleton c)
  | .reference name => do (← s.resolve name).expectString
  | .access name path => do
      (← Function.getAttr.apply [← s.resolve name, .string path]).expectString

def evalTokens (s : Scope) : List Token → Result String
  | [] => .ok ""
  | token :: rest => do return (← token.eval s) ++ (← evalTokens s rest)

def eval (s : Scope) (template : Template) : Result String := evalTokens s template.tokens

end Template

end EndpointResolution
