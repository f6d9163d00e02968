import EndpointResolution.Pattern

/-!
Patterns as they are written: sequences and choices of any number of parts, with groups. The
pattern that a tree means does not depend on how its parts are grouped.
-/

namespace EndpointResolution.Pattern

inductive Tree where
  /-- A change of flags, which has an effect on what follows alone. -/
  | setting
  /-- A set that is written with so many levels of brackets and operators. -/
  | char (set : CharSet) (levels : Nat)
  | anchor (assertion : Assertion)
  /-- The name is nothing for a group that is only numbered. -/
  | capture (name : Option (List Char)) (inner : Tree)
  | group (inner : Tree)
  | sequence (parts : List Tree)
  | choice (parts : List Tree)
  | repeated (tree : Tree) (atLeast : Nat) (atMost : Option Nat)

namespace Tree

def ofParts : List Tree → Tree
  | [part] => part
  | parts => .sequence parts

def ofChoices : List Tree → Tree
  | [part] => part
  | parts => .choice parts

mutual

def pattern : Tree → Pattern
  | .setting => .empty
  | .char set _ => .char set
  | .anchor assertion => .anchor assertion
  | .capture _ inner | .group inner => inner.pattern
  | .sequence parts => .sequence (patterns parts)
  | .choice parts => .oneOf (patterns parts)
  | .repeated tree atLeast atMost => .repeated tree.pattern atLeast atMost

def patterns : List Tree → List Pattern
  | [] => []
  | tree :: rest => tree.pattern :: patterns rest

end

mutual

/-- How deep a tree nests. -/
def levels : Tree → Nat
  | .setting | .anchor _ => 0
  | .char _ levels => levels
  | .capture _ inner | .group inner | .repeated inner _ _ => inner.levels + 1
  | .sequence parts | .choice parts => if parts.isEmpty then 0 else most parts + 1

def most : List Tree → Nat
  | [] => 0
  | tree :: rest => max tree.levels (most rest)

end

mutual

/-- The names of the groups. -/
def names : Tree → List (List Char)
  | .setting | .char _ _ | .anchor _ => []
  | .capture name inner => name.toList ++ inner.names
  | .group inner | .repeated inner _ _ => inner.names
  | .sequence parts | .choice parts => allNames parts

def allNames : List Tree → List (List Char)
  | [] => []
  | tree :: rest => tree.names ++ allNames rest

end

end Tree

end EndpointResolution.Pattern
