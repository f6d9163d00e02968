import EndpointResolution.Template

/-!
Expressions: literals, references and applications of functions. String literals are templates.
-/

namespace EndpointResolution

inductive Expr where
  | boolean (b : Bool)
  | integer (n : Int64)
  | template (t : Template)
  | array (items : List Expr)
  | record (fields : List (String × Expr))
  | reference (name : String)
  | call (function : Function) (arguments : List Expr)

namespace Expr

def ofText (text : String) : Result Expr := do return .template (← Template.parse text)

/-- The path of a `getAttr` that is given as plain text. -/
def literalPath? : Function → List Expr → Option String
  | .getAttr, [_, .template t] => t.literal?
  | _, _ => none

/-- A path in plain text is checked at once, so that a slip in a rare branch is found early. -/
def ofCall (f : Function) (arguments : List Expr) : Result Expr := do
  f.checkArity arguments.length
  match literalPath? f arguments with
  | some path =>
      let _ ← AttributePath.parse path
      return .call f arguments
  | none => return .call f arguments

mutual

def beq : Expr → Expr → Bool
  | .boolean a, .boolean b => a == b
  | .integer a, .integer b => a == b
  | .template a, .template b => a == b
  | .array xs, .array ys => beqItems xs ys
  | .record xs, .record ys => beqFields xs ys
  | .reference a, .reference b => a == b
  | .call f xs, .call g ys => f == g && beqItems xs ys
  | _, _ => false

def beqItems : List Expr → List Expr → Bool
  | [], [] => true
  | x :: xs, y :: ys => x.beq y && beqItems xs ys
  | _, _ => false

def beqFields : List (String × Expr) → List (String × Expr) → Bool
  | [], [] => true
  | (k, x) :: xs, (l, y) :: ys => k == l && x.beq y && beqFields xs ys
  | _, _ => false

end

mutual

theorem beq_iff_eq (x : Expr) : ∀ y, x.beq y = true ↔ x = y := by
  intro y
  cases x <;> cases y <;> simp [beq, beqItems_iff_eq, beqFields_iff_eq]

theorem beqItems_iff_eq (xs : List Expr) : ∀ ys, beqItems xs ys = true ↔ xs = ys := by
  intro ys
  cases xs <;> cases ys <;> simp [beqItems, beq_iff_eq, beqItems_iff_eq]

theorem beqFields_iff_eq (xs : List (String × Expr)) :
    ∀ ys, beqFields xs ys = true ↔ xs = ys := by
  intro ys
  match xs, ys with
  | [], [] => simp [beqFields]
  | [], _ :: _ => simp [beqFields]
  | _ :: _, [] => simp [beqFields]
  | (k, x) :: xs, (l, y) :: ys => simp [beqFields, beq_iff_eq x, beqFields_iff_eq xs]

end

instance : DecidableEq Expr := fun x y => decidable_of_iff _ (beq_iff_eq x y)

mutual

def text : Expr → String
  | .boolean true => "true"
  | .boolean false => "false"
  | .integer n => toString n.toInt
  | .template t => "\"" ++ t.text ++ "\""
  | .array items => "[" ++ String.intercalate ", " (texts items) ++ "]"
  | .record fields => "\x7b" ++ String.intercalate ", " (fieldTexts fields) ++ "\x7d"
  | .reference name => name
  | .call f arguments => f.name ++ "(" ++ String.intercalate ", " (texts arguments) ++ ")"

def texts : List Expr → List String
  | [] => []
  | item :: rest => item.text :: texts rest

def fieldTexts : List (String × Expr) → List String
  | [] => []
  | (name, value) :: rest => (name ++ ": " ++ value.text) :: fieldTexts rest

end

mutual

def eval (s : Scope) : Expr → Result Value
  | .boolean b => .ok (.boolean b)
  | .integer n => .ok (.integer n)
  | .template t => do return .string (← t.eval s)
  | .array items => do return .array (← evalAll s items)
  | .record fields => do return .ofFields (← evalFields s fields)
  | .reference name => s.resolve name
  | .call f arguments => do f.apply (← evalAll s arguments)

/-- From left to right, up to the first failure. -/
def evalAll (s : Scope) : List Expr → Result (List Value)
  | [] => .ok []
  | item :: rest => do return (← item.eval s) :: (← evalAll s rest)

def evalFields (s : Scope) : List (String × Expr) → Result (List (String × Value))
  | [] => .ok []
  | (name, value) :: rest => do return (name, ← value.eval s) :: (← evalFields s rest)

end

def evalString (s : Scope) (expr : Expr) : Result String := do (← expr.eval s).expectString

def evalStrings (s : Scope) : List Expr → Result (List String)
  | [] => .ok []
  | item :: rest => do return (← item.evalString s) :: (← evalStrings s rest)

end Expr

end EndpointResolution
