import EndpointResolution.Expr

/-!
Rules: conditions that all have to hold, and an outcome. A tree descends into rules of its own.
-/

namespace EndpointResolution

/-- The value of a condition can be bound for what follows in its rule. -/
structure Condition where
  expr : Expr
  assign : Option String := none
deriving DecidableEq

structure EndpointTemplate where
  url : Expr
  headers : Dict (List Expr) := ∅
  properties : Dict Expr := ∅
deriving DecidableEq

inductive Outcome (ρ : Type) where
  | endpoint (template : EndpointTemplate)
  | error (message : Expr)
  | tree (rules : List ρ)

structure Rule where
  conditions : List Condition
  outcome : Outcome Rule
  documentation : Option String

namespace EndpointTemplate

/-- One more value of a header. -/
def withHeader (t : EndpointTemplate) (name : String) (value : Expr) : EndpointTemplate :=
  { t with headers := t.headers.insert name ((t.headers.get? name).getD [] ++ [value]) }

/-- The property, in place of a former one of its name. -/
def withProperty (t : EndpointTemplate) (name : String) (value : Expr) : EndpointTemplate :=
  { t with properties := t.properties.insert name value }

end EndpointTemplate

namespace Rule

mutual

def beq : Rule → Rule → Bool
  | ⟨cs, .endpoint t, d⟩, ⟨cs', .endpoint t', d'⟩ => cs == cs' && t == t' && d == d'
  | ⟨cs, .error m, d⟩, ⟨cs', .error m', d'⟩ => cs == cs' && m == m' && d == d'
  | ⟨cs, .tree rs, d⟩, ⟨cs', .tree rs', d'⟩ => cs == cs' && beqAll rs rs' && d == d'
  | _, _ => false

def beqAll : List Rule → List Rule → Bool
  | [], [] => true
  | r :: rs, r' :: rs' => r.beq r' && beqAll rs rs'
  | _, _ => false

end

mutual

theorem beq_iff_eq (r : Rule) : ∀ r', r.beq r' = true ↔ r = r' := by
  intro r'
  match r, r' with
  | ⟨cs, .endpoint t, d⟩, ⟨cs', .endpoint t', d'⟩ => simp [beq, and_assoc]
  | ⟨cs, .error m, d⟩, ⟨cs', .error m', d'⟩ => simp [beq, and_assoc]
  | ⟨cs, .tree rs, d⟩, ⟨cs', .tree rs', d'⟩ => simp [beq, beqAll_iff_eq rs, and_assoc]
  | ⟨_, .endpoint _, _⟩, ⟨_, .error _, _⟩ | ⟨_, .endpoint _, _⟩, ⟨_, .tree _, _⟩
  | ⟨_, .error _, _⟩, ⟨_, .endpoint _, _⟩ | ⟨_, .error _, _⟩, ⟨_, .tree _, _⟩
  | ⟨_, .tree _, _⟩, ⟨_, .endpoint _, _⟩ | ⟨_, .tree _, _⟩, ⟨_, .error _, _⟩ => simp [beq]

theorem beqAll_iff_eq (rs : List Rule) : ∀ rs', beqAll rs rs' = true ↔ rs = rs' := by
  intro rs'
  match rs, rs' with
  | [], [] => simp [beqAll]
  | [], _ :: _ => simp [beqAll]
  | _ :: _, [] => simp [beqAll]
  | r :: rs, r' :: rs' => simp [beqAll, beq_iff_eq r, beqAll_iff_eq rs]

end

instance : DecidableEq Rule := fun r r' => decidable_of_iff _ (beq_iff_eq r r')

end Rule

end EndpointResolution
