import EndpointResolution.Error

/-!
Where names get their values. An environment holds the parameters of one resolution; a scope puts
the bindings that rules make in front of it, the latest first. Rules that stand inside one another
look names up in the same order, frame by frame.
-/

namespace EndpointResolution

abbrev Environment := Dict Value

structure Scope where
  locals : List (String × Value) := []
  environment : Environment

namespace Scope

/-- Later bindings hide earlier ones, and all of them hide the environment. -/
def get? (s : Scope) (name : String) : Option Value :=
  (Assoc.find? name s.locals).or (s.environment.get? name)

def bind (s : Scope) (name : String) (value : Value) : Scope :=
  { s with locals := (name, value) :: s.locals }

/-- A name without a binding is a failure, one that is bound to absence is none. -/
def resolve (s : Scope) (name : String) : Result Value :=
  match s.get? name with
  | some value => .ok value
  | none => .error (.unresolvedReference name)

end Scope

/-- The bindings of each rule on their own, in the order in which they are made. The outermost frame
is on the environment, the others are on the frame of the rule around them. -/
inductive Frames where
  | root (environment : Environment) (locals : List (String × Value))
  | child (parent : Frames) (locals : List (String × Value))

namespace Frames

def bind (name : String) (value : Value) : Frames → Frames
  | .root environment locals => .root environment (locals ++ [(name, value)])
  | .child parent locals => .child parent (locals ++ [(name, value)])

/-- Innermost binding first. -/
def get? (name : String) : Frames → Option Value
  | .root environment locals => (Assoc.find? name locals.reverse).or (environment.get? name)
  | .child parent locals => (Assoc.find? name locals.reverse).or (parent.get? name)

/-- All bindings in one scope, those of inner rules in front. -/
def flatten : Frames → Scope
  | .root environment locals => ⟨locals.reverse, environment⟩
  | .child parent locals =>
      { parent.flatten with locals := locals.reverse ++ parent.flatten.locals }

@[simp] theorem flatten_root (environment : Environment) :
    (root environment []).flatten = ⟨[], environment⟩ := rfl

/-- A rule that has made no bindings yet sees what the rule around it does. -/
@[simp] theorem flatten_child (frames : Frames) : (frames.child []).flatten = frames.flatten := rfl

@[simp] theorem flatten_bind (frames : Frames) (name : String) (value : Value) :
    (frames.bind name value).flatten = frames.flatten.bind name value := by
  cases frames <;> simp [bind, flatten, Scope.bind]

/-- A look-up through the frames finds what a look-up in the one scope does. -/
theorem get?_flatten (frames : Frames) (name : String) :
    frames.flatten.get? name = frames.get? name := by
  induction frames with
  | root environment locals => rfl
  | child parent locals ih =>
      rw [get?, ← ih, flatten, Scope.get?, Scope.get?, Assoc.find?_append, Option.or_assoc]

end Frames

end EndpointResolution
