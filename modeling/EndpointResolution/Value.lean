import EndpointResolution.Dict

/-!
Values that expressions compute. A value carries its kind, and a consumer states which kinds it
takes. Absence is a value of its own, so a name can be bound to it.
-/

namespace EndpointResolution

inductive Kind where
  | none | boolean | integer | string | array | record | endpoint
deriving DecidableEq

namespace Kind

def all : List Kind := [.none, .boolean, .integer, .string, .array, .record, .endpoint]

def name : Kind → String
  | .none => "None"
  | .boolean => "Boolean"
  | .integer => "Integer"
  | .string => "String"
  | .array => "Array"
  | .record => "Record"
  | .endpoint => "Endpoint"

/-- Alternatives for a reader. -/
def describe (kinds : List Kind) : String := String.intercalate " or " (kinds.map name)

end Kind

/-- Fields of a record and properties of an endpoint are entry lists, in increasing order of name
as long as the value is `WellFormed`. -/
inductive Value where
  | none
  | boolean (b : Bool)
  | integer (n : Int64)
  | string (text : String)
  | array (items : List Value)
  | record (fields : List (String × Value))
  | endpoint (url : String) (headers : Dict (List String)) (properties : List (String × Value))

/-- Where requests go: a header has several values, and properties inform later stages. -/
structure Endpoint where
  url : String
  headers : Dict (List String) := ∅
  properties : Dict Value := ∅

namespace Value

instance : Inhabited Value := ⟨.none⟩

def kind : Value → Kind
  | .none => .none
  | .boolean _ => .boolean
  | .integer _ => .integer
  | .string _ => .string
  | .array _ => .array
  | .record _ => .record
  | .endpoint _ _ _ => .endpoint

def isNone : Value → Bool
  | .none => true
  | _ => false

/-- A condition holds by any value but absence and falsehood. -/
def truthy : Value → Bool
  | .none | .boolean false => false
  | _ => true

def ofOption {α : Type} (f : α → Value) : Option α → Value
  | .none => .none
  | some a => f a

/-- The last of several fields with one name counts. -/
def ofFields (fields : List (String × Value)) : Value := .record (Assoc.ofList fields)

def ofEndpoint (e : Endpoint) : Value := .endpoint e.url e.headers e.properties.entries

def boolean? : Value → Option Bool
  | .boolean b => some b
  | _ => Option.none

def integer? : Value → Option Int64
  | .integer n => some n
  | _ => Option.none

def string? : Value → Option String
  | .string text => some text
  | _ => Option.none

def array? : Value → Option (List Value)
  | .array items => some items
  | _ => Option.none

def record? : Value → Option (List (String × Value))
  | .record fields => some fields
  | _ => Option.none

def endpoint? : Value → Option Endpoint
  | .endpoint url headers properties => some ⟨url, headers, Dict.ofList properties⟩
  | _ => Option.none

mutual

def WellFormed : Value → Prop
  | .array items => AllWellFormed items
  | .record fields => Assoc.Sorted fields ∧ FieldsWellFormed fields
  | .endpoint _ _ properties => Assoc.Sorted properties ∧ FieldsWellFormed properties
  | _ => True

def AllWellFormed : List Value → Prop
  | [] => True
  | value :: rest => value.WellFormed ∧ AllWellFormed rest

def FieldsWellFormed : List (String × Value) → Prop
  | [] => True
  | (_, value) :: rest => value.WellFormed ∧ FieldsWellFormed rest

end

mutual

def beq : Value → Value → Bool
  | .none, .none => true
  | .boolean a, .boolean b => a == b
  | .integer a, .integer b => a == b
  | .string a, .string b => a == b
  | .array xs, .array ys => beqItems xs ys
  | .record xs, .record ys => beqFields xs ys
  | .endpoint u hs ps, .endpoint v is qs => u == v && hs == is && beqFields ps qs
  | _, _ => false

def beqItems : List Value → List Value → Bool
  | [], [] => true
  | x :: xs, y :: ys => x.beq y && beqItems xs ys
  | _, _ => false

def beqFields : List (String × Value) → List (String × Value) → Bool
  | [], [] => true
  | (k, x) :: xs, (l, y) :: ys => k == l && x.beq y && beqFields xs ys
  | _, _ => false

end

mutual

theorem beq_iff_eq (x : Value) : ∀ y, x.beq y = true ↔ x = y := by
  intro y
  cases x <;> cases y <;>
    simp [beq, beqItems_iff_eq, beqFields_iff_eq, and_assoc]

theorem beqItems_iff_eq (xs : List Value) : ∀ ys, beqItems xs ys = true ↔ xs = ys := by
  intro ys
  cases xs <;> cases ys <;> simp [beqItems, beq_iff_eq, beqItems_iff_eq]

theorem beqFields_iff_eq (xs : List (String × Value)) :
    ∀ ys, beqFields xs ys = true ↔ xs = ys := by
  intro ys
  match xs, ys with
  | [], [] => simp [beqFields]
  | [], _ :: _ => simp [beqFields]
  | _ :: _, [] => simp [beqFields]
  | (k, x) :: xs, (l, y) :: ys => simp [beqFields, beq_iff_eq x, beqFields_iff_eq xs]

end

instance : DecidableEq Value := fun x y => decidable_of_iff _ (beq_iff_eq x y)

end Value

deriving instance DecidableEq for Endpoint

end EndpointResolution
