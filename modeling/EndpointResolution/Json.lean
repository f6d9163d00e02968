import EndpointResolution.Dict

/-!
JSON documents with their members in the order written, repeated ones included. What a document may
spell without meaning any data, such as half a surrogate pair, is kept as `unreadable`: it does no
harm where it is ignored.
-/

namespace EndpointResolution

inductive Json where
  | null
  | boolean (b : Bool)
  | integer (n : Int)
  /-- A number with a fraction or an exponent, or minus zero, as it is written. -/
  | decimal (text : String)
  | string (text : String)
  | array (items : List Json)
  | object (members : List (String × Json))
  | unreadable

namespace Json

instance : Inhabited Json := ⟨.null⟩

mutual

def readable : Json → Bool
  | .array items => allReadable items
  | .object members => membersReadable members
  | .unreadable => false
  | _ => true

def allReadable : List Json → Bool
  | [] => true
  | item :: rest => item.readable && allReadable rest

def membersReadable : List (String × Json) → Bool
  | [] => true
  | (_, value) :: rest => value.readable && membersReadable rest

end

mutual

def beq : Json → Json → Bool
  | .null, .null => true
  | .boolean a, .boolean b => a == b
  | .integer a, .integer b => a == b
  | .decimal a, .decimal b => a == b
  | .string a, .string b => a == b
  | .array xs, .array ys => beqItems xs ys
  | .object xs, .object ys => beqMembers xs ys
  | .unreadable, .unreadable => true
  | _, _ => false

def beqItems : List Json → List Json → Bool
  | [], [] => true
  | x :: xs, y :: ys => x.beq y && beqItems xs ys
  | _, _ => false

def beqMembers : List (String × Json) → List (String × Json) → Bool
  | [], [] => true
  | (k, x) :: xs, (l, y) :: ys => k == l && x.beq y && beqMembers xs ys
  | _, _ => false

end

mutual

theorem beq_iff_eq (x : Json) : ∀ y, x.beq y = true ↔ x = y := by
  intro y
  cases x <;> cases y <;> simp [beq, beqItems_iff_eq, beqMembers_iff_eq]

theorem beqItems_iff_eq (xs : List Json) : ∀ ys, beqItems xs ys = true ↔ xs = ys := by
  intro ys
  cases xs <;> cases ys <;> simp [beqItems, beq_iff_eq, beqItems_iff_eq]

theorem beqMembers_iff_eq (xs : List (String × Json)) :
    ∀ ys, beqMembers xs ys = true ↔ xs = ys := by
  intro ys
  match xs, ys with
  | [], [] => simp [beqMembers]
  | [], _ :: _ => simp [beqMembers]
  | _ :: _, [] => simp [beqMembers]
  | (k, x) :: xs, (l, y) :: ys => simp [beqMembers, beq_iff_eq x, beqMembers_iff_eq xs]

end

instance : DecidableEq Json := fun x y => decidable_of_iff _ (beq_iff_eq x y)

def string? : Json → Option String
  | .string text => some text
  | _ => none

def boolean? : Json → Option Bool
  | .boolean b => some b
  | _ => none

def listOf? {α : Type} (read? : Json → Option α) : Json → Option (List α)
  | .array items => items.mapM read?
  | _ => none

/-- Every member counts as read, and of repeated ones the last is kept. -/
def dictOf? {α : Type} (read? : Json → Option α) : Json → Option (Dict α)
  | .object members =>
      (members.mapM fun member => (read? member.2).map fun value => (member.1, value)).map .ofList
  | _ => none

/-- A member that may be missing or null. -/
def optional? {α : Type} (read? : Json → Option α) : Option Json → Option (Option α)
  | none | some .null => some none
  | some json => (read? json).map some

/-- A member that may be missing. -/
def withDefault? {α : Type} (default : α) (read? : Json → Option α) : Option Json → Option α
  | none => some default
  | some json => read? json

def occurrences {α : Type} (name : String) (members : List (String × α)) : List α :=
  (members.filter (·.1 = name)).map (·.2)

/-- A member that occurs at most once. -/
def member? (members : List (String × Json)) (name : String) : Option (Option Json) :=
  match occurrences name members with
  | [] => some none
  | [json] => some (some json)
  | _ => none

/-- The members of a structure in the order of their names. A structure is an object, whose other
members are ignored, or an array that ends where it likes but is not longer. -/
def members? (names : List String) : Json → Option (List (Option Json))
  | .object members => names.mapM (member? members)
  | .array items =>
      if items.length ≤ names.length then
        some (items.map some ++ List.replicate (names.length - items.length) none)
      else none
  | _ => none

/-- One of several names, alone or as the only member of an object, with null for its contents. -/
def nameOf? : Json → Option String
  | .string name | .object [(name, .null)] => some name
  | _ => none

end Json

end EndpointResolution
