import EndpointResolution.Scope
import Mathlib.Data.List.Dedup

/-!
Environments as finite maps. Bindings are added one after the other, and now and then a whole list
of them is collected anew. What an environment answers is known from the writes since the last
collection: a name has the value that was written last, and the order of writes is of no other
account.
-/

namespace EndpointResolution

/-- No name counts twice. -/
theorem Dict.size_eq_of_mem_names_iff {α : Type} {dict : Dict α} {names : List String}
    (same : ∀ name, name ∈ dict.names ↔ name ∈ names) : dict.size = names.dedup.length := by
  have permuted : dict.names.Perm names.dedup := by
    refine (List.perm_ext_iff_of_nodup dict.nodup_names names.nodup_dedup).mpr fun name => ?_
    rw [same, List.mem_dedup]
  rw [← length_names, permuted.length_eq]

namespace Environment

/-- One more binding, or an environment of these items in place of the former one. -/
inductive Change where
  | bind (name : String) (value : Value)
  | collect (items : List (String × Value))

def change (environment : Environment) : Change → Environment
  | .bind name value => environment.insert name value
  | .collect items => .ofList items

/-- What the empty environment is changed to; to start from a list of items is to collect them
first. -/
def after (changes : List Change) : Environment := changes.foldl change ∅

def record (writes : List (String × Value)) : Change → List (String × Value)
  | .bind name value => writes ++ [(name, value)]
  | .collect items => items

/-- The writes since the last collection, which is one of several writes, in their order. -/
def written (changes : List Change) : List (String × Value) := changes.foldl record []

/-- The name is written with this value, and not again behind it. -/
def Latest (writes : List (String × Value)) (name : String) (value : Value) : Prop :=
  ∃ front back, writes = front ++ (name, value) :: back ∧ name ∉ back.map (·.1)

theorem change_ofList (writes : List (String × Value)) (c : Change) :
    change (.ofList writes) c = .ofList (record writes c) := by
  cases c with
  | bind name value => simp [change, record, Dict.ofList, Dict.insert, Assoc.ofList]
  | collect items => rfl

theorem foldl_change_ofList (writes : List (String × Value)) (changes : List Change) :
    changes.foldl change (.ofList writes) = .ofList (changes.foldl record writes) := by
  induction changes generalizing writes with
  | nil => rfl
  | cons c rest ih => rw [List.foldl_cons, change_ofList, ih, List.foldl_cons]

theorem after_eq_ofList (changes : List Change) : after changes = .ofList (written changes) :=
  foldl_change_ofList [] changes

section Answers

variable {changes : List Change} {name : String}

theorem get?_after_eq_some_iff {value : Value} :
    (after changes).get? name = some value ↔ Latest (written changes) name value := by
  rw [after_eq_ofList, Dict.get?_ofList, Assoc.find?_eq_some_iff_append]
  constructor
  · rintro ⟨back, front, reversed, absent⟩
    refine ⟨front.reverse, back.reverse, ?_, by simpa using absent⟩
    simpa using congrArg List.reverse reversed
  · rintro ⟨front, back, writes, absent⟩
    exact ⟨back.reverse, front.reverse, by simp [writes], by simpa using absent⟩

theorem get?_after_eq_none_iff :
    (after changes).get? name = none ↔ name ∉ (written changes).map (·.1) := by
  rw [after_eq_ofList, Dict.get?_ofList, Assoc.find?_eq_none_iff]
  simp

end Answers

/-- A name has the value that was written last since the last collection, and no value if it was not
written. The names that were written are counted, each of them once. What is found under each name,
and so what was written last to it, tells environments apart, and nothing else does. -/
theorem after_is_map_of_writes (changes : List Change) :
    (∀ name value, (after changes).get? name = some value ↔ Latest (written changes) name value) ∧
    (∀ name, (after changes).get? name = none ↔ name ∉ (written changes).map (·.1)) ∧
    (∀ name, (after changes).contains name = true ↔
      ∃ value, (after changes).get? name = some value) ∧
    (after changes).size = ((written changes).map (·.1)).dedup.length ∧
    ((after changes).isEmpty = true ↔ (after changes).size = 0) ∧
    (∀ other : Environment, after changes = other ↔
      ∀ name, (after changes).get? name = other.get? name) ∧
    ∀ others, after changes = after others ↔
      ∀ name value, Latest (written changes) name value ↔ Latest (written others) name value := by
  refine ⟨fun _ _ => get?_after_eq_some_iff, fun _ => get?_after_eq_none_iff,
    fun _ => Dict.contains_iff, ?_, Dict.isEmpty_iff, fun other => ⟨?_, Dict.ext_get?⟩,
    fun others => ⟨?_, fun same => Dict.ext_get? fun name => ?_⟩⟩
  · refine Dict.size_eq_of_mem_names_iff fun name => ?_
    rw [← not_iff_not, ← Dict.get?_eq_none_iff, get?_after_eq_none_iff]
  · rintro rfl name
    rfl
  · intro same name value
    rw [← get?_after_eq_some_iff, ← get?_after_eq_some_iff, same]
  · ext value
    rw [get?_after_eq_some_iff, get?_after_eq_some_iff, same]

/-- The same last writes in another order. -/
example : after [.bind "B" .none, .bind "A" (.integer 1), .bind "A" (.integer 2)] =
    after [.bind "C" .none, .collect [("A", .integer 2), ("B", .none)]] := by decide

end Environment

end EndpointResolution
