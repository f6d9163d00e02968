import EndpointResolution.Proofs.RuleSteps
import EndpointResolution.RuleSet

/-!
Evaluation under an observer. An observer never changes a result. The one that records keeps its
rules in nested order: when a rule has been left, those around it are again the ones that have not
been, and only entries behind theirs have been added.
-/

namespace EndpointResolution

namespace Rule

variable {σ : Type} (o : Observer σ)

/-- What a rule gives whose conditions hold, under an observer. -/
def concludeWatched (s : Scope) : Outcome Rule → σ → Result Endpoint × σ
  | .tree rules, state => evalAllWatched o s 0 rules state
  | outcome, state => (conclude s outcome, state)

theorem concludeWatched_of_flat {outcome : Outcome Rule} (s : Scope) (state : σ)
    (flat : ∀ children, outcome ≠ .tree children) :
    concludeWatched o s outcome state = (conclude s outcome, state) := by
  cases outcome with
  | endpoint _ | error _ => rfl
  | tree children => exact absurd rfl (flat children)

theorem evalWatched_eq (s : Scope) (rule : Rule) (state : σ) :
    rule.evalWatched o s state =
      match enterWatched o s rule.conditions state with
      | (.error e, state) => (.error e, state)
      | (.ok none, state) => (.ok none, state)
      | (.ok (some inner), state) =>
          let (result, state) := concludeWatched o inner rule.outcome state
          (result.map some, state) := by
  obtain ⟨conditions, outcome, documentation⟩ := rule
  unfold evalWatched
  dsimp only
  rcases enterWatched o s conditions state with ⟨e | _ | inner, state⟩
  · rfl
  · rfl
  · cases outcome <;> rfl

/-- The first of some rules, between the events that announce and close it, then the others if
it is skipped. -/
theorem evalAllWatched_cons (s : Scope) (position : Nat) (rule : Rule) (rest : List Rule)
    (state : σ) :
    evalAllWatched o s position (rule :: rest) state =
      match enterWatched o s rule.conditions (o.enter position rule state) with
      | (.error e, state) => (.error e, o.leave (.error e) state)
      | (.ok none, state) => evalAllWatched o s (position + 1) rest (o.leave (.ok none) state)
      | (.ok (some inner), state) =>
          let (result, state) := concludeWatched o inner rule.outcome state
          (result, o.leave (result.map some) state) := by
  rw [evalAllWatched, evalWatched_eq]
  rcases enterWatched o s rule.conditions (o.enter position rule state) with ⟨e | _ | inner, state⟩
  · rfl
  · rfl
  · dsimp only
    rcases concludeWatched o inner rule.outcome state with ⟨e | endpoint, state⟩ <;> rfl

end Rule

namespace Recorder

@[simp] theorem observer_enter : observer.enter = enter := rfl

@[simp] theorem observer_evaluate : observer.evaluate = evaluate := rfl

@[simp] theorem observer_leave : observer.leave = leave := rfl

/-- The rule that is being evaluated, or none, has the path. -/
def At (path : List Nat) (r : Recorder) : Prop :=
  r.active = [] ∧ path = [] ∨
    ∃ current outer entry, r.active = current :: outer ∧ r.entries[current]? = some entry ∧
      entry.path = path

/-- A recorder whose last entry is about the innermost rule that has not been left. -/
def opened (entries : List RuleTrace) (active : List Nat) (entry : RuleTrace) : Recorder where
  entries := entries ++ [entry]
  active := entries.length :: active

theorem At.path_eq {path : List Nat} {r : Recorder} (h : r.At path) : r.path = path := by
  rcases h with ⟨outermost, rfl⟩ | ⟨current, outer, entry, active, present, rfl⟩
  · simp only [Recorder.path, outermost]
  · simp only [Recorder.path, active, present]

theorem At.append {path : List Nat} {r : Recorder} (h : r.At path) (more : List RuleTrace) :
    ({ r with entries := r.entries ++ more } : Recorder).At path := by
  rcases h with outermost | ⟨current, outer, entry, active, present, at'⟩
  · exact .inl outermost
  · obtain ⟨bound, -⟩ := List.getElem?_eq_some_iff.mp present
    refine .inr ⟨current, outer, entry, active, ?_, at'⟩
    rw [List.getElem?_append_left bound, present]

theorem at_empty : ({} : Recorder).At [] := .inl ⟨rfl, rfl⟩

theorem at_opened (entries : List RuleTrace) (active : List Nat) (entry : RuleTrace) :
    (opened entries active entry).At entry.path :=
  .inr ⟨entries.length, active, entry, rfl, by simp [opened], rfl⟩

theorem modify_behind (entries : List RuleTrace) (entry : RuleTrace) (inside : List RuleTrace)
    (f : RuleTrace → RuleTrace) :
    (entries ++ entry :: inside).modify entries.length f = entries ++ f entry :: inside := by
  rw [List.modify_eq_take_cons_drop (by simp)]
  simp

theorem enter_eq {path : List Nat} {r : Recorder} (h : r.At path) (position : Nat)
    (rule : Rule) :
    r.enter position rule =
      opened r.entries r.active ⟨path ++ [position], rule.documentation, [], .skipped⟩ := by
  rw [enter, h.path_eq]
  rfl

theorem evaluate_opened (entries : List RuleTrace) (active : List Nat) (entry : RuleTrace)
    (c : Condition) (result : Result Value) :
    (opened entries active entry).evaluate c result =
      opened entries active { entry with conditions := entry.conditions ++ [.of c result] } := by
  simp only [evaluate, opened, modify_behind]

theorem leave_opened (entries : List RuleTrace) (active : List Nat) (entry : RuleTrace)
    (result : Result (Option Endpoint)) :
    (opened entries active entry).leave result =
      ⟨entries ++ [{ entry with ending := .ofResult result }], active⟩ := by
  simp only [leave, opened, modify_behind]

/-- The entries of the rules inside stay as they are when a tree is left. -/
theorem leave_tree (entries : List RuleTrace) (active : List Nat) (entry : RuleTrace)
    (inside : List RuleTrace) (result : Result (Option Endpoint)) :
    ({ opened entries active entry with
        entries := (opened entries active entry).entries ++ inside } : Recorder).leave result =
      ⟨entries ++ { entry with ending := .ofResult result } :: inside, active⟩ := by
  simp only [leave, opened, List.append_assoc, List.singleton_append, modify_behind]

end Recorder

end EndpointResolution
