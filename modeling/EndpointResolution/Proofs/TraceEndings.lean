import EndpointResolution.Proofs.ExpressionErrors
import EndpointResolution.Proofs.TraceOrder
import Mathlib.Data.List.Chain

/-!
How the entries of a trace explain the result. Those that are not skipped lie on one path of
trees and all end with the result; the last of them is where it comes from. Behind it are at most
the rules of a tree in which all were skipped.
-/

namespace EndpointResolution

namespace Rule

/-- The entries that are not skipped. -/
def decided (trace : List RuleTrace) : List RuleTrace :=
  trace.filter fun entry => entry.ending ≠ .skipped

/-- The rule is inside the tree, at some position. -/
def ParentOf (path inside : List Nat) : Prop :=
  ∃ position, inside = path ++ [position]

/-- The entries of a trace explain the result. -/
structure Explains (environment : Environment) (rules : List Rule) (result : Result Endpoint)
    (trace : List RuleTrace) : Prop where
  /-- An entry is skipped exactly if its last condition has a falsy value. -/
  skipped_iff : ∀ entry ∈ trace, entry.ending = .skipped ↔
    ∃ record value, entry.conditions.getLast? = some record ∧ record.result = .ok value ∧
      value.Falsy
  /-- The other entries lead from the top into the tree, each inside the one before. -/
  linked : ([] :: (decided trace).map (·.path)).IsChain ParentOf
  /-- All of them end with the result. -/
  endings : ∀ entry ∈ decided trace, entry.ending = .ofDecision result
  /-- There is none exactly if all rules at the top are skipped. -/
  none_iff : decided trace = [] ↔ ∀ rule ∈ rules, rule.Skipped { environment }
  unmatched : decided trace = [] → result = .error .noRuleMatched
  /-- Behind the deepest of them are only the rules of an exhausted tree, all skipped. -/
  exhausted : ∀ deepest, (decided trace).getLast? = some deepest →
    ∃ before behind, trace = before ++ deepest :: behind ∧
      (∀ entry ∈ behind, entry.ending = .skipped) ∧
      (behind ≠ [] → result = .error .noRuleMatched) ∧
      (result = .error .noRuleMatched → ∃ rule children, at? rules deepest.path = some rule ∧
        rule.outcome = .tree children ∧
        behind.map (·.path) = (List.range children.length).map fun i => deepest.path ++ [i])
  /-- A condition fails at most at the end of the deepest entry, which ends with that failure. -/
  failures : ∀ entry ∈ trace, ∀ before record behind text,
    entry.conditions = before ++ record :: behind → record.result = .error text →
      behind = [] ∧ (decided trace).getLast? = some entry ∧ entry.ending = .failed text

theorem ofDecision_ne_skipped (result : Result Endpoint) :
    RuleEnd.ofDecision result ≠ .skipped := by
  cases result <;> simp [RuleEnd.ofDecision]

theorem decided_cons_of_skipped {entry : RuleTrace} (h : entry.ending = .skipped)
    (trace : List RuleTrace) : decided (entry :: trace) = decided trace := by
  simp [decided, h]

theorem decided_cons {entry : RuleTrace} (h : entry.ending ≠ .skipped)
    (trace : List RuleTrace) : decided (entry :: trace) = entry :: decided trace := by
  simp [decided, h]

/-- A run that is not at its end has the entry of its first rule in front. -/
theorem decided_cons_ofDecision (path : List Nat) (documentation : Option String)
    (records : List ConditionTrace) (result : Result Endpoint) (trace : List RuleTrace) :
    decided (⟨path, documentation, records, .ofDecision result⟩ :: trace) =
      ⟨path, documentation, records, .ofDecision result⟩ :: decided trace :=
  decided_cons (ofDecision_ne_skipped result) trace

theorem skipped_of_decided_nil {trace : List RuleTrace} (h : decided trace = []) :
    ∀ entry ∈ trace, entry.ending = .skipped := by
  intro entry member
  simpa using List.filter_eq_nil_iff.mp h entry member

end Rule

/-- Conditions that hold have truthy values on record. -/
theorem truthy_of_mem_heldRecords {s inner : Scope} {conditions : List Condition}
    {values : List Value} (h : AllHold s conditions values inner) :
    ∀ record ∈ heldRecords conditions values, ∃ value, record.result = .ok value ∧
      ¬ value.Falsy := by
  induction h with
  | nil s => simp [heldRecords]
  | @cons s inner c rest value values evaluates holds _ ih =>
      have split : heldRecords (c :: rest) (value :: values) =
          ConditionTrace.of c (.ok value) :: heldRecords rest values := rfl
      rw [split]
      intro record member
      rcases List.mem_cons.mp member with rfl | member
      · exact ⟨value, rfl, holds⟩
      · exact ih record member

theorem getLast?_heldRecords {s inner : Scope} {conditions : List Condition}
    {values : List Value} (h : AllHold s conditions values inner) :
    ¬ ∃ record value, (heldRecords conditions values).getLast? = some record ∧
      record.result = .ok value ∧ value.Falsy := by
  rintro ⟨record, value, last, evaluates, falsy⟩
  obtain ⟨other, evaluates', holds⟩ :=
    truthy_of_mem_heldRecords h record (List.mem_of_getLast? last)
  cases evaluates.symm.trans evaluates'
  exact holds falsy

theorem HaltsWith.getLast? {s : Scope} {conditions : List Condition} {result : Result Value}
    {records : List ConditionTrace} (h : HaltsWith s conditions result records) :
    ∃ record, records.getLast? = some record ∧ record.result = result.mapError Error.message := by
  obtain ⟨held, c, rest, values, inner, -, -, -, rfl⟩ := h
  exact ⟨_, List.getLast?_concat, rfl⟩

/-- Of the records up to a condition that does not hold only the last can be a failure. -/
theorem HaltsWith.failure {s : Scope} {conditions : List Condition} {result : Result Value}
    {records before behind : List ConditionTrace} {record : ConditionTrace} {text : String}
    (h : HaltsWith s conditions result records) (split : records = before ++ record :: behind)
    (failed : record.result = .error text) :
    behind = [] ∧ result.mapError Error.message = .error text := by
  obtain ⟨held, c, rest, values, inner, -, holds, -, rfl⟩ := h
  have ok : record ∉ heldRecords held values := by
    intro member
    obtain ⟨value, evaluates, -⟩ := truthy_of_mem_heldRecords holds record member
    cases evaluates.symm.trans failed
  rcases List.eq_nil_or_concat' behind with rfl | ⟨others, last, rfl⟩
  · cases List.singleton_inj.mp (List.append_inj' split rfl).2
    exact ⟨rfl, failed⟩
  · have front : heldRecords held values = before ++ record :: others := by
      rw [← List.cons_append, ← List.append_assoc] at split
      exact (List.append_inj' split rfl).1
    exact absurd (by simp [front]) ok

namespace Rule

section Visits

variable {s : Scope} {path : List Nat} {position : Nat} {rules : List Rule}
variable {result : Result Endpoint} {visited : List RuleTrace}

theorem Visits.skipped_iff (h : Visits s path position rules result visited) :
    ∀ entry ∈ visited, entry.ending = .skipped ↔
      ∃ record value, entry.conditions.getLast? = some record ∧ record.result = .ok value ∧
        value.Falsy := by
  induction h with
  | exhausted s path position => simp
  | @skipped _ _ _ _ _ value _ _ _ falsy halts _ ih =>
      intro entry member
      rcases List.mem_cons.mp member with rfl | member
      · obtain ⟨record, last, evaluates⟩ := halts.getLast?
        exact iff_of_true rfl ⟨record, value, last, evaluates, falsy⟩
      · exact ih entry member
  | failed rest halts =>
      intro entry member
      cases List.mem_singleton.mp member
      obtain ⟨record, last, fails⟩ := halts.getLast?
      refine iff_of_false (by simp) ?_
      rintro ⟨other, value, last', evaluates, -⟩
      cases last.symm.trans last'
      cases fails.symm.trans evaluates
  | leaf rest holds flat =>
      intro entry member
      cases List.mem_singleton.mp member
      exact iff_of_false (ofDecision_ne_skipped _) (getLast?_heldRecords holds)
  | entered rest holds tree _ ih =>
      intro entry member
      rcases List.mem_cons.mp member with rfl | member
      · exact iff_of_false (ofDecision_ne_skipped _) (getLast?_heldRecords holds)
      · exact ih entry member

theorem Visits.endings (h : Visits s path position rules result visited) :
    ∀ entry ∈ decided visited, entry.ending = .ofDecision result := by
  induction h with
  | exhausted s path position => simp [decided]
  | skipped falsy halts _ ih =>
      rw [decided_cons_of_skipped rfl]
      exact ih
  | failed rest halts | leaf rest holds flat =>
      intro entry member
      cases List.mem_singleton.mp (List.mem_of_mem_filter member)
      rfl
  | entered rest holds tree _ ih =>
      rw [decided_cons_ofDecision]
      intro entry member
      rcases List.mem_cons.mp member with rfl | member
      · rfl
      · exact ih entry member

/-- The first entry that is not skipped is on the level of the run, and each of the others is
inside the one before. -/
theorem Visits.linked (h : Visits s path position rules result visited) :
    (path :: (decided visited).map (·.path)).IsChain ParentOf := by
  induction h with
  | exhausted s path position => exact .singleton path
  | skipped falsy halts _ ih =>
      rw [decided_cons_of_skipped rfl]
      exact ih
  | @failed s path position rule e records rest halts =>
      rw [decided_cons (by simp)]
      exact List.isChain_pair.mpr ⟨position, rfl⟩
  | @leaf s inner path position rule values rest holds flat =>
      rw [decided_cons_ofDecision]
      exact List.isChain_pair.mpr ⟨position, rfl⟩
  | @entered s inner path position rule children values result visited rest holds tree _ ih =>
      rw [decided_cons_ofDecision]
      exact List.isChain_cons_cons.mpr ⟨⟨position, rfl⟩, ih⟩

theorem Visits.decided_eq_nil_iff (h : Visits s path position rules result visited) :
    decided visited = [] ↔ ∀ rule ∈ rules, rule.Skipped s := by
  induction h with
  | exhausted s path position => simp [decided]
  | @skipped s _ _ rule rest _ _ _ _ falsy halts _ ih =>
      have passed : rule.Skipped s := ⟨_, falsy, halts.halts⟩
      rw [decided_cons_of_skipped rfl, ih]
      simp [passed]
  | @failed s _ _ rule _ _ rest halts =>
      have stays := not_skips_of_fails halts.halts
      rw [decided_cons (by simp)]
      exact iff_of_false (by simp) fun all => stays (all rule (by simp))
  | @leaf s _ _ _ rule _ rest holds flat =>
      have stays := not_skips_of_allHold holds
      rw [decided_cons_ofDecision]
      exact iff_of_false (by simp) fun all => stays (all rule (by simp))
  | @entered s _ _ _ rule _ _ _ _ rest holds tree _ ih =>
      have stays := not_skips_of_allHold holds
      rw [decided_cons_ofDecision]
      exact iff_of_false (by simp) fun all => stays (all rule (by simp))

theorem Visits.unmatched (h : Visits s path position rules result visited)
    (none : decided visited = []) : result = .error .noRuleMatched := by
  rw [h.result_eq, evalAll_of_skipped (h.decided_eq_nil_iff.mp none)]

/-- A run that skips all rules has one entry for each. -/
theorem Visits.paths_of_skipped (h : Visits s path position rules result visited)
    (none : decided visited = []) :
    visited.map (·.path) = (List.range' position rules.length).map fun i => path ++ [i] := by
  induction h with
  | exhausted s path position => rfl
  | skipped falsy halts _ ih =>
      rw [decided_cons_of_skipped rfl] at none
      rw [List.map_cons, ih none]
      rfl
  | failed rest halts => simp [decided] at none
  | leaf rest holds flat | entered rest holds tree inside ih =>
      rw [decided_cons_ofDecision] at none
      cases none

/-- Behind the deepest entry that is not skipped are the rules of an exhausted tree, if any. -/
theorem Visits.exhausted_behind (h : Visits s path position rules result visited)
    {deepest : RuleTrace} (last : (decided visited).getLast? = some deepest) :
    ∃ before behind, visited = before ++ deepest :: behind ∧
      (∀ entry ∈ behind, entry.ending = .skipped) ∧
      (behind ≠ [] → result = .error .noRuleMatched) ∧
      (result = .error .noRuleMatched → ∃ index below reached rule children,
        deepest.path = path ++ (position + index) :: below ∧
        Reaches s rules (index :: below) reached rule ∧ rule.outcome = .tree children ∧
        behind.map (·.path) = (List.range children.length).map fun i => deepest.path ++ [i]) := by
  induction h with
  | exhausted s path position => simp [decided] at last
  | @skipped s path position rule rest value records result visited falsy halts _ ih =>
      have passed : rule.Skipped s := ⟨value, falsy, halts.halts⟩
      rw [decided_cons_of_skipped rfl] at last
      obtain ⟨before, behind, rfl, skipped, unmatched, exhausted⟩ := ih last
      refine ⟨_ :: before, behind, rfl, skipped, unmatched, ?_⟩
      intro none
      obtain ⟨index, below, reached, target, children, at', leads, others⟩ := exhausted none
      refine ⟨index + 1, below, reached, target, children, ?_,
        reaches_succ_iff.mpr ⟨passed, leads⟩, others⟩
      rw [at', Nat.add_assoc, Nat.add_comm 1 index]
  | failed rest halts =>
      cases List.mem_singleton.mp (List.mem_of_mem_filter (List.mem_of_getLast? last))
      refine ⟨[], [], rfl, by simp, by simp, ?_⟩
      intro unmatched
      cases unmatched
      exact absurd rfl halts.halts.ne_noRuleMatched
  | leaf rest holds flat =>
      cases List.mem_singleton.mp (List.mem_of_mem_filter (List.mem_of_getLast? last))
      refine ⟨[], [], rfl, by simp, by simp, ?_⟩
      intro unmatched
      exact absurd unmatched (conclude_ne_noRuleMatched flat)
  | @entered s inner path position rule children values result visited rest holds tree run ih =>
      have comes := comesTo_zero s rule rest
      rw [decided_cons_ofDecision] at last
      by_cases none : decided visited = []
      · rw [none, List.getLast?_singleton, Option.some.injEq] at last
        subst last
        refine ⟨[], visited, rfl, skipped_of_decided_nil none, fun _ => run.unmatched none, ?_⟩
        intro _
        refine ⟨0, [], s, rule, children, rfl, .here comes, tree, ?_⟩
        rw [run.paths_of_skipped none, List.range_eq_range']
      · rw [List.getLast?_cons_of_ne_nil none] at last
        obtain ⟨before, behind, rfl, skipped, unmatched, exhausted⟩ := ih last
        refine ⟨_ :: before, behind, rfl, skipped, unmatched, ?_⟩
        intro unmatched
        obtain ⟨index, below, reached, target, grandchildren, at', leads, others⟩ :=
          exhausted unmatched
        refine ⟨0, index :: below, reached, target, grandchildren, ?_,
          .inside comes tree holds leads, others⟩
        rw [at', Nat.zero_add, List.append_assoc]
        rfl

/-- Only the last condition of the deepest entry that is not skipped can be a failure. -/
theorem Visits.failures (h : Visits s path position rules result visited) :
    ∀ entry ∈ visited, ∀ before record behind text,
      entry.conditions = before ++ record :: behind → record.result = .error text →
        behind = [] ∧ (decided visited).getLast? = some entry ∧ entry.ending = .failed text := by
  have held {s inner : Scope} {conditions : List Condition} {values : List Value}
      (holds : AllHold s conditions values inner) {before behind : List ConditionTrace}
      {record : ConditionTrace} {text : String}
      (split : heldRecords conditions values = before ++ record :: behind)
      (failed : record.result = .error text) : False := by
    obtain ⟨value, evaluates, -⟩ := truthy_of_mem_heldRecords holds record (by simp [split])
    cases evaluates.symm.trans failed
  induction h with
  | exhausted s path position => simp
  | skipped falsy halts _ ih =>
      intro entry member before record behind text split failed
      rw [decided_cons_of_skipped rfl]
      rcases List.mem_cons.mp member with rfl | member
      · cases (halts.failure split failed).2
      · exact ih entry member before record behind text split failed
  | failed rest halts =>
      intro entry member before record behind text split failed
      cases List.mem_singleton.mp member
      obtain ⟨last, fails⟩ := halts.failure split failed
      cases fails
      refine ⟨last, ?_, rfl⟩
      rw [decided_cons (by simp)]
      rfl
  | leaf rest holds flat =>
      intro entry member before record behind text split failed
      cases List.mem_singleton.mp member
      exact (held holds split failed).elim
  | entered rest holds tree _ ih =>
      intro entry member before record behind text split failed
      rcases List.mem_cons.mp member with rfl | member
      · exact (held holds split failed).elim
      · obtain ⟨last, deepest, ends⟩ := ih entry member before record behind text split failed
        refine ⟨last, ?_, ends⟩
        rw [decided_cons_ofDecision, List.getLast?_cons, deepest]
        rfl

end Visits

theorem Visits.explains {environment : Environment} {rules : List Rule}
    {result : Result Endpoint} {visited : List RuleTrace}
    (h : Visits { environment } [] 0 rules result visited) :
    Explains environment rules result visited where
  skipped_iff := h.skipped_iff
  linked := h.linked
  endings := h.endings
  none_iff := h.decided_eq_nil_iff
  unmatched := h.unmatched
  exhausted := by
    intro deepest last
    obtain ⟨before, behind, split, skipped, unmatched, exhausted⟩ := h.exhausted_behind last
    refine ⟨before, behind, split, skipped, unmatched, ?_⟩
    intro none
    obtain ⟨index, below, reached, rule, children, at', leads, tree, others⟩ := exhausted none
    rw [List.nil_append, Nat.zero_add] at at'
    exact ⟨rule, children, at' ▸ leads.at?, tree, others⟩
  failures := h.failures

end Rule

/-- The trace of a resolution explains its result; if binding fails there is nothing to explain. -/
theorem RuleSet.resolveTraced_explains_result (ruleSet : RuleSet) (supplied : Environment) :
    match ruleSet.parameters.bind supplied with
    | .error _ => (ruleSet.resolveTraced supplied).2 = []
    | .ok environment =>
        Rule.Explains environment ruleSet.rules (ruleSet.resolveTraced supplied).1
          (ruleSet.resolveTraced supplied).2 := by
  cases bound : ruleSet.parameters.bind supplied with
  | error e =>
      rw [resolveTraced_of_unbound bound]
  | ok environment => exact (visits_resolveTraced bound).explains

end EndpointResolution
