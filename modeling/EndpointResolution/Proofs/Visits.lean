import EndpointResolution.Proofs.DecisivePath
import EndpointResolution.Proofs.Watching

/-!
Runs with a record. `Visits` says rule by rule what is recorded: a skipped rule is passed, and at
any other rule the run ends, at a tree after the run through the rules inside it. What a recorder
adds to its entries in an evaluation is what one of these runs records, and that is an entry for
each rule to which a path leads.
-/

namespace EndpointResolution

/-- The records of conditions that hold. -/
def heldRecords (conditions : List Condition) (values : List Value) : List ConditionTrace :=
  List.zipWith (fun c value => ConditionTrace.of c (.ok value)) conditions values

/-- A condition gives the result behind others that hold, and these are the records up to it. -/
def HaltsWith (s : Scope) (conditions : List Condition) (result : Result Value)
    (records : List ConditionTrace) : Prop :=
  ∃ held c rest values inner, conditions = held ++ c :: rest ∧
    AllHold s held values inner ∧ c.expr.eval inner = result ∧
    records = heldRecords held values ++ [ConditionTrace.of c result]

/-- The records of the first conditions, all of which hold, and of the one behind them, if any,
which does not. -/
inductive Recorded (s : Scope) (conditions : List Condition) : List ConditionTrace → Prop
  | all {values : List Value} {inner : Scope} (holds : AllHold s conditions values inner) :
      Recorded s conditions (heldRecords conditions values)
  | upTo {result : Result Value} {records : List ConditionTrace}
      (halts : HaltsWith s conditions result records)
      (stops : ∀ value, result = .ok value → value.Falsy) : Recorded s conditions records

theorem HaltsWith.halts {s : Scope} {conditions : List Condition} {result : Result Value}
    {records : List ConditionTrace} (h : HaltsWith s conditions result records) :
    Halts s conditions result := by
  obtain ⟨held, c, rest, values, inner, split, holds, evaluates, -⟩ := h
  exact ⟨held, c, rest, values, inner, split, holds, evaluates⟩

theorem Halts.haltsWith {s : Scope} {conditions : List Condition} {result : Result Value}
    (h : Halts s conditions result) : ∃ records, HaltsWith s conditions result records := by
  obtain ⟨held, c, rest, values, inner, split, holds, evaluates⟩ := h
  exact ⟨_, held, c, rest, values, inner, split, holds, evaluates, rfl⟩

namespace Rule

/-- The last entry gets the records of conditions that hold. -/
theorem enterWatched_append_of_allHold {s inner : Scope} {held : List Condition}
    {values : List Value} (h : AllHold s held values inner) (rest : List Condition)
    (entries : List RuleTrace) (active : List Nat) (entry : RuleTrace) :
    enterWatched Recorder.observer s (held ++ rest) (.opened entries active entry) =
      enterWatched Recorder.observer inner rest (.opened entries active
        { entry with conditions := entry.conditions ++ heldRecords held values }) := by
  induction h generalizing entry with
  | nil s => simp [heldRecords]
  | cons evaluates holds _ ih =>
      have truthy := (Value.truthy_iff _).mpr holds
      simp only [List.cons_append, enterWatched, evaluates, truthy, if_true,
        Recorder.observer_evaluate, Recorder.evaluate_opened]
      rw [ih]
      simp [heldRecords]

theorem enterWatched_of_allHold {s inner : Scope} {conditions : List Condition}
    {values : List Value} (h : AllHold s conditions values inner)
    (entries : List RuleTrace) (active : List Nat) (entry : RuleTrace) :
    enterWatched Recorder.observer s conditions (.opened entries active entry) =
      (.ok (some inner), .opened entries active
        { entry with conditions := entry.conditions ++ heldRecords conditions values }) := by
  simpa [enterWatched] using enterWatched_append_of_allHold h [] entries active entry

/-- The same up to a condition with a falsy value. -/
theorem enterWatched_of_falsy {s : Scope} {conditions : List Condition} {value : Value}
    {records : List ConditionTrace} (falsy : value.Falsy)
    (h : HaltsWith s conditions (.ok value) records)
    (entries : List RuleTrace) (active : List Nat) (entry : RuleTrace) :
    enterWatched Recorder.observer s conditions (.opened entries active entry) =
      (.ok none, .opened entries active
        { entry with conditions := entry.conditions ++ records }) := by
  obtain ⟨held, c, rest, values, inner, rfl, before, evaluates, rfl⟩ := h
  have untrue : value.truthy = false := by
    simpa [falsy] using Value.truthy_iff value
  rw [enterWatched_append_of_allHold before]
  simp [enterWatched, evaluates, untrue, Recorder.evaluate_opened]

/-- The same up to a condition that fails. -/
theorem enterWatched_of_error {s : Scope} {conditions : List Condition} {e : Error}
    {records : List ConditionTrace} (h : HaltsWith s conditions (.error e) records)
    (entries : List RuleTrace) (active : List Nat) (entry : RuleTrace) :
    enterWatched Recorder.observer s conditions (.opened entries active entry) =
      (.error e, .opened entries active
        { entry with conditions := entry.conditions ++ records }) := by
  obtain ⟨held, c, rest, values, inner, rfl, before, fails, rfl⟩ := h
  rw [enterWatched_append_of_allHold before]
  simp [enterWatched, fails, Recorder.evaluate_opened]

end Rule

/-- How a rule ends that is not skipped. -/
def RuleEnd.ofDecision : Result Endpoint → RuleEnd
  | .ok _ => .resolved
  | .error e => .failed e.message

theorem RuleEnd.ofResult_some (result : Result Endpoint) :
    ofResult (result.map some) = ofDecision result := by
  cases result <;> rfl

namespace Rule

/-- A run through rules from a position on under a path, its result and what it records. -/
inductive Visits : Scope → List Nat → Nat → List Rule → Result Endpoint → List RuleTrace → Prop
  | exhausted (s : Scope) (path : List Nat) (position : Nat) :
      Visits s path position [] (.error .noRuleMatched) []
  | skipped {s : Scope} {path : List Nat} {position : Nat} {rule : Rule} {rest : List Rule}
      {value : Value} {records : List ConditionTrace} {result : Result Endpoint}
      {visited : List RuleTrace} (falsy : value.Falsy)
      (halts : HaltsWith s rule.conditions (.ok value) records)
      (behind : Visits s path (position + 1) rest result visited) :
      Visits s path position (rule :: rest) result
        (⟨path ++ [position], rule.documentation, records, .skipped⟩ :: visited)
  | failed {s : Scope} {path : List Nat} {position : Nat} {rule : Rule} {e : Error}
      {records : List ConditionTrace} (rest : List Rule)
      (halts : HaltsWith s rule.conditions (.error e) records) :
      Visits s path position (rule :: rest) (.error e)
        [⟨path ++ [position], rule.documentation, records, .failed e.message⟩]
  | leaf {s inner : Scope} {path : List Nat} {position : Nat} {rule : Rule}
      {values : List Value} (rest : List Rule)
      (holds : AllHold s rule.conditions values inner)
      (flat : ∀ children, rule.outcome ≠ .tree children) :
      Visits s path position (rule :: rest) (conclude inner rule.outcome)
        [⟨path ++ [position], rule.documentation, heldRecords rule.conditions values,
          .ofDecision (conclude inner rule.outcome)⟩]
  | entered {s inner : Scope} {path : List Nat} {position : Nat} {rule : Rule}
      {children : List Rule} {values : List Value} {result : Result Endpoint}
      {visited : List RuleTrace} (rest : List Rule)
      (holds : AllHold s rule.conditions values inner) (tree : rule.outcome = .tree children)
      (inside : Visits inner (path ++ [position]) 0 children result visited) :
      Visits s path position (rule :: rest) result
        (⟨path ++ [position], rule.documentation, heldRecords rule.conditions values,
          .ofDecision result⟩ :: visited)

section Recorder

variable {s inner : Scope} {path : List Nat} {rule : Rule} {values : List Value}
variable {records : List ConditionTrace} {r : Recorder}

/-- A recorder passes a skipped rule with one more entry. -/
theorem evalAllWatched_of_falsy (at' : r.At path) {value : Value} (falsy : value.Falsy)
    (halts : HaltsWith s rule.conditions (.ok value) records) (position : Nat)
    (rest : List Rule) :
    evalAllWatched Recorder.observer s position (rule :: rest) r =
      evalAllWatched Recorder.observer s (position + 1) rest { r with entries := r.entries ++
        [⟨path ++ [position], rule.documentation, records, .skipped⟩] } := by
  rw [evalAllWatched_cons, Recorder.observer_enter, Recorder.enter_eq at',
    enterWatched_of_falsy falsy halts]
  dsimp only
  rw [Recorder.observer_leave, Recorder.leave_opened,
    List.nil_append]
  rfl

theorem evalAllWatched_of_error (at' : r.At path) {e : Error}
    (halts : HaltsWith s rule.conditions (.error e) records) (position : Nat)
    (rest : List Rule) :
    evalAllWatched Recorder.observer s position (rule :: rest) r =
      (.error e, { r with entries := r.entries ++
        [⟨path ++ [position], rule.documentation, records, .failed e.message⟩] }) := by
  rw [evalAllWatched_cons, Recorder.observer_enter, Recorder.enter_eq at',
    enterWatched_of_error halts]
  dsimp only
  rw [Recorder.observer_leave, Recorder.leave_opened,
    List.nil_append]
  rfl

theorem evalAllWatched_of_flat (at' : r.At path)
    (holds : AllHold s rule.conditions values inner)
    (flat : ∀ children, rule.outcome ≠ .tree children) (position : Nat) (rest : List Rule) :
    evalAllWatched Recorder.observer s position (rule :: rest) r =
      (conclude inner rule.outcome, { r with entries := r.entries ++
        [⟨path ++ [position], rule.documentation, heldRecords rule.conditions values,
          .ofDecision (conclude inner rule.outcome)⟩] }) := by
  rw [evalAllWatched_cons, Recorder.observer_enter, Recorder.enter_eq at',
    enterWatched_of_allHold holds]
  dsimp only
  rw [concludeWatched_of_flat _ _ _ flat]
  dsimp only
  rw [Recorder.observer_leave, Recorder.leave_opened,
    List.nil_append, RuleEnd.ofResult_some]

/-- At a tree the rules inside see the tree as the innermost rule that has not been left. -/
theorem evalAllWatched_of_tree (at' : r.At path)
    (holds : AllHold s rule.conditions values inner) {children : List Rule}
    (tree : rule.outcome = .tree children) {result : Result Endpoint} {visited : List RuleTrace}
    {position : Nat} (rest : List Rule)
    (inside : ∀ r' : Recorder, r'.At (path ++ [position]) →
      evalAllWatched Recorder.observer inner 0 children r' =
        (result, { r' with entries := r'.entries ++ visited })) :
    evalAllWatched Recorder.observer s position (rule :: rest) r =
      (result, { r with entries := r.entries ++
        ⟨path ++ [position], rule.documentation, heldRecords rule.conditions values,
          .ofDecision result⟩ :: visited }) := by
  rw [evalAllWatched_cons, Recorder.observer_enter, Recorder.enter_eq at',
    enterWatched_of_allHold holds]
  dsimp only
  rw [tree, concludeWatched, inside _ (Recorder.at_opened ..)]
  dsimp only
  rw [Recorder.observer_leave, Recorder.leave_tree,
    List.nil_append, RuleEnd.ofResult_some]

end Recorder

/-- Every evaluation is a run, and a recorder adds to its entries what the run records. The rules
around are again the ones that have not been left. -/
theorem exists_visits (rules : List Rule) : ∀ s path position,
    ∃ result visited, Visits s path position rules result visited ∧
      ∀ r : Recorder, r.At path →
        evalAllWatched Recorder.observer s position rules r =
          (result, { r with entries := r.entries ++ visited }) := by
  induction rules using nested_induction with
  | nil =>
      intro s path position
      refine ⟨_, _, .exhausted s path position, ?_⟩
      intro r _
      rw [List.append_nil]
      rfl
  | cons rule rest inside ih =>
      intro s path position
      rcases conditions_cases rule.conditions s with
        ⟨values, inner, holds⟩ | ⟨value, falsy, halts⟩ | ⟨e, fails⟩
      · by_cases flat : ∀ children, rule.outcome ≠ .tree children
        · exact ⟨_, _, .leaf rest holds flat,
            fun r at' => evalAllWatched_of_flat at' holds flat position rest⟩
        · obtain ⟨children, tree⟩ : ∃ children, rule.outcome = .tree children := by
            simpa using flat
          obtain ⟨result, visited, within, runs⟩ :=
            inside children tree inner (path ++ [position]) 0
          exact ⟨_, _, .entered rest holds tree within,
            fun r at' => evalAllWatched_of_tree at' holds tree rest runs⟩
      · obtain ⟨records, halts⟩ := halts.haltsWith
        obtain ⟨result, visited, behind, runs⟩ := ih s path (position + 1)
        refine ⟨_, _, .skipped falsy halts behind, ?_⟩
        intro r at'
        rw [evalAllWatched_of_falsy at' falsy halts, runs _ (at'.append _)]
        simp
      · obtain ⟨records, halts⟩ := fails.haltsWith
        exact ⟨_, _, .failed rest halts,
          fun r at' => evalAllWatched_of_error at' halts position rest⟩

end Rule

namespace RuleSet

theorem resolveTraced_of_unbound {ruleSet : RuleSet} {supplied : Environment} {e : Error}
    (unbound : ruleSet.parameters.bind supplied = .error e) :
    ruleSet.resolveTraced supplied = (.error e, []) := by
  simp only [resolveTraced, resolveWatched, unbound]

/-- The trace of a resolution is what a run records through all its rules. -/
theorem visits_resolveTraced {ruleSet : RuleSet} {supplied environment : Environment}
    (bound : ruleSet.parameters.bind supplied = .ok environment) :
    Rule.Visits { environment } [] 0 ruleSet.rules (ruleSet.resolveTraced supplied).1
      (ruleSet.resolveTraced supplied).2 := by
  obtain ⟨result, visited, run, records⟩ :=
    Rule.exists_visits ruleSet.rules { environment } [] 0
  have traced : ruleSet.resolveTraced supplied = (result, visited) := by
    simp only [resolveTraced, resolveWatched, bound, records _ Recorder.at_empty, List.nil_append]
  rw [traced]
  exact run

end RuleSet

namespace Rule

/-- A run has the result of the evaluation without a record. -/
theorem Visits.result_eq {s : Scope} {path : List Nat} {position : Nat} {rules : List Rule}
    {result : Result Endpoint} {visited : List RuleTrace}
    (h : Visits s path position rules result visited) : result = evalAll s rules := by
  induction h with
  | exhausted s path position => rfl
  | skipped falsy halts _ ih => rw [evalAll_cons_of_skipped ⟨_, falsy, halts.halts⟩, ih]
  | failed rest halts => rw [evalAll_cons_of_fails halts.halts]
  | leaf rest holds _ => rw [evalAll_cons_of_allHold holds]
  | entered rest holds tree _ ih => rw [evalAll_cons_of_allHold holds, tree, conclude, ih]

theorem recorded_of_skips {s : Scope} {conditions : List Condition} {value : Value}
    {records : List ConditionTrace} (falsy : value.Falsy)
    (halts : HaltsWith s conditions (.ok value) records) : Recorded s conditions records := by
  refine .upTo halts ?_
  rintro other ⟨⟩
  exact falsy

theorem recorded_of_fails {s : Scope} {conditions : List Condition} {e : Error}
    {records : List ConditionTrace} (halts : HaltsWith s conditions (.error e) records) :
    Recorded s conditions records :=
  .upTo halts (by simp)

/-- Every entry is about a rule to which a path leads, in the scope in force there. -/
theorem Visits.reaches {s : Scope} {path : List Nat} {position : Nat} {rules : List Rule}
    {result : Result Endpoint} {visited : List RuleTrace}
    (h : Visits s path position rules result visited) :
    ∀ entry ∈ visited, ∃ index below reached rule,
      entry.path = path ++ (position + index) :: below ∧
      Reaches s rules (index :: below) reached rule ∧
      entry.documentation = rule.documentation ∧
      Recorded reached rule.conditions entry.conditions := by
  induction h with
  | exhausted s path position => simp
  | @skipped s path position rule rest value records result visited falsy halts _ ih =>
      have passed : rule.Skipped s := ⟨value, falsy, halts.halts⟩
      intro entry member
      rcases List.mem_cons.mp member with rfl | member
      · exact ⟨0, [], s, rule, rfl, .here (comesTo_zero s rule rest), rfl,
          recorded_of_skips falsy halts⟩
      · obtain ⟨index, below, reached, target, at', leads, others⟩ := ih entry member
        refine ⟨index + 1, below, reached, target, ?_, reaches_succ_iff.mpr ⟨passed, leads⟩, others⟩
        rw [at', Nat.add_assoc, Nat.add_comm 1 index]
  | @failed s path position rule e records rest halts =>
      intro entry member
      cases List.mem_singleton.mp member
      exact ⟨0, [], s, rule, rfl, .here (comesTo_zero s rule rest), rfl, recorded_of_fails halts⟩
  | @leaf s inner path position rule values rest holds flat =>
      intro entry member
      cases List.mem_singleton.mp member
      exact ⟨0, [], s, rule, rfl, .here (comesTo_zero s rule rest), rfl, .all holds⟩
  | @entered s inner path position rule children values result visited rest holds tree _ ih =>
      have comes := comesTo_zero s rule rest
      intro entry member
      rcases List.mem_cons.mp member with rfl | member
      · exact ⟨0, [], s, rule, rfl, .here comes, rfl, .all holds⟩
      · obtain ⟨index, below, reached, target, at', leads, others⟩ := ih entry member
        refine ⟨0, index :: below, reached, target, ?_, .inside comes tree holds leads, others⟩
        rw [at', Nat.zero_add, List.append_assoc]
        rfl

end Rule

end EndpointResolution
