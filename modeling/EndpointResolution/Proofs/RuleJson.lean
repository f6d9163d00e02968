import EndpointResolution.Proofs.EndpointJson

/-!
Rules through JSON and back. A rule is written as an object by its kind, whatever structure it has
been read from.
-/

namespace EndpointResolution

namespace Rule

/-- The members of a rule by its kind and the member that holds its outcome. -/
def members (kind : String) (conditions : List Condition) (outcome : String × Json)
    (documentation : Option String) : List (String × Json) :=
  [("type", .string kind)] ++
    Parameter.optionalMember "conditions"
      (Json.array (conditions.map Condition.toJson)).filled? ++
    [outcome] ++
    Parameter.optionalMember "documentation" (documentation.map .string)

mutual

def toJson : Rule → Json
  | ⟨conditions, .endpoint template, documentation⟩ =>
      .object (members "endpoint" conditions ("endpoint", template.toJson) documentation)
  | ⟨conditions, .error message, documentation⟩ =>
      .object (members "error" conditions ("error", message.toJson) documentation)
  | ⟨conditions, .tree rules, documentation⟩ =>
      .object (members "tree" conditions ("rules", .array (toJsons rules)) documentation)

def toJsons : List Rule → List Json
  | [] => []
  | rule :: rest => rule.toJson :: toJsons rest

end

mutual

def Loadable : Rule → Prop
  | ⟨conditions, .endpoint template, _⟩ =>
      (∀ c ∈ conditions, c.Loadable) ∧ template.Loadable
  | ⟨conditions, .error message, _⟩ => (∀ c ∈ conditions, c.Loadable) ∧ message.Loadable
  | ⟨conditions, .tree rules, _⟩ => (∀ c ∈ conditions, c.Loadable) ∧ AllLoadable rules

def AllLoadable : List Rule → Prop
  | [] => True
  | rule :: rest => rule.Loadable ∧ AllLoadable rest

end

end Rule

namespace Document

theorem compileClauses_cons_eq_ok_iff {clause : Clause} {rest : List Clause}
    {conditions : List Condition} :
    compileClauses (clause :: rest) = .ok conditions ↔
      ∃ c others, clause.compile = .ok c ∧ compileClauses rest = .ok others ∧
        conditions = c :: others := by
  rw [compileClauses]
  exact Result.both_eq_ok_iff

theorem compileClauses_eq_mapM (clauses : List Clause) :
    compileClauses clauses = clauses.mapM Clause.compile := by
  induction clauses with
  | nil => rfl
  | cons clause rest ih => rw [compileClauses, ih, List.mapM_cons]

namespace Entry

theorem compile_endpoint_eq_ok_iff {clauses : List Clause} {target : Target}
    {documentation : Option String} {rule : Rule} :
    (endpoint clauses target documentation).compile = .ok rule ↔
      ∃ template conditions, target.compile = .ok template ∧
        compileClauses clauses = .ok conditions ∧
        rule = ⟨conditions, .endpoint template, documentation⟩ := by
  simp [compile, Result.bind_eq_ok_iff, pure, Except.pure, @eq_comm _ rule]

theorem compile_error_eq_ok_iff {clauses : List Clause} {message : Term}
    {documentation : Option String} {rule : Rule} :
    (error clauses message documentation).compile = .ok rule ↔
      ∃ expr conditions, message.compile = .ok expr ∧ compileClauses clauses = .ok conditions ∧
        rule = ⟨conditions, .error expr, documentation⟩ := by
  simp [compile, Result.bind_eq_ok_iff, pure, Except.pure, @eq_comm _ rule]

theorem compile_tree_eq_ok_iff {clauses : List Clause} {entries : List Entry}
    {documentation : Option String} {rule : Rule} :
    (tree clauses entries documentation).compile = .ok rule ↔
      ∃ rules conditions, compileAll entries = .ok rules ∧ compileClauses clauses = .ok conditions ∧
        rule = ⟨conditions, .tree rules, documentation⟩ := by
  simp [compile, Result.bind_eq_ok_iff, pure, Except.pure, @eq_comm _ rule]

/-- What a rule is read from: its conditions and its outcome stand in the body, except that the
rules of a tree are handed in. -/
theorem build?_cases {inTree : Bool} {tag body : Json} {inner : List (Option (List Entry))}
    {entry : Entry} (h : build? inTree tag body inner = some entry) :
    ∃ given clauses documentation, conditions? given = some clauses ∧
      (∀ whole, given = some whole → whole ∈ body.parts) ∧
      ((∃ part ∈ body.parts, ∃ target, Target.ofJson? part = some target ∧
          entry = .endpoint clauses target documentation) ∨
        (∃ part ∈ body.parts, ∃ message, Term.ofJson? part = some message ∧
          entry = .error clauses message documentation) ∨
        ∃ rules, some rules ∈ inner ∧ entry = .tree clauses rules documentation) := by
  simp only [build?, Option.bind_eq_bind, Option.bind_eq_some_iff] at h
  obtain ⟨kind, -, h⟩ := h
  cases kind with
  | endpoint =>
      simp only [Option.bind_eq_some_iff] at h
      obtain ⟨members, inside, read⟩ := h
      split at read
      · next given _ _ =>
          simp only [Option.bind_eq_some_iff, Option.pure_def, Option.some.injEq] at read
          obtain ⟨clauses, own, part, rfl, target, value, documentation, -, rfl⟩ := read
          refine ⟨given, clauses, documentation, own, ?_, .inl ⟨part, ?_, target, value, rfl⟩⟩
          · exact fun whole own => Json.mem_parts_of_members? inside (by simp [own])
          · exact Json.mem_parts_of_members? inside (by simp)
      · cases read
  | error =>
      simp only [Option.bind_eq_some_iff] at h
      obtain ⟨members, inside, read⟩ := h
      split at read
      · next given _ _ =>
          simp only [Option.bind_eq_some_iff, Option.pure_def, Option.some.injEq] at read
          obtain ⟨clauses, own, part, rfl, message, value, documentation, -, rfl⟩ := read
          refine ⟨given, clauses, documentation, own, ?_,
            .inr (.inl ⟨part, ?_, message, value, rfl⟩)⟩
          · exact fun whole own => Json.mem_parts_of_members? inside (by simp [own])
          · exact Json.mem_parts_of_members? inside (by simp)
      · cases read
  | tree =>
      simp only [Option.bind_eq_some_iff] at h
      obtain ⟨members, inside, read⟩ := h
      split at read
      · next given _ _ =>
          split at read
          · simp only [Option.bind_eq_some_iff, Option.pure_def, Option.some.injEq] at read
            obtain ⟨clauses, own, rules, rfl, documentation, -, rfl⟩ := read
            refine ⟨given, clauses, documentation, own, ?_,
              .inr (.inr ⟨rules, List.mem_singleton_self _, rfl⟩)⟩
            exact fun whole own => Json.mem_parts_of_members? inside (by simp [own])
          · cases read
      · cases read

theorem compileAll_cons_eq_ok_iff {entry : Entry} {rest : List Entry} {rules : List Rule} :
    compileAll (entry :: rest) = .ok rules ↔
      ∃ rule others, entry.compile = .ok rule ∧ compileAll rest = .ok others ∧
        rules = rule :: others := by
  rw [compileAll]
  exact Result.both_eq_ok_iff

theorem compileAll_eq_mapM (entries : List Entry) : compileAll entries = entries.mapM compile := by
  induction entries with
  | nil => rfl
  | cons entry rest ih => rw [compileAll, ih, List.mapM_cons]

theorem ofJsons?_eq_mapM (inTree : Bool) (items : List Json) :
    ofJsons? inTree items = items.mapM (ofJson? inTree) := by
  induction items with
  | nil => rfl
  | cons item rest ih =>
      rw [ofJsons?, ih, List.mapM_cons]
      cases ofJson? inTree item with
      | none => rfl
      | some entry => cases rest.mapM (ofJson? inTree) <;> rfl

theorem exists_rules_of_mem_innerRules {members : List (String × Json)} {entries : List Entry}
    (h : some entries ∈ innerRules members) :
    ∃ items, Json.array items ∈ (Json.object members).parts ∧
      ofJsons? true items = some entries := by
  induction members with
  | nil => simp [innerRules] at h
  | cons member rest ih =>
      have later (there : some entries ∈ innerRules rest) :
          ∃ items, Json.array items ∈ (Json.object (member :: rest)).parts ∧
            ofJsons? true items = some entries := by
        obtain ⟨items, inside, read⟩ := ih there
        exact ⟨items, List.mem_cons_of_mem _ inside, read⟩
      obtain ⟨name, json⟩ := member
      cases json with
      | array items =>
          rw [innerRules] at h
          split at h
          · rcases List.mem_cons.mp h with own | there
            · exact ⟨items, List.mem_cons_self, own.symm⟩
            · exact later there
          · exact later h
      | null | boolean _ | integer _ | decimal _ | string _ | object _ | unreadable =>
          simp only [innerRules] at h
          split at h
          · exact later (by simpa using h)
          · exact later h

/-- A rule is read by its type, and the rules inside it from an array that stands inside it. -/
theorem ofJson?_cases {inTree : Bool} {json : Json} {entry : Entry}
    (h : ofJson? inTree json = some entry) :
    ∃ tag body inner, build? inTree tag body inner = some entry ∧
      (∀ part ∈ body.parts, part ∈ json.parts) ∧
      ∀ entries, some entries ∈ inner →
        ∃ items, Json.array items ∈ json.parts ∧ ofJsons? true items = some entries := by
  match json with
  | .object members =>
      rw [ofJson?] at h
      split at h
      · exact ⟨_, _, _, h, fun _ => id, fun _ => exists_rules_of_mem_innerRules⟩
      · cases h
  | .array items =>
      rw [ofJson?.eq_def] at h
      split at h
      · next eq => cases eq
      · next tag conditions rules rest eq =>
          cases eq
          refine ⟨_, _, _, h, fun _ => List.mem_cons_of_mem _, fun entries inner => ?_⟩
          exact ⟨rules, by simp [Json.parts], (List.mem_singleton.mp inner).symm⟩
      · next eq =>
          cases eq
          exact ⟨_, _, _, h, fun _ => List.mem_cons_of_mem _, fun _ inner => by cases inner⟩
      · cases h
  | .null | .boolean _ | .integer _ | .decimal _ | .string _ | .unreadable => cases h

end Entry

end Document

namespace Rule

open Document

theorem exists_clauses_of_loadable {conditions : List Condition}
    (h : ∀ c ∈ conditions, c.Loadable) :
    ∃ clauses,
      Entry.conditions? (Json.array (conditions.map Condition.toJson)).filled? = some clauses ∧
        compileClauses clauses = .ok conditions := by
  simp only [Entry.conditions?, Json.withDefault?_filled?_array]
  induction conditions with
  | nil => exact ⟨[], rfl, rfl⟩
  | cons c rest ih =>
      rw [List.forall_mem_cons] at h
      obtain ⟨clause, read, compiled⟩ := Condition.exists_clause_of_loadable h.1
      obtain ⟨clauses, others, behind⟩ := ih h.2
      exact ⟨clause :: clauses, Json.mapM_cons_eq_some_iff.mpr ⟨clause, clauses, read, others, rfl⟩,
        compileClauses_cons_eq_ok_iff.mpr ⟨c, rest, compiled, behind, rfl⟩⟩

theorem members?_members (kind : String) (conditions : List Condition) {key : String}
    (outcome : Json) (documentation : Option String)
    (known : key = "endpoint" ∨ key = "error" ∨ key = "rules") :
    (Json.object (members kind conditions (key, outcome) documentation)).members?
        ["conditions", key, "documentation"] =
      some [(Json.array (conditions.map Condition.toJson)).filled?, some outcome,
        documentation.map .string] := by
  rcases known with rfl | rfl | rfl <;>
    cases filled : (Json.array (conditions.map Condition.toJson)).filled? <;>
    cases documentation <;>
    simp [members, filled, Parameter.optionalMember, Json.members?, Json.member?,
      Json.occurrences]

theorem occurrences_type_members (kind : String) (conditions : List Condition)
    {outcome : String × Json} (documentation : Option String) (other : outcome.1 ≠ "type") :
    Json.occurrences "type" (members kind conditions outcome documentation) = [.string kind] := by
  cases filled : (Json.array (conditions.map Condition.toJson)).filled? <;>
    cases documentation <;>
    simp [members, filled, other, Parameter.optionalMember, Json.occurrences]

theorem innerRules_members (kind : String) (conditions : List Condition) (items : List Json)
    (documentation : Option String) :
    Entry.innerRules (members kind conditions ("rules", .array items) documentation) =
      [Entry.ofJsons? true items] := by
  cases filled : (Json.array (conditions.map Condition.toJson)).filled? with
  | none =>
      cases documentation <;> simp [members, filled, Parameter.optionalMember, Entry.innerRules]
  | some written =>
      obtain ⟨rfl, -⟩ := Json.filled?_eq_some_iff.mp filled
      cases documentation <;> simp [members, filled, Parameter.optionalMember, Entry.innerRules]

/-- A rule that is written by its kind is read as one of that kind. -/
theorem ofJson?_members (inTree : Bool) (kind : String) (conditions : List Condition)
    {outcome : String × Json} (documentation : Option String) (other : outcome.1 ≠ "type") :
    Entry.ofJson? inTree (.object (members kind conditions outcome documentation)) =
      Entry.build? inTree (.string kind) (.object (members kind conditions outcome documentation))
        (Entry.innerRules (members kind conditions outcome documentation)) := by
  rw [Entry.ofJson?, occurrences_type_members kind conditions documentation other]

mutual

/-- A rule that a document can give is read back from its JSON form. -/
theorem exists_entry_of_loadable (inTree : Bool) (rule : Rule) (h : rule.Loadable) :
    ∃ entry, Entry.ofJson? inTree rule.toJson = some entry ∧ entry.compile = .ok rule := by
  match rule with
  | ⟨conditions, .endpoint template, documentation⟩ =>
      obtain ⟨clauses, read, compiled⟩ := exists_clauses_of_loadable h.1
      obtain ⟨target, readTarget, compiledTarget⟩ := EndpointTemplate.exists_target_of_loadable h.2
      refine ⟨.endpoint clauses target documentation, ?_, Entry.compile_endpoint_eq_ok_iff.mpr
        ⟨template, conditions, compiledTarget, compiled, rfl⟩⟩
      rw [toJson, ofJson?_members _ _ _ _ (by simp)]
      simp [Entry.build?, Entry.Tag.ofJson?, members?_members, read, readTarget,
        Parameter.optional?_text]
  | ⟨conditions, .error message, documentation⟩ =>
      obtain ⟨clauses, read, compiled⟩ := exists_clauses_of_loadable h.1
      obtain ⟨term, readTerm, compiledTerm⟩ := message.exists_term_of_loadable h.2
      refine ⟨.error clauses term documentation, ?_, Entry.compile_error_eq_ok_iff.mpr
        ⟨message, conditions, compiledTerm, compiled, rfl⟩⟩
      rw [toJson, ofJson?_members _ _ _ _ (by simp)]
      simp [Entry.build?, Entry.Tag.ofJson?, members?_members, read, readTerm,
        Parameter.optional?_text]
  | ⟨conditions, .tree rules, documentation⟩ =>
      obtain ⟨clauses, read, compiled⟩ := exists_clauses_of_loadable h.1
      obtain ⟨entries, readEntries, compiledEntries⟩ :=
        exists_entries_of_allLoadable true rules h.2
      refine ⟨.tree clauses entries documentation, ?_, Entry.compile_tree_eq_ok_iff.mpr
        ⟨rules, conditions, compiledEntries, compiled, rfl⟩⟩
      rw [toJson, ofJson?_members _ _ _ _ (by simp), innerRules_members, readEntries]
      simp [Entry.build?, Entry.Tag.ofJson?, members?_members, read, Parameter.optional?_text]

theorem exists_entries_of_allLoadable (inTree : Bool) (rules : List Rule) (h : AllLoadable rules) :
    ∃ entries, Entry.ofJsons? inTree (toJsons rules) = some entries ∧
      Entry.compileAll entries = .ok rules := by
  match rules with
  | [] => exact ⟨[], rfl, rfl⟩
  | rule :: rest =>
      obtain ⟨entry, own, compiled⟩ := exists_entry_of_loadable inTree rule h.1
      obtain ⟨entries, others, behind⟩ := exists_entries_of_allLoadable inTree rest h.2
      exact ⟨entry :: entries, by simp [toJsons, Entry.ofJsons?, own, others],
        Entry.compileAll_cons_eq_ok_iff.mpr ⟨rule, rest, compiled, behind, rfl⟩⟩

end

theorem allLoadable_iff {rules : List Rule} :
    AllLoadable rules ↔ ∀ rule ∈ rules, rule.Loadable := by
  induction rules with
  | nil => simp [AllLoadable]
  | cons rule rest ih => simp [AllLoadable, ih]

theorem toJsons_eq_map (rules : List Rule) : toJsons rules = rules.map toJson := by
  induction rules with
  | nil => rfl
  | cons rule rest ih => rw [toJsons, ih, List.map_cons]

/-- Beside its conditions and its outcome, texts stand in a rule. -/
theorem mem_parts_members {kind : String} {conditions : List Condition} {outcome : String × Json}
    {documentation : Option String} {part : Json}
    (h : part ∈ (Json.object (members kind conditions outcome documentation)).parts) :
    (part.depth = 0 ∧ part.Writable) ∨
      (Json.array (conditions.map Condition.toJson)).filled? = some part ∨ part = outcome.2 := by
  simp only [members, Json.parts, List.map_append, List.mem_append] at h
  rcases h with ((kind | conditions) | own) | documentation
  · cases List.mem_singleton.mp kind
    exact .inl ⟨rfl, trivial⟩
  · exact .inr (.inl (Parameter.eq_some_of_mem_optionalMember conditions))
  · exact .inr (.inr (List.mem_singleton.mp own))
  · obtain ⟨_, -, rfl⟩ :=
      Option.map_eq_some_iff.mp (Parameter.eq_some_of_mem_optionalMember documentation)
    exact .inl ⟨rfl, trivial⟩

theorem depth_members_le {kind : String} {conditions : List Condition} {outcome : String × Json}
    {documentation : Option String} {levels : Nat}
    (shallow : ∀ c ∈ conditions, c.toJson.depth + 1 < levels) (h : outcome.2.depth < levels) :
    (Json.object (members kind conditions outcome documentation)).depth ≤ levels := by
  refine Json.depth_le_of_parts (Nat.zero_lt_of_lt h) fun part inside => ?_
  rcases mem_parts_members inside with ⟨flat, -⟩ | written | rfl
  · rw [flat]
    exact Nat.zero_lt_of_lt h
  · refine Json.depth_lt_of_filled? written fun own present => ?_
    obtain ⟨c, member, rfl⟩ := List.mem_map.mp present
    exact shallow c member
  · exact h

theorem loadable_of_conditions? {json : Json} (single : json.NoRepeats) {given : Option Json}
    (inside : ∀ whole, given = some whole → whole ∈ json.parts) {clauses : List Clause}
    (read : Entry.conditions? given = some clauses) {conditions : List Condition}
    (compiled : compileClauses clauses = .ok conditions) {c : Condition} (member : c ∈ conditions) :
    c.Loadable ∧ c.toJson.depth + 1 < json.depth := by
  rw [compileClauses_eq_mapM] at compiled
  obtain ⟨clause, present, own⟩ := Result.exists_of_mem_mapM compiled member
  obtain ⟨whole, rfl, part, there, value⟩ := Json.exists_of_mem_withDefault?_listOf? read present
  have around := inside whole rfl
  obtain ⟨loadable, shallow⟩ := Condition.loadable_of_clause
    ((single.of_mem_parts around).of_mem_parts there) value own
  have below := Json.depth_lt_of_mem_parts there
  have above := Json.depth_lt_of_mem_parts around
  exact ⟨loadable, by omega⟩

/-- The body is the document itself, or what follows the type in an array. -/
theorem loadable_of_build? {json : Json} (single : json.NoRepeats) {inTree : Bool} {tag body : Json}
    (within : ∀ part ∈ body.parts, part ∈ json.parts) {inner : List (Option (List Entry))}
    (rules : ∀ entries, some entries ∈ inner → ∀ rules, Entry.compileAll entries = .ok rules →
      AllLoadable rules ∧ (Json.array (toJsons rules)).depth < json.depth)
    {entry : Entry} (read : Entry.build? inTree tag body inner = some entry) {rule : Rule}
    (compiled : entry.compile = .ok rule) : rule.Loadable ∧ rule.toJson.depth ≤ json.depth := by
  obtain ⟨given, clauses, documentation, own, inside, outcome⟩ := Entry.build?_cases read
  have condition {conditions : List Condition} (all : compileClauses clauses = .ok conditions)
      (c : Condition) (member : c ∈ conditions) :=
    loadable_of_conditions? single (fun whole given => within whole (inside whole given)) own all
      member
  rcases outcome with ⟨part, present, target, value, rfl⟩ | ⟨part, present, message, value, rfl⟩ |
    ⟨entries, present, rfl⟩
  · obtain ⟨template, conditions, compiledTarget, all, rfl⟩ :=
      Entry.compile_endpoint_eq_ok_iff.mp compiled
    have there := within part present
    obtain ⟨loadable, shallow⟩ :=
      EndpointTemplate.loadable_of_target (single.of_mem_parts there) value compiledTarget
    exact ⟨⟨fun c member => (condition all c member).1, loadable⟩,
      depth_members_le (fun c member => (condition all c member).2)
        (Nat.lt_of_le_of_lt shallow (Json.depth_lt_of_mem_parts there))⟩
  · obtain ⟨expr, conditions, compiledMessage, all, rfl⟩ :=
      Entry.compile_error_eq_ok_iff.mp compiled
    have there := within part present
    obtain ⟨loadable, shallow⟩ :=
      Term.loadable_of_ofJson? part (single.of_mem_parts there) value compiledMessage
    exact ⟨⟨fun c member => (condition all c member).1, loadable⟩,
      depth_members_le (fun c member => (condition all c member).2)
        (Nat.lt_of_le_of_lt shallow (Json.depth_lt_of_mem_parts there))⟩
  · obtain ⟨others, conditions, compiledRules, all, rfl⟩ :=
      Entry.compile_tree_eq_ok_iff.mp compiled
    obtain ⟨loadable, shallow⟩ := rules entries present others compiledRules
    exact ⟨⟨fun c member => (condition all c member).1, loadable⟩,
      depth_members_le (fun c member => (condition all c member).2) shallow⟩

/-- What holds of the rules one by one holds of the list. -/
theorem loadable_of_ofJsons? {inTree : Bool} {items : List Json}
    (each : ∀ item ∈ items, ∀ entry, Entry.ofJson? inTree item = some entry → ∀ rule,
      entry.compile = .ok rule → rule.Loadable ∧ rule.toJson.depth ≤ item.depth)
    {entries : List Entry} (read : Entry.ofJsons? inTree items = some entries) {rules : List Rule}
    (compiled : Entry.compileAll entries = .ok rules) :
    AllLoadable rules ∧ (Json.array (toJsons rules)).depth ≤ (Json.array items).depth := by
  have source (rule : Rule) (member : rule ∈ rules) :
      ∃ item ∈ items, rule.Loadable ∧ rule.toJson.depth ≤ item.depth := by
    rw [Entry.compileAll_eq_mapM] at compiled
    rw [Entry.ofJsons?_eq_mapM] at read
    obtain ⟨entry, present, own⟩ := Result.exists_of_mem_mapM compiled member
    obtain ⟨item, listed, value⟩ := Json.exists_of_mem_mapM read present
    exact ⟨item, listed, each item listed entry value rule own⟩
  constructor
  · refine allLoadable_iff.mpr fun rule member => ?_
    obtain ⟨_, -, loadable, -⟩ := source rule member
    exact loadable
  · rw [toJsons_eq_map]
    refine Json.depth_le_of_parts (Nat.succ_pos _) fun part written => ?_
    obtain ⟨rule, member, rfl⟩ := List.mem_map.mp written
    obtain ⟨item, listed, -, shallow⟩ := source rule member
    exact Nat.lt_of_le_of_lt shallow (Json.depth_lt_of_mem_parts listed)

/-- A rule that is read from a document without repeated names is one that a document can give, and
it is written without nesting deeper. -/
theorem loadable_of_ofJson? (json : Json) (single : json.NoRepeats) {inTree : Bool} {entry : Entry}
    (read : Entry.ofJson? inTree json = some entry) {rule : Rule}
    (compiled : entry.compile = .ok rule) : rule.Loadable ∧ rule.toJson.depth ≤ json.depth := by
  obtain ⟨tag, body, inner, built, within, behind⟩ := Entry.ofJson?_cases read
  refine loadable_of_build? single within ?_ built compiled
  intro entries member rules all
  -- The rules of a tree stand two levels below it, so the recursion goes by nesting.
  obtain ⟨items, around, list⟩ := behind entries member
  have above := Json.depth_lt_of_mem_parts around
  have each (item : Json) (listed : item ∈ items) (entry : Entry)
      (read : Entry.ofJson? true item = some entry) (rule : Rule)
      (compiled : entry.compile = .ok rule) :
      rule.Loadable ∧ rule.toJson.depth ≤ item.depth := by
    have below : item.depth < (Json.array items).depth := Json.depth_lt_of_mem_parts listed
    exact loadable_of_ofJson? item ((single.of_mem_parts around).of_mem_parts listed) read compiled
  obtain ⟨loadable, shallow⟩ := loadable_of_ofJsons? each list all
  exact ⟨loadable, Nat.lt_of_le_of_lt shallow above⟩
termination_by json.depth
decreasing_by exact Nat.lt_trans below above

theorem writable_members {kind : String} {conditions : List Condition} {outcome : String × Json}
    {documentation : Option String} (h : outcome.2.Writable) :
    (Json.object (members kind conditions outcome documentation)).Writable := by
  refine Json.writable_object fun part present => ?_
  rcases mem_parts_members present with ⟨-, writable⟩ | written | rfl
  · exact writable
  · obtain ⟨rfl, -⟩ := Json.filled?_eq_some_iff.mp written
    refine Json.allWritable_iff.mpr ?_
    rw [List.forall_mem_map]
    exact fun c _ => c.writable
  · exact h

mutual

theorem writable (rule : Rule) : rule.toJson.Writable := by
  match rule with
  | ⟨_, .endpoint template, _⟩ => exact writable_members template.writable
  | ⟨_, .error message, _⟩ => exact writable_members message.writable
  | ⟨_, .tree rules, _⟩ => exact writable_members (allWritable rules)

theorem allWritable (rules : List Rule) : Json.AllWritable (toJsons rules) := by
  match rules with
  | [] => trivial
  | rule :: rest => exact ⟨writable rule, allWritable rest⟩

end

end Rule

end EndpointResolution
