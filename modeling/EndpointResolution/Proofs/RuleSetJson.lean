import EndpointResolution.Proofs.RuleJson

/-!
Documents of rule sets. A rule set that a document without repeated names has given is written back
as a document, and loading this one gives the same rule set.
-/

namespace EndpointResolution

namespace Document

theorem compile_eq_ok_iff {document : Document} {ruleSet : RuleSet} :
    document.compile = .ok ruleSet ↔ ∃ rules, Entry.compileAll document.rules = .ok rules ∧
      document.parameters.validate = .ok () ∧
      ruleSet = ⟨document.version, document.parameters, rules⟩ := by
  simp only [compile, RuleSet.create, Result.bind_eq_ok_iff, pure, Except.pure, Except.ok.injEq]
  constructor
  · rintro ⟨rules, compiled, _, defaults, rfl⟩
    exact ⟨rules, compiled, defaults, rfl⟩
  · rintro ⟨rules, compiled, defaults, rfl⟩
    exact ⟨rules, compiled, (), defaults, rfl⟩

theorem rules?_eq_some_iff {json : Json} {entries : List Entry} :
    rules? json = some entries ↔ ∃ items, json = .array items ∧ Json.allReadable items ∧
      Entry.ofJsons? false items = some entries := by
  cases json <;> simp [rules?]

end Document

namespace RuleSet

def toJson (ruleSet : RuleSet) : Json :=
  .object [("version", .string ruleSet.version), ("parameters", ruleSet.parameters.toJson),
    ("rules", .array (Rule.toJsons ruleSet.rules))]

/-- Documents give such rule sets. -/
structure Loadable (ruleSet : RuleSet) : Prop where
  parameters : ∀ declaration ∈ ruleSet.parameters.entries, declaration.2.Loadable
  defaults : ruleSet.parameters.validate = .ok ()
  rules : Rule.AllLoadable ruleSet.rules

theorem ofJson_eq_ok_iff {json : Json} {ruleSet : RuleSet} :
    ofJson json = .ok ruleSet ↔
      ∃ document, Document.ofJson? json = some document ∧ document.compile = .ok ruleSet := by
  cases read : Document.ofJson? json <;> simp [ofJson, read]

theorem ofText_eq_ok_iff {text : String} {ruleSet : RuleSet} :
    ofText text = .ok ruleSet ↔
      ∃ json, Json.parse? text = some json ∧ ofJson json = .ok ruleSet := by
  cases read : Json.parse? text <;> simp [ofText, read]

theorem writable (ruleSet : RuleSet) : ruleSet.toJson.Writable :=
  ⟨trivial, Parameters.writable ruleSet.parameters, Rule.allWritable ruleSet.rules, trivial⟩

/-- A rule set that a document can give is read back from its JSON form. -/
theorem ofJson_toJson {ruleSet : RuleSet} (h : ruleSet.Loadable) :
    ofJson ruleSet.toJson = .ok ruleSet := by
  obtain ⟨entries, read, compiled⟩ := Rule.exists_entries_of_allLoadable false _ h.rules
  have parameters := Parameters.ofJson?_toJson h.parameters
  have rules : Document.rules? (.array (Rule.toJsons ruleSet.rules)) = some entries :=
    Document.rules?_eq_some_iff.mpr
      ⟨_, rfl, Json.allReadable_of_allWritable _ (Rule.allWritable ruleSet.rules), read⟩
  refine ofJson_eq_ok_iff.mpr ⟨⟨ruleSet.version, ruleSet.parameters, entries⟩, ?_,
    Document.compile_eq_ok_iff.mpr ⟨ruleSet.rules, compiled, h.defaults, rfl⟩⟩
  simp [Document.ofJson?, toJson, Json.members?, Json.member?, Json.occurrences, Json.string?,
    Json.withDefault?, parameters, rules]

/-- What is read from a document without repeated names is written without nesting deeper. -/
theorem loadable_of_ofJson {json : Json} (single : json.NoRepeats) {ruleSet : RuleSet}
    (h : ofJson json = .ok ruleSet) : ruleSet.Loadable ∧ ruleSet.toJson.depth ≤ json.depth := by
  obtain ⟨document, read, compiled⟩ := ofJson_eq_ok_iff.mp h
  obtain ⟨rules, each, defaults, rfl⟩ := Document.compile_eq_ok_iff.mp compiled
  simp only [Document.ofJson?, Option.bind_eq_bind, Option.bind_eq_some_iff] at read
  obtain ⟨members, inside, read⟩ := read
  split at read
  · next version given _ =>
      simp only [Option.bind_eq_some_iff, Option.pure_def, Option.some.injEq] at read
      obtain ⟨_, rfl, version, -, parameters, own, part, rfl, entries, array, rfl⟩ := read
      obtain ⟨items, rfl, -, list⟩ := Document.rules?_eq_some_iff.mp array
      have around : Json.array items ∈ json.parts := Json.mem_parts_of_members? inside (by simp)
      have below := Json.depth_lt_of_mem_parts around
      have positive : 0 < (Json.array items).depth := Nat.succ_pos _
      obtain ⟨loadableRules, shallowRules⟩ := Rule.loadable_of_ofJsons?
        (fun item listed _ read _ compiled => Rule.loadable_of_ofJson? item
          ((single.of_mem_parts around).of_mem_parts listed) read compiled) list each
      -- Without a member for parameters the empty dictionary is no deeper than the array of rules.
      have declared : (∀ declaration ∈ parameters.entries, declaration.2.Loadable) ∧
          parameters.toJson.depth < json.depth := by
        rcases Json.withDefault?_eq_some_iff.mp own with ⟨-, rfl⟩ | ⟨whole, rfl, read⟩
        · exact ⟨fun _ member => (List.not_mem_nil member).elim, Nat.lt_of_le_of_lt positive below⟩
        · obtain ⟨loadable, shallow⟩ := Parameters.loadable_of_ofJson? read
          have there : whole ∈ json.parts := Json.mem_parts_of_members? inside (by simp)
          exact ⟨loadable, Nat.lt_of_le_of_lt shallow (Json.depth_lt_of_mem_parts there)⟩
      refine ⟨⟨declared.1, defaults, loadableRules⟩,
        Json.depth_le_of_parts (Nat.lt_trans positive below) fun part written => ?_⟩
      simp only [toJson, Json.parts, List.map_cons, List.map_nil, List.mem_cons, List.not_mem_nil,
        or_false] at written
      rcases written with rfl | rfl | rfl
      · exact Nat.lt_trans positive below
      · exact declared.2
      · exact Nat.lt_of_le_of_lt shallowRules below
  · cases read

/-- Loading undoes writing on all that documents without repeated names give. -/
theorem ofText_render_toJson {text : String} {json : Json} {ruleSet : RuleSet}
    (reads : Json.parse? text = some json) (single : json.NoRepeats)
    (loads : ofText text = .ok ruleSet) : ofText ruleSet.toJson.render = .ok ruleSet := by
  have given : ofJson json = .ok ruleSet := by
    simpa only [ofText, reads] using loads
  obtain ⟨loadable, shallow⟩ := loadable_of_ofJson single given
  have limit := Nat.le_trans shallow (Json.depth_of_parse? reads)
  exact ofText_eq_ok_iff.mpr
    ⟨ruleSet.toJson, Json.parse?_render ruleSet.writable limit, ofJson_toJson loadable⟩

/-- Structures written as arrays, another name of a function, a header without values and a record
whose member `ref` is a list. -/
def sample : String :=
  "[\"1.0\",\x7b\"B\":[\"string\"]\x7d,[[\"endpoint\",[[\"parseArn\",[\x7b\"ref\":\"B\"\x7d]]]," ++
    "[\"\x7b\x7b\",\x7b\"x\":[]\x7d,\x7b\"p\":\x7b\"ref\":[1]\x7d\x7d]]]]"

def sampleJson : Json :=
  .array [.string "1.0", .object [("B", .array [.string "string"])],
    .array [.array [.string "endpoint",
      .array [.array [.string "parseArn", .array [.object [("ref", .string "B")]]]],
      .array [.string "\x7b\x7b", .object [("x", .array [])],
        .object [("p", .object [("ref", .array [.integer 1])])]]]]]

def sampleRuleSet : RuleSet where
  version := "1.0"
  parameters := .ofList [("B", { type := .string })]
  rules := [{
    conditions := [⟨.call .parseArn [.reference "B"], none⟩]
    outcome := .endpoint ⟨.template ⟨[.char '\x7b']⟩, ∅,
      .ofList [("p", .record [("ref", .array [.integer 1])])]⟩
    documentation := none }]

theorem ofText_render_toJson_sample :
    Json.parse? sample = some sampleJson ∧ sampleJson.NoRepeats ∧
      ofText sample = .ok sampleRuleSet ∧
      ofText sampleRuleSet.toJson.render = .ok sampleRuleSet := by
  have reads : Json.parse? sample = some sampleJson := by decide +kernel
  have single : sampleJson.NoRepeats := by
    simp [sampleJson, Json.NoRepeats, Json.AllNoRepeats, Json.MembersNoRepeats]
  have loads : ofText sample = .ok sampleRuleSet := ofText_eq_ok_iff.mpr ⟨sampleJson, reads, by rfl⟩
  exact ⟨reads, single, loads, ofText_render_toJson reads single loads⟩

end RuleSet

end EndpointResolution
