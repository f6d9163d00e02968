import EndpointResolution.Proofs.MemberOrder
import EndpointResolution.Proofs.RuleSetJson

/-!
Documents with their members in another order. Every reader of them is made of readers that find
members by their names, so the same rule set is loaded, or loading fails for the same cause.
-/

namespace EndpointResolution

open Json

theorem Value.ofJson?_orderFree : OrderFree Value.ofJson? := by
  refine .of_parts fun json other alike each => ?_
  rcases alike.cases with rfl | ⟨items, others, rfl, rfl⟩ | ⟨members, others, rfl, rfl⟩
  · rfl
  · rw [ofJson?, ofJson?, ofJsons?_eq_mapM, ofJsons?_eq_mapM, mapM_eq_of_alike alike.items each]
  · rw [ofJson?_object, ofJson?_object, alike.ofList_fieldsOf? each]

theorem Parameter.ofJson?_orderFree : OrderFree Parameter.ofJson? := by
  intro json other alike
  refine alike.bind_members?_eq _ fun same => ?_
  rcases same with _ | ⟨type, _ | ⟨required, _ | ⟨default, _ | ⟨builtIn, _ | ⟨text, _ | _⟩⟩⟩⟩⟩ <;>
    try rfl
  simp only [Option.bind_eq_bind, ← Option.bind_assoc, nameOf?_orderFree.bind_eq type,
    boolean?_orderFree.withDefault?_eq required, Value.ofJson?_orderFree.optional?_eq default,
    string?_orderFree.optional?_eq builtIn, string?_orderFree.optional?_eq text]

namespace Document

namespace Term

theorem ofMembers?_congr {members others : List (String × Option Term)}
    (same : ∀ name, Json.occurrences name members = Json.occurrences name others)
    (fields : record? members = record? others) : ofMembers? members = ofMembers? others := by
  rw [ofMembers?, ofMembers?, reference?, reference?, call?, call?, same, same, same, fields]

theorem ofJson?_orderFree : OrderFree ofJson? := by
  refine .of_parts fun json other alike each => ?_
  rcases alike.cases with rfl | ⟨items, others, rfl, rfl⟩ | ⟨members, others, rfl, rfl⟩
  · rfl
  · rw [ofJson?, ofJson?, ofJsons?_eq_mapM, ofJsons?_eq_mapM, mapM_eq_of_alike alike.items each]
  · have once (listed : List (String × Json)) (h : (listed.map (·.1)).Nodup) (name : String) :
        Json.occurrences name (membersOfJson listed) =
          ((Assoc.find? name listed).map ofJson?).toList := by
      rw [occurrences_of_nodup (by rwa [names_membersOfJson]), membersOfJson_eq_map,
        Assoc.find?_map fun _ => ofJson?]
    rw [ofJson?, ofJson?]
    refine ofMembers?_congr (fun name => ?_) ?_
    · rw [once _ alike.nodup.1, once _ alike.nodup.2, alike.map_find? each]
    · rw [record?_membersOfJson, record?_membersOfJson, alike.ofList_fieldsOf? each]

end Term

theorem Clause.ofJson?_orderFree : OrderFree Clause.ofJson? := by
  intro json other alike
  refine alike.bind_members?_eq _ fun same => ?_
  rcases same with _ | ⟨function, _ | ⟨arguments, _ | ⟨assign, _ | _⟩⟩⟩ <;> try rfl
  simp only [Option.bind_eq_bind, ← Option.bind_assoc, string?_orderFree.bind_eq function,
    Term.ofJson?_orderFree.listOf?.bind_eq arguments, string?_orderFree.optional?_eq assign]

theorem Target.ofJson?_orderFree : OrderFree Target.ofJson? := by
  intro json other alike
  refine alike.bind_members?_eq _ fun same => ?_
  rcases same with _ | ⟨url, _ | ⟨headers, _ | ⟨properties, _ | _⟩⟩⟩ <;> try rfl
  simp only [Option.bind_eq_bind, ← Option.bind_assoc, Term.ofJson?_orderFree.bind_eq url,
    Term.ofJson?_orderFree.listOf?.dictOf?.withDefault?_eq headers,
    Term.ofJson?_orderFree.dictOf?.withDefault?_eq properties]

namespace Entry

theorem Tag.ofJson?_orderFree (inTree : Bool) : OrderFree (Tag.ofJson? inTree) :=
  .flat (fun _ => rfl) fun _ => rfl

/-- Of the rules inside a tree it matters what they are read as. -/
theorem build?_eq {tag other body others : Json} (tags : Alike tag other)
    (bodies : Alike body others) (inTree : Bool) (inner : List (Option (List Entry))) :
    build? inTree tag body inner = build? inTree other others inner := by
  rw [build?, build?, Tag.ofJson?_orderFree inTree _ _ tags]
  refine bind_congr fun kind => ?_
  cases kind with
  | endpoint =>
      refine bodies.bind_members?_eq _ fun same => ?_
      rcases same with _ | ⟨given, _ | ⟨target, _ | ⟨text, _ | _⟩⟩⟩ <;> try rfl
      simp only [Option.bind_eq_bind, ← Option.bind_assoc, conditions?,
        Clause.ofJson?_orderFree.listOf?.withDefault?_eq given,
        Target.ofJson?_orderFree.bind_eq target, string?_orderFree.optional?_eq text]
  | error =>
      refine bodies.bind_members?_eq _ fun same => ?_
      rcases same with _ | ⟨given, _ | ⟨message, _ | ⟨text, _ | _⟩⟩⟩ <;> try rfl
      simp only [Option.bind_eq_bind, ← Option.bind_assoc, conditions?,
        Clause.ofJson?_orderFree.listOf?.withDefault?_eq given,
        Term.ofJson?_orderFree.bind_eq message, string?_orderFree.optional?_eq text]
  | tree =>
      refine bodies.bind_members?_eq _ fun same => ?_
      rcases same with _ | ⟨given, _ | ⟨rules, _ | ⟨text, _ | _⟩⟩⟩ <;> try rfl
      simp only [Option.bind_eq_bind, conditions?,
        Clause.ofJson?_orderFree.listOf?.withDefault?_eq given,
        string?_orderFree.optional?_eq text]

theorem innerRules_eq_map (members : List (String × Json)) :
    innerRules members =
      (Json.occurrences "rules" members).map (Json.listOf? (ofJson? true)) := by
  induction members with
  | nil => rfl
  | cons member rest ih =>
      obtain ⟨name, json⟩ := member
      by_cases own : name = "rules" <;> cases json <;>
        simp [innerRules, Json.occurrences, Json.listOf?, ofJsons?_eq_mapM, own, ih]

theorem innerRules_eq {members others : List (String × Json)}
    (alike : Alike (.object members) (.object others))
    (each : ∀ part ∈ (Json.object members).parts, ∀ other, Alike part other →
      Json.listOf? (ofJson? true) part = Json.listOf? (ofJson? true) other) :
    innerRules members = innerRules others := by
  rw [innerRules_eq_map, innerRules_eq_map, occurrences_of_nodup alike.nodup.1,
    occurrences_of_nodup alike.nodup.2, ← Option.toList_map, ← Option.toList_map,
    alike.map_find? each]

theorem ofJson?_object (inTree : Bool) {members : List (String × Json)}
    (single : (members.map (·.1)).Nodup) :
    ofJson? inTree (.object members) = (Assoc.find? "type" members).bind fun tag =>
      build? inTree tag (.object members) (innerRules members) := by
  rw [ofJson?, occurrences_of_nodup single]
  cases Assoc.find? "type" members <;> rfl

/-- The rules of a tree that is an array: they follow the conditions. -/
def followingRules : List Json → List (Option (List Entry))
  | _ :: .array rules :: _ => [ofJsons? true rules]
  | _ => []

theorem ofJson?_array_cons (inTree : Bool) (tag : Json) (body : List Json) :
    ofJson? inTree (.array (tag :: body)) =
      build? inTree tag (.array body) (followingRules body) := by
  match body with
  | [] | [_] => rfl
  | _ :: second :: _ => cases second <;> rfl

theorem followingRules_eq {body others : List Json} (alike : List.Forall₂ Alike body others)
    (each : ∀ part ∈ body, ∀ other, Alike part other →
      Json.listOf? (ofJson? true) part = Json.listOf? (ofJson? true) other) :
    followingRules body = followingRules others := by
  match body, others, alike with
  | [], [], .nil | [_], [_], .cons _ .nil => rfl
  | _ :: second :: _, _ :: other :: _, .cons _ (.cons same _) =>
      have rules := each second (List.mem_cons_of_mem _ List.mem_cons_self) other same
      rcases same.cases with rfl | ⟨items, others, rfl, rfl⟩ | ⟨members, others, rfl, rfl⟩
      · cases other <;> rfl
      · rw [followingRules, followingRules, ofJsons?_eq_mapM, ofJsons?_eq_mapM]
        exact congrArg ([·]) rules
      · rfl

/-- What data is as a rule, and what it is as a list of rules inside a tree. -/
def readings (json : Json) : (Bool → Option Entry) × Option (List Entry) :=
  (fun inTree => ofJson? inTree json, Json.listOf? (ofJson? true) json)

theorem readings_orderFree : OrderFree readings := by
  -- The rules of a tree stand two levels below it: the list, one level below, is read alike, too.
  refine .of_parts fun json other alike each => ?_
  have rule (inTree : Bool) (part : Json) (inside : part ∈ json.parts) (other : Json)
      (same : Alike part other) : ofJson? inTree part = ofJson? inTree other :=
    congrFun (congrArg Prod.fst (each part inside other same)) inTree
  have rules (part : Json) (inside : part ∈ json.parts) (other : Json) (same : Alike part other) :
      Json.listOf? (ofJson? true) part = Json.listOf? (ofJson? true) other :=
    congrArg Prod.snd (each part inside other same)
  rcases alike.cases with rfl | ⟨items, others, rfl, rfl⟩ | ⟨members, others, rfl, rfl⟩
  · rfl
  · refine Prod.ext (funext fun inTree => ?_) (mapM_eq_of_alike alike.items (rule true))
    match items, others, alike.items with
    | [], [], .nil => rfl
    | _ :: _, _ :: _, .cons own behind =>
        have body := followingRules_eq behind fun part inside =>
          rules part (List.mem_cons_of_mem _ inside)
        simp only [readings, ofJson?_array_cons, body, build?_eq own alike.tail]
  · refine Prod.ext (funext fun inTree => ?_) rfl
    simp only [readings, ofJson?_object inTree alike.nodup.1, ofJson?_object inTree alike.nodup.2,
      innerRules_eq alike rules]
    exact bind_eq_of_rel (alike.find? "type") fun own => build?_eq own alike inTree _

theorem ofJson?_orderFree (inTree : Bool) : OrderFree (ofJson? inTree) := fun json other alike =>
  congrFun (congrArg Prod.fst (readings_orderFree json other alike)) inTree

end Entry

theorem rules?_orderFree : OrderFree rules? := by
  intro json other alike
  rcases alike.cases with rfl | ⟨items, others, rfl, rfl⟩ | ⟨members, others, rfl, rfl⟩
  · rfl
  · rw [rules?, rules?, Entry.ofJsons?_eq_mapM, Entry.ofJsons?_eq_mapM,
      allReadable_eq_of_alike alike.items fun item _ => readable_orderFree item,
      mapM_eq_of_alike alike.items fun item _ => Entry.ofJson?_orderFree false item]
  · rfl

theorem ofJson?_orderFree : OrderFree ofJson? := by
  intro json other alike
  refine alike.bind_members?_eq _ fun same => ?_
  rcases same with _ | ⟨version, _ | ⟨parameters, _ | ⟨rules, _ | _⟩⟩⟩ <;> try rfl
  have declared : OrderFree Parameters.ofJson? := Parameter.ofJson?_orderFree.dictOf?
  simp only [Option.bind_eq_bind, ← Option.bind_assoc, string?_orderFree.bind_eq version,
    declared.withDefault?_eq parameters, rules?_orderFree.bind_eq rules]

end Document

namespace RuleSet

theorem ofJson_orderFree : OrderFree ofJson := by
  intro json other alike
  rw [ofJson, ofJson, Document.ofJson?_orderFree json other alike]

/-- Loading a document gives the same rule set, or fails in the same way, whatever order its members
are written in. -/
theorem ofText_of_reordered {text other : String} {json json' : Json}
    (reads : Json.parse? text = some json) (reads' : Json.parse? other = some json')
    (single : json.NoRepeats) (reordered : json.Reordered json') : ofText text = ofText other := by
  rw [ofText, ofText, reads, reads']
  exact ofJson_orderFree json json' ⟨single, reordered⟩

/-- A rule whose type comes first. -/
def typeFirst : String :=
  "\x7b\"version\":\"1\",\"rules\":[\x7b\"type\":\"error\",\"error\":" ++
    "\x7b\"a\":\"x\",\"b\":\x7b\"ref\":\"R\"\x7d\x7d\x7d]\x7d"

/-- The same rule with its type behind its outcome. -/
def typeLast : String :=
  "\x7b\"rules\":[\x7b\"error\":\x7b\"b\":\x7b\"ref\":\"R\"\x7d,\"a\":\"x\"\x7d," ++
    "\"type\":\"error\"\x7d],\"version\":\"1\"\x7d"

def typeFirstJson : Json :=
  .object [("version", .string "1"), ("rules", .array [.object [("type", .string "error"),
    ("error", .object [("a", .string "x"), ("b", .object [("ref", .string "R")])])]])]

def typeLastJson : Json :=
  .object [("rules", .array [.object [("error", .object [("b", .object [("ref", .string "R")]),
    ("a", .string "x")]), ("type", .string "error")]]), ("version", .string "1")]

theorem ofText_of_reordered_type :
    Json.parse? typeFirst = some typeFirstJson ∧ Json.parse? typeLast = some typeLastJson ∧
      typeFirstJson.NoRepeats ∧ typeFirstJson.Reordered typeLastJson ∧
      ofText typeFirst = ofText typeLast ∧ ∃ ruleSet, ofText typeLast = .ok ruleSet := by
  have first : Json.parse? typeFirst = some typeFirstJson := by decide +kernel
  have last : Json.parse? typeLast = some typeLastJson := by decide +kernel
  have single : typeFirstJson.NoRepeats := by
    simp [typeFirstJson, Json.NoRepeats, Json.AllNoRepeats, Json.MembersNoRepeats]
  have fields (first last : String × Json) :
      (Json.object [first, last]).Reordered (.object [last, first]) :=
    ⟨_, _, rfl, .swap _ _ _, .refl _⟩
  have rules : (Json.object [("type", .string "error"), ("error", _)]).Reordered
      (.object [("error", _), ("type", .string "error")]) :=
    ⟨_, _, rfl, .swap _ _ _, _, _, rfl, .refl _, _, _, rfl,
      fields ("a", .string "x") ("b", .object [("ref", .string "R")]), rfl⟩
  have reordered : typeFirstJson.Reordered typeLastJson :=
    ⟨_, _, rfl, .swap _ _ _, _, _, rfl, .refl _, _, _, rfl, ⟨_, rfl, _, _, rfl, rules, rfl⟩, rfl⟩
  exact ⟨first, last, single, reordered, ofText_of_reordered first last single reordered,
    _, ofText_eq_ok_iff.mpr ⟨typeLastJson, last, rfl⟩⟩

end RuleSet

end EndpointResolution
