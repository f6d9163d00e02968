import EndpointResolution.Proofs.DocumentValidity
import EndpointResolution.Proofs.ValueJson

/-!
Expressions through JSON and back. An expression is written with functions by their own names,
templates by their texts and records by their fields in order. What a document without repeated
names has given comes back from that form, which nests no deeper than the document.
-/

namespace EndpointResolution

namespace Expr

mutual

def toJson : Expr → Json
  | .boolean b => .boolean b
  | .integer n => .integer n.toInt
  | .template t => .string t.text
  | .array items => .array (toJsons items)
  | .record fields => .object (fieldsToJson fields)
  | .reference name => .object [("ref", .string name)]
  | .call f arguments => .object [("fn", .string f.name), ("argv", .array (toJsons arguments))]

def toJsons : List Expr → List Json
  | [] => []
  | item :: rest => item.toJson :: toJsons rest

def fieldsToJson : List (String × Expr) → List (String × Json)
  | [] => []
  | (name, value) :: rest => (name, value.toJson) :: fieldsToJson rest

end

end Expr

namespace Expr

mutual

theorem writable (e : Expr) : e.toJson.Writable := by
  match e with
  | .boolean _ | .template _ => trivial
  | .integer n => exact ⟨n, rfl⟩
  | .array items => exact allWritable items
  | .record fields => exact fieldsWritable fields
  | .reference _ => exact ⟨trivial, trivial⟩
  | .call _ arguments => exact ⟨trivial, allWritable arguments, trivial⟩

theorem allWritable (items : List Expr) : Json.AllWritable (toJsons items) := by
  match items with
  | [] => trivial
  | item :: rest => exact ⟨writable item, allWritable rest⟩

theorem fieldsWritable (fields : List (String × Expr)) :
    Json.MembersWritable (fieldsToJson fields) := by
  match fields with
  | [] => trivial
  | (_, value) :: rest => exact ⟨writable value, fieldsWritable rest⟩

end

end Expr

namespace Expr

mutual

/-- Documents give such expressions. Fields of a record are in order, and a record would be read as
a reference or as a call if its fields were those of one. -/
def Loadable : Expr → Prop
  | .template t => ∀ token ∈ t.tokens, token.Valid
  | .array items => AllLoadable items
  | .record fields => Assoc.Sorted fields ∧ FieldsLoadable fields ∧
      (∀ t, Assoc.find? "ref" fields ≠ some (.template t)) ∧
      ∀ t items, ¬ (Assoc.find? "fn" fields = some (.template t) ∧
        Assoc.find? "argv" fields = some (.array items))
  | .call f arguments => ofCall f arguments = .ok (.call f arguments) ∧ AllLoadable arguments
  | .boolean _ | .integer _ | .reference _ => True

def AllLoadable : List Expr → Prop
  | [] => True
  | item :: rest => item.Loadable ∧ AllLoadable rest

def FieldsLoadable : List (String × Expr) → Prop
  | [] => True
  | (_, value) :: rest => value.Loadable ∧ FieldsLoadable rest

end

end Expr

namespace Document.Term

theorem compile_string_eq_ok_iff {s : String} {e : Expr} :
    (string s).compile = .ok e ↔ ∃ t, Template.parse s = .ok t ∧ e = .template t := by
  simp [compile, Expr.ofText, Result.bind_eq_ok_iff, pure, Except.pure, @eq_comm _ e]

theorem compile_array_eq_ok_iff {items : List Term} {e : Expr} :
    (array items).compile = .ok e ↔ ∃ exprs, compileAll items = .ok exprs ∧ e = .array exprs := by
  simp [compile, Result.bind_eq_ok_iff, pure, Except.pure, @eq_comm _ e]

theorem compile_record_eq_ok_iff {terms : List (String × Term)} {e : Expr} :
    (record terms).compile = .ok e ↔
      ∃ fields, compileFields terms = .ok fields ∧ e = .record fields := by
  simp [compile, Result.bind_eq_ok_iff, pure, Except.pure, @eq_comm _ e]

theorem compile_call_eq_ok_iff {name : String} {arguments : List Term} {e : Expr} :
    (call name arguments).compile = .ok e ↔
      ∃ f exprs, Function.ofName? name = some f ∧ compileAll arguments = .ok exprs ∧
        Expr.ofCall f exprs = .ok e := by
  cases found : Function.ofName? name with
  | none => simp [compile, functionOf, found, Result.bind_eq_ok_iff]
  | some f => simp [compile_call found, Result.bind_eq_ok_iff]

theorem compileFields_cons_eq_ok_iff {name : String} {value : Term} {rest : List (String × Term)}
    {fields : List (String × Expr)} :
    compileFields ((name, value) :: rest) = .ok fields ↔
      ∃ e others, value.compile = .ok e ∧ compileFields rest = .ok others ∧
        fields = (name, e) :: others := by
  rw [compileFields]
  exact Result.both_eq_ok_iff

theorem compileFields_eq_mapFields (fields : List (String × Term)) :
    compileFields fields = Result.mapFields compile fields := by
  induction fields with
  | nil => rfl
  | cons field rest ih =>
      rw [compileFields, ih, Result.mapFields_cons]

/-- Fields in order that are those of no reference and of no call make up a record. -/
theorem ofMembers?_fields {fields : List (String × Term)} (sorted : Assoc.Sorted fields)
    (noReference : ∀ s, Assoc.find? "ref" fields ≠ some (.string s))
    (noCall : ∀ s items, ¬ (Assoc.find? "fn" fields = some (.string s) ∧
      Assoc.find? "argv" fields = some (.array items))) :
    ofMembers? (fields.map fun field => (field.1, some field.2)) = some (.record fields) := by
  have once {name : String} {value : Term}
      (h : Json.occurrences name (fields.map fun field => (field.1, some field.2)) =
        [some value]) : Assoc.find? name fields = some value := by
    have single := (Assoc.sorted_map (fun field : String × Term => some field.2) sorted).nodup
    rw [Json.occurrences_of_nodup single, Assoc.find?_map fun _ => some] at h
    simpa using h
  have reference : reference? (fields.map fun field => (field.1, some field.2)) = none := by
    rw [reference?]
    split
    · next s found => exact absurd (once found) (noReference s)
    · rfl
  have call : call? (fields.map fun field => (field.1, some field.2)) = none := by
    rw [call?]
    split
    · next s arguments fn argv => exact absurd ⟨once fn, once argv⟩ (noCall s arguments)
    · rfl
  have record : record? (fields.map fun field => (field.1, some field.2)) =
      some (.record fields) := by
    have read : (fields.map fun field => (field.1, some field.2)).mapM
        (fun member => member.2.map fun value => (member.1, value)) = some fields :=
      Json.mapM_map_of_forall (by simp)
    simp [record?, read, Assoc.ofList_of_sorted sorted]
  rw [ofMembers?, reference, call, record]
  rfl

end Document.Term

namespace Expr

open Document

mutual

/-- An expression that a document can give is read back from its JSON form. -/
theorem exists_term_of_loadable (e : Expr) (h : e.Loadable) :
    ∃ term, Term.ofJson? e.toJson = some term ∧ term.compile = .ok e := by
  match e with
  | .boolean b => exact ⟨.boolean b, rfl, rfl⟩
  | .integer n => exact ⟨.integer n, by simp [toJson, Term.ofJson?, int64?_toInt], rfl⟩
  | .template t =>
      refine ⟨.string t.text, rfl, ?_⟩
      have writes : Template.Writes t.tokens t.text.toList := ⟨h, by simp [Template.text]⟩
      exact Term.compile_eq_template_iff.mpr ⟨t.text, rfl, Template.parse_eq_ok_iff.mpr writes⟩
  | .reference name => exact ⟨.reference name, rfl, rfl⟩
  | .array items =>
      obtain ⟨terms, read, compiled⟩ := exists_terms_of_allLoadable items h
      refine ⟨.array terms, by simp [toJson, Term.ofJson?, read], ?_⟩
      rw [Term.compile, compiled]
      rfl
  | .call f arguments =>
      obtain ⟨terms, read, compiled⟩ := exists_terms_of_allLoadable arguments h.2
      refine ⟨.call f.name terms, ?_, ?_⟩
      · simp [toJson, Term.ofJson?, Term.membersOfJson, read, Term.ofMembers?, Term.reference?,
          Term.call?, Json.occurrences]
      · rw [Term.compile_call (Function.ofName?_name f), compiled]
        exact h.1
  | .record fields =>
      obtain ⟨sorted, inside, noReference, noCall⟩ := h
      obtain ⟨terms, read, compiled⟩ := exists_terms_of_fieldsLoadable fields inside
      have each := Term.compileFields_eq_mapFields terms ▸ compiled
      have sortedTerms := (Result.sorted_mapFields_iff each).mp sorted
      have field {name : String} {term : Term} (found : Assoc.find? name terms = some term) :
          ∃ e, term.compile = .ok e ∧ Assoc.find? name fields = some e := by
        obtain ⟨e, own, member⟩ :=
          Result.exists_value_of_mapFields each (Assoc.mem_of_find? found)
        exact ⟨e, own, Assoc.find?_of_mem sorted.nodup member⟩
      refine ⟨.record terms, ?_, ?_⟩
      · rw [toJson, Term.ofJson?, read]
        refine Term.ofMembers?_fields sortedTerms ?_ ?_
        · intro s found
          obtain ⟨e, own, there⟩ := field found
          obtain ⟨t, -, rfl⟩ := Term.compile_string_eq_ok_iff.mp own
          exact noReference t there
        · rintro s items ⟨fn, argv⟩
          obtain ⟨_, own, there⟩ := field fn
          obtain ⟨t, -, rfl⟩ := Term.compile_string_eq_ok_iff.mp own
          obtain ⟨_, own', there'⟩ := field argv
          obtain ⟨exprs, -, rfl⟩ := Term.compile_array_eq_ok_iff.mp own'
          exact noCall t exprs ⟨there, there'⟩
      · rw [Term.compile, compiled]
        rfl

theorem exists_terms_of_allLoadable (items : List Expr) (h : AllLoadable items) :
    ∃ terms, Term.ofJsons? (toJsons items) = some terms ∧ Term.compileAll terms = .ok items := by
  match items with
  | [] => exact ⟨[], rfl, rfl⟩
  | item :: rest =>
      obtain ⟨term, own, compiled⟩ := exists_term_of_loadable item h.1
      obtain ⟨terms, others, behind⟩ := exists_terms_of_allLoadable rest h.2
      exact ⟨term :: terms, by simp [toJsons, Term.ofJsons?, own, others],
        Term.compileAll_cons_eq_ok_iff.mpr ⟨item, rest, compiled, behind, rfl⟩⟩

theorem exists_terms_of_fieldsLoadable (fields : List (String × Expr)) (h : FieldsLoadable fields) :
    ∃ terms : List (String × Term), Term.membersOfJson (fieldsToJson fields) =
        terms.map (fun term => (term.1, some term.2)) ∧
      Term.compileFields terms = .ok fields := by
  match fields with
  | [] => exact ⟨[], rfl, rfl⟩
  | (name, value) :: rest =>
      obtain ⟨term, own, compiled⟩ := exists_term_of_loadable value h.1
      obtain ⟨terms, others, behind⟩ := exists_terms_of_fieldsLoadable rest h.2
      exact ⟨(name, term) :: terms, by simp [fieldsToJson, Term.membersOfJson, own, others],
        Term.compileFields_cons_eq_ok_iff.mpr ⟨value, rest, compiled, behind, rfl⟩⟩

end

theorem allLoadable_iff {items : List Expr} :
    AllLoadable items ↔ ∀ item ∈ items, item.Loadable := by
  induction items with
  | nil => simp [AllLoadable]
  | cons item rest ih => simp [AllLoadable, ih]

theorem fieldsLoadable_iff {fields : List (String × Expr)} :
    FieldsLoadable fields ↔ ∀ field ∈ fields, field.2.Loadable := by
  induction fields with
  | nil => simp [FieldsLoadable]
  | cons field rest ih => simp [FieldsLoadable, ih]

theorem toJsons_eq_map (items : List Expr) : toJsons items = items.map toJson := by
  induction items with
  | nil => rfl
  | cons item rest ih => rw [toJsons, ih, List.map_cons]

theorem fieldsToJson_eq_map (fields : List (String × Expr)) :
    fieldsToJson fields = fields.map fun field => (field.1, field.2.toJson) := by
  induction fields with
  | nil => rfl
  | cons field rest ih => rw [fieldsToJson, ih, List.map_cons]

end Expr

namespace Document.Term

theorem ofJsons?_eq_mapM (items : List Json) : ofJsons? items = items.mapM ofJson? := by
  induction items with
  | nil => rfl
  | cons item rest ih =>
      rw [ofJsons?, ih, List.mapM_cons]
      cases ofJson? item with
      | none => rfl
      | some term => cases rest.mapM ofJson? <;> rfl

theorem membersOfJson_eq_map (members : List (String × Json)) :
    membersOfJson members = members.map fun member => (member.1, ofJson? member.2) := by
  induction members with
  | nil => rfl
  | cons member rest ih => rw [membersOfJson, ih, List.map_cons]

theorem names_membersOfJson (members : List (String × Json)) :
    (membersOfJson members).map (·.1) = members.map (·.1) := by
  simp [membersOfJson_eq_map, Function.comp_def]

theorem mapM_membersOfJson (members : List (String × Json)) :
    (membersOfJson members).mapM (fun member => member.2.map fun value => (member.1, value)) =
      Json.fieldsOf? ofJson? members := by
  rw [membersOfJson_eq_map, List.mapM_map]
  rfl

theorem record?_membersOfJson (members : List (String × Json)) :
    record? (membersOfJson members) =
      ((Json.fieldsOf? ofJson? members).map Assoc.ofList).map .record := by
  rw [← mapM_membersOfJson, Option.map_map]
  rfl

/-- Members that are all terms are read as a dictionary, too. -/
theorem fieldsOf?_of_membersOfJson {members : List (String × Json)} {terms : List (String × Term)}
    (h : membersOfJson members = terms.map fun term => (term.1, some term.2)) :
    Json.fieldsOf? ofJson? members = some terms := by
  rw [← mapM_membersOfJson, h]
  exact Json.mapM_map_of_forall fun _ _ => rfl

theorem eq_map_of_record? {members : List (String × Option Term)}
    {fields : List (String × Term)}
    (h : members.mapM (fun member => member.2.map fun value => (member.1, value)) =
      some fields) : members = fields.map fun field => (field.1, some field.2) := by
  induction members generalizing fields with
  | nil => simp_all
  | cons member rest ih =>
      obtain ⟨_, others, own, behind, rfl⟩ := Json.mapM_cons_eq_some_iff.mp h
      obtain ⟨value, given, rfl⟩ := Option.map_eq_some_iff.mp own
      rw [List.map_cons, ← ih behind, ← given]

/-- What an object is read as. -/
theorem ofMembers?_cases {members : List (String × Option Term)} {term : Term}
    (h : ofMembers? members = some term) :
    (∃ name, term = .reference name) ∨
      (∃ name arguments, term = .call name arguments ∧
        ("argv", some (.array arguments)) ∈ members) ∨
      (reference? members = none ∧ call? members = none ∧ ∃ fields : List (String × Term),
        members = fields.map (fun field => (field.1, some field.2)) ∧
          term = .record (Assoc.ofList fields)) := by
  rcases Option.or_eq_some_iff.mp h with found | ⟨noReference, other⟩
  · rw [reference?] at found
    split at found
    · exact .inl ⟨_, (Option.some.inj found).symm⟩
    · cases found
  · rcases Option.or_eq_some_iff.mp other with found | ⟨noCall, found⟩
    · rw [call?] at found
      split at found
      · next name arguments _ argv =>
          have member : some (.array arguments) ∈ Json.occurrences "argv" members :=
            argv ▸ List.mem_singleton_self _
          exact .inr (.inl ⟨name, arguments, (Option.some.inj found).symm,
            Json.mem_of_mem_occurrences member⟩)
      · cases found
    · obtain ⟨fields, read, rfl⟩ := Option.map_eq_some_iff.mp found
      exact .inr (.inr ⟨noReference, noCall, fields, eq_map_of_record? read, rfl⟩)

theorem exists_terms_of_compile_eq_array {term : Term} {items : List Expr}
    (h : term.compile = .ok (.array items)) : ∃ terms, term = .array terms := by
  cases term with
  | array terms => exact ⟨terms, rfl⟩
  | string s =>
      obtain ⟨_, -, eq⟩ := compile_string_eq_ok_iff.mp h
      cases eq
  | record fields =>
      obtain ⟨_, -, eq⟩ := compile_record_eq_ok_iff.mp h
      cases eq
  | call name arguments =>
      obtain ⟨_, _, -, -, built⟩ := compile_call_eq_ok_iff.mp h
      cases Expr.eq_call_of_ofCall built
  | reference _ | boolean _ | integer _ => cases h

section Record

variable {members : List (String × Option Term)} {fields : List (String × Term)}
  {exprs : List (String × Expr)}

theorem exists_member_of_compileFields
    (named : members = fields.map fun field => (field.1, some field.2))
    (compiled : compileFields (Assoc.ofList fields) = .ok exprs) {name : String} {e : Expr}
    (member : (name, e) ∈ exprs) :
    ∃ term, term.compile = .ok e ∧ (name, some term) ∈ members := by
  rw [compileFields_eq_mapFields] at compiled
  obtain ⟨term, present, own⟩ := Result.exists_of_mem_mapFields compiled member
  refine ⟨term, own, named ▸ ?_⟩
  exact List.mem_map.mpr ⟨(name, term), Assoc.mem_of_mem_ofList present, rfl⟩

/-- Members that have been read neither as a reference nor as a call give the fields of a record
that will be read as one again. -/
theorem loadable_record (single : (members.map (·.1)).Nodup)
    (named : members = fields.map fun field => (field.1, some field.2))
    (noReference : reference? members = none) (noCall : call? members = none)
    (compiled : compileFields (Assoc.ofList fields) = .ok exprs)
    (inside : ∀ {name : String} {term : Term}, (name, some term) ∈ members →
      ∀ {e : Expr}, term.compile = .ok e → e.Loadable) : (Expr.record exprs).Loadable := by
  have source {name : String} {e : Expr} (found : Assoc.find? name exprs = some e) :
      ∃ term, term.compile = .ok e ∧ Json.occurrences name members = [some term] := by
    obtain ⟨term, own, present⟩ :=
      exists_member_of_compileFields named compiled (Assoc.mem_of_find? found)
    refine ⟨term, own, ?_⟩
    rw [Json.occurrences_of_nodup single, Assoc.find?_of_mem single present]
    rfl
  refine ⟨?_, Expr.fieldsLoadable_iff.mpr fun field member => ?_, ?_, ?_⟩
  · rw [compileFields_eq_mapFields] at compiled
    exact (Result.sorted_mapFields_iff compiled).mpr (Assoc.sorted_ofList fields)
  · obtain ⟨term, own, present⟩ := exists_member_of_compileFields named compiled member
    exact inside present own
  · intro t ref
    obtain ⟨_, own, occurs⟩ := source ref
    obtain ⟨s, rfl, -⟩ := compile_eq_template_iff.mp own
    simp [reference?, occurs] at noReference
  · rintro t items ⟨fn, argv⟩
    obtain ⟨_, own, occurs⟩ := source fn
    obtain ⟨s, rfl, -⟩ := compile_eq_template_iff.mp own
    obtain ⟨_, own', occurs'⟩ := source argv
    obtain ⟨terms, rfl⟩ := exists_terms_of_compile_eq_array own'
    simp [call?, occurs, occurs'] at noCall

end Record

theorem exists_of_mem_membersOfJson {members : List (String × Json)} {name : String} {term : Term}
    (h : (name, some term) ∈ membersOfJson members) :
    ∃ part ∈ (Json.object members).parts, ofJson? part = some term := by
  rw [membersOfJson_eq_map] at h
  obtain ⟨member, present, eq⟩ := List.mem_map.mp h
  exact ⟨member.2, Json.mem_parts_object present, (Prod.mk.inj eq).2⟩

/-- An expression that is read from a document without repeated names is one that a document can
give, and it is written without nesting deeper. -/
theorem loadable_of_ofJson? (json : Json) (single : json.NoRepeats) {term : Term}
    (read : ofJson? json = some term) {e : Expr} (compiled : term.compile = .ok e) :
    e.Loadable ∧ e.toJson.depth ≤ json.depth := by
  induction json using Json.parts_induction generalizing term e with
  | step json ih =>
    have below {part : Json} (member : part ∈ json.parts) {term : Term}
        (read : ofJson? part = some term) {e : Expr} (compiled : term.compile = .ok e) :
        e.Loadable ∧ e.toJson.depth < json.depth := by
      obtain ⟨loadable, shallow⟩ := ih part member (single.of_mem_parts member) read compiled
      exact ⟨loadable, Nat.lt_of_le_of_lt shallow (Json.depth_lt_of_mem_parts member)⟩
    cases json with
    | boolean b =>
        cases read
        cases compiled
        exact ⟨trivial, Nat.zero_le _⟩
    | integer n =>
        obtain ⟨m, -, rfl⟩ := Option.map_eq_some_iff.mp read
        cases compiled
        exact ⟨trivial, Nat.zero_le _⟩
    | string s =>
        cases read
        obtain ⟨t, parsed, rfl⟩ := compile_string_eq_ok_iff.mp compiled
        exact ⟨(Template.parse_eq_ok_iff.mp parsed).1, Nat.zero_le _⟩
    | array items =>
        obtain ⟨terms, inside, rfl⟩ := Option.map_eq_some_iff.mp read
        obtain ⟨exprs, each, rfl⟩ := compile_array_eq_ok_iff.mp compiled
        rw [ofJsons?_eq_mapM] at inside
        rw [compileAll_eq_mapM] at each
        have loaded (e : Expr) (member : e ∈ exprs) :
            e.Loadable ∧ e.toJson.depth < (Json.array items).depth := by
          obtain ⟨term, present, own⟩ := Result.exists_of_mem_mapM each member
          obtain ⟨item, listed, value⟩ := Json.exists_of_mem_mapM inside present
          exact below listed value own
        refine ⟨Expr.allLoadable_iff.mpr fun e member => (loaded e member).1,
          Json.depth_le_of_parts (Nat.succ_pos _) ?_⟩
        rw [Expr.toJson, Expr.toJsons_eq_map, Json.parts, List.forall_mem_map]
        exact fun e member => (loaded e member).2
    | object members =>
        have inside {name : String} {term : Term}
            (member : (name, some term) ∈ membersOfJson members) {e : Expr}
            (compiled : term.compile = .ok e) :
            e.Loadable ∧ e.toJson.depth < (Json.object members).depth := by
          obtain ⟨part, present, own⟩ := exists_of_mem_membersOfJson member
          exact below present own compiled
        rcases ofMembers?_cases read with ⟨name, rfl⟩ | ⟨name, arguments, rfl, argv⟩ |
          ⟨noReference, noCall, fields, named, rfl⟩
        · cases compiled
          exact ⟨trivial, Nat.succ_le_succ (Nat.zero_le _)⟩
        · obtain ⟨f, exprs, -, each, built⟩ := compile_call_eq_ok_iff.mp compiled
          cases Expr.eq_call_of_ofCall built
          obtain ⟨loadable, shallow⟩ := inside argv (compile_array_eq_ok_iff.mpr ⟨exprs, each, rfl⟩)
          refine ⟨⟨built, loadable⟩, Json.depth_le_of_parts (Nat.succ_pos _) fun part written => ?_⟩
          simp only [Expr.toJson, Json.parts, List.map_cons, List.map_nil, List.mem_cons,
            List.not_mem_nil, or_false] at written
          rcases written with rfl | rfl
          · exact Nat.succ_pos _
          · exact shallow
        · obtain ⟨exprs, each, rfl⟩ := compile_record_eq_ok_iff.mp compiled
          have single' : ((membersOfJson members).map (·.1)).Nodup := by
            rw [names_membersOfJson]
            exact single.1
          refine ⟨loadable_record single' named noReference noCall each fun member _ own =>
            (inside member own).1, Json.depth_le_of_parts (Nat.succ_pos _) ?_⟩
          rw [Expr.toJson, Expr.fieldsToJson_eq_map, Json.parts, List.map_map, List.forall_mem_map]
          intro field member
          obtain ⟨term, own, present⟩ := exists_member_of_compileFields named each member
          exact (inside present own).2
    | null | decimal _ | unreadable => cases read

end Document.Term

end EndpointResolution
