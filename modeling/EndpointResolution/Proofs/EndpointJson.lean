import EndpointResolution.Proofs.ExpressionJson
import EndpointResolution.Proofs.ParameterJson

/-!
Conditions and endpoints through JSON and back. Lists and dictionaries without contents are left
out, so what is written nests no deeper than what has been read.
-/

namespace EndpointResolution

/-- A list or dictionary, unless it is empty. -/
def Json.filled? (json : Json) : Option Json := if json.parts = [] then none else some json

/-- Documents have calls as conditions, and nothing else. -/
def Condition.toJson (c : Condition) : Json :=
  match c.expr with
  | .call f arguments =>
      .object ([("fn", .string f.name), ("argv", .array (Expr.toJsons arguments))] ++
        Parameter.optionalMember "assign" (c.assign.map .string))
  | other => other.toJson

def EndpointTemplate.headersToJson (headers : Dict (List Expr)) : Json :=
  .object (headers.map fun values => .array (Expr.toJsons values)).entries

def EndpointTemplate.toJson (t : EndpointTemplate) : Json :=
  .object ([("url", t.url.toJson)] ++
    Parameter.optionalMember "headers" (headersToJson t.headers).filled? ++
    Parameter.optionalMember "properties"
      (Json.object (Expr.fieldsToJson t.properties.entries)).filled?)

structure Condition.Loadable (c : Condition) : Prop where
  call : ∃ f arguments, c.expr = .call f arguments
  expr : c.expr.Loadable

structure EndpointTemplate.Loadable (t : EndpointTemplate) : Prop where
  url : t.url.Loadable
  headers : ∀ header ∈ t.headers.entries, header.2 ≠ [] ∧ Expr.AllLoadable header.2
  properties : Expr.FieldsLoadable t.properties.entries

namespace Json

theorem filled?_eq_some_iff {json part : Json} :
    json.filled? = some part ↔ part = json ∧ json.parts ≠ [] := by
  rw [filled?]
  split
  · next empty => simp [empty]
  · next nonempty => simp [nonempty, eq_comm]

theorem depth_lt_of_filled? {json part : Json} {levels : Nat} (h : json.filled? = some part)
    (inside : ∀ own ∈ json.parts, own.depth + 1 < levels) : part.depth < levels := by
  obtain ⟨rfl, nonempty⟩ := filled?_eq_some_iff.mp h
  obtain ⟨own, member⟩ := List.exists_mem_of_ne_nil _ nonempty
  have above := inside own member
  have shallow : part.depth ≤ levels - 1 := by
    refine depth_le_of_parts (by omega) fun other present => ?_
    have below := inside other present
    omega
  omega

theorem withDefault?_filled?_array {α : Type} (read? : Json → Option α) (items : List Json) :
    withDefault? [] (listOf? read?) (filled? (.array items)) = items.mapM read? := by
  cases items with
  | nil => rfl
  | cons item rest => rfl

theorem withDefault?_filled?_object {α : Type} (read? : Json → Option α)
    (members : List (String × Json)) :
    withDefault? ∅ (dictOf? read?) (filled? (.object members)) =
      dictOf? read? (.object members) := by
  cases members with
  | nil => rfl
  | cons member rest => rfl

end Json

namespace Condition

open Document

theorem exists_clause_of_loadable {c : Condition} (h : c.Loadable) :
    ∃ clause, Clause.ofJson? c.toJson = some clause ∧ clause.compile = .ok c := by
  obtain ⟨expr, assign⟩ := c
  obtain ⟨⟨f, arguments, rfl⟩, sound, inside⟩ := h
  obtain ⟨terms, read, compiled⟩ := Expr.exists_terms_of_allLoadable arguments inside
  refine ⟨⟨f.name, terms, assign⟩, ?_, ?_⟩
  · have members : (toJson ⟨.call f arguments, assign⟩).members? ["fn", "argv", "assign"] =
        some [some (.string f.name), some (.array (Expr.toJsons arguments)),
          assign.map .string] := by
      cases assign <;>
        simp [toJson, Parameter.optionalMember, Json.members?, Json.member?, Json.occurrences]
    rw [Term.ofJsons?_eq_mapM] at read
    simp [Clause.ofJson?, members, Json.string?, Json.listOf?, read, Parameter.optional?_text]
  · have call := Term.compile_call_eq_ok_iff.mpr
      ⟨f, arguments, Function.ofName?_name f, compiled, sound⟩
    rw [Clause.compile, call]
    rfl

/-- Beside its arguments, texts stand in a call. -/
theorem mem_parts_toJson {f : Function} {arguments : List Expr} {assign : Option String}
    {part : Json} (h : part ∈ (toJson ⟨.call f arguments, assign⟩).parts) :
    (part.depth = 0 ∧ part.Writable) ∨ part = .array (Expr.toJsons arguments) := by
  simp only [toJson, Json.parts, List.map_append, List.mem_append] at h
  rcases h with call | assigned
  · simp only [List.map_cons, List.map_nil, List.mem_cons, List.not_mem_nil, or_false] at call
    rcases call with rfl | rfl
    · exact .inl ⟨rfl, trivial⟩
    · exact .inr rfl
  · obtain ⟨_, -, rfl⟩ :=
      Option.map_eq_some_iff.mp (Parameter.eq_some_of_mem_optionalMember assigned)
    exact .inl ⟨rfl, trivial⟩

theorem loadable_of_clause {json : Json} (single : json.NoRepeats) {clause : Clause}
    (read : Clause.ofJson? json = some clause) {c : Condition} (compiled : clause.compile = .ok c) :
    c.Loadable ∧ c.toJson.depth ≤ json.depth := by
  simp only [Clause.ofJson?, Option.bind_eq_bind, Option.bind_eq_some_iff] at read
  obtain ⟨members, inside, read⟩ := read
  split at read
  · next function arguments assign =>
      simp only [Option.bind_eq_some_iff, Option.pure_def, Option.some.injEq] at read
      obtain ⟨_, -, name, -, part, rfl, terms, list, text, -, rfl⟩ := read
      obtain ⟨items, rfl, each⟩ := Json.listOf?_eq_some_iff.mp list
      obtain ⟨expr, call, whole⟩ := Result.bind_eq_ok_iff.mp compiled
      cases whole
      obtain ⟨f, exprs, -, inner, built⟩ := Term.compile_call_eq_ok_iff.mp call
      cases Expr.eq_call_of_ofCall built
      have member : Json.array items ∈ json.parts := Json.mem_parts_of_members? inside (by simp)
      have below := Json.depth_lt_of_mem_parts member
      -- The arguments are those of an array that stands alone.
      have array : Term.ofJson? (.array items) = some (.array terms) := by
        simp [Term.ofJson?, Term.ofJsons?_eq_mapM, each]
      obtain ⟨loadable, shallow⟩ := Term.loadable_of_ofJson? (.array items)
        (single.of_mem_parts member) array (Term.compile_array_eq_ok_iff.mpr ⟨exprs, inner, rfl⟩)
      refine ⟨⟨⟨f, exprs, rfl⟩, built, loadable⟩, ?_⟩
      refine Json.depth_le_of_parts (Nat.zero_lt_of_lt below) fun part present => ?_
      rcases mem_parts_toJson present with ⟨flat, -⟩ | rfl
      · rw [flat]
        exact Nat.zero_lt_of_lt below
      · exact Nat.lt_of_le_of_lt shallow below
  · cases read

end Condition

namespace Document.Target

theorem compileHeaders_cons_eq_ok_iff {name : String} {values : List Term}
    {rest : List (String × List Term)} {headers : List (String × List Expr)} :
    compileHeaders ((name, values) :: rest) = .ok headers ↔
      ∃ exprs others, Term.compileAll values = .ok exprs ∧ compileHeaders rest = .ok others ∧
        headers = (name, exprs) :: others := by
  rw [compileHeaders]
  exact Result.both_eq_ok_iff

theorem compileHeaders_eq_mapFields (headers : List (String × List Term)) :
    compileHeaders headers = Result.mapFields Term.compileAll headers := by
  induction headers with
  | nil => rfl
  | cons header rest ih =>
      rw [compileHeaders, ih, Result.mapFields_cons]

theorem compile_eq_ok_iff {target : Target} {t : EndpointTemplate} :
    target.compile = .ok t ↔ ∃ url headers properties, target.url.compile = .ok url ∧
      compileHeaders target.headers.entries = .ok headers ∧
      Term.compileFields target.properties.entries = .ok properties ∧
      t = ⟨url, .ofList (headers.filter (!·.2.isEmpty)), .ofList properties⟩ := by
  simp [compile, Result.bind_eq_ok_iff, pure, Except.pure, @eq_comm _ t]

end Document.Target

namespace EndpointTemplate

open Document

theorem exists_terms_of_headers {headers : List (String × List Expr)}
    (h : ∀ header ∈ headers, Expr.AllLoadable header.2) :
    ∃ terms : List (String × List Term),
      Json.fieldsOf? (Json.listOf? Term.ofJson?)
        (headers.map fun header => (header.1, Json.array (Expr.toJsons header.2))) = some terms ∧
        Target.compileHeaders terms = .ok headers := by
  induction headers with
  | nil => exact ⟨[], rfl, rfl⟩
  | cons header rest ih =>
      rw [List.forall_mem_cons] at h
      obtain ⟨values, read, compiled⟩ := Expr.exists_terms_of_allLoadable header.2 h.1
      obtain ⟨terms, others, behind⟩ := ih h.2
      rw [Term.ofJsons?_eq_mapM] at read
      refine ⟨(header.1, values) :: terms, ?_, ?_⟩
      · exact Json.mapM_cons_eq_some_iff.mpr
          ⟨(header.1, values), terms, by simp [Json.listOf?, read], others, rfl⟩
      · exact Target.compileHeaders_cons_eq_ok_iff.mpr ⟨header.2, rest, compiled, behind, rfl⟩

/-- Headers are read back from their JSON form. -/
theorem exists_headers_of_loadable {headers : Dict (List Expr)}
    (h : ∀ header ∈ headers.entries, Expr.AllLoadable header.2) :
    ∃ terms, Json.dictOf? (Json.listOf? Term.ofJson?) (headersToJson headers) = some terms ∧
      Target.compileHeaders terms.entries = .ok headers.entries := by
  obtain ⟨terms, read, compiled⟩ := exists_terms_of_headers h
  have sorted : Assoc.Sorted terms := by
    rw [Target.compileHeaders_eq_mapFields] at compiled
    exact (Result.sorted_mapFields_iff compiled).mp headers.sorted
  refine ⟨⟨terms, sorted⟩, ?_, compiled⟩
  rw [headersToJson, Json.dictOf?_object, Dict.map, read, Option.map_some,
    Dict.ofList_of_sorted sorted]

theorem exists_properties_of_loadable {properties : Dict Expr}
    (h : Expr.FieldsLoadable properties.entries) :
    ∃ terms, Json.dictOf? Term.ofJson? (.object (Expr.fieldsToJson properties.entries)) =
        some terms ∧
      Term.compileFields terms.entries = .ok properties.entries := by
  obtain ⟨terms, read, compiled⟩ := Expr.exists_terms_of_fieldsLoadable _ h
  have sorted : Assoc.Sorted terms := by
    rw [Term.compileFields_eq_mapFields] at compiled
    exact (Result.sorted_mapFields_iff compiled).mp properties.sorted
  refine ⟨⟨terms, sorted⟩, ?_, compiled⟩
  rw [Json.dictOf?_object, Term.fieldsOf?_of_membersOfJson read, Option.map_some,
    Dict.ofList_of_sorted sorted]

theorem exists_target_of_loadable {t : EndpointTemplate} (h : t.Loadable) :
    ∃ target, Target.ofJson? t.toJson = some target ∧ target.compile = .ok t := by
  obtain ⟨url, readUrl, compiledUrl⟩ := Expr.exists_term_of_loadable t.url h.url
  obtain ⟨headers, readHeaders, compiledHeaders⟩ :=
    exists_headers_of_loadable fun header member => (h.headers header member).2
  obtain ⟨properties, readProperties, compiledProperties⟩ :=
    exists_properties_of_loadable h.properties
  refine ⟨⟨url, headers, properties⟩, ?_, ?_⟩
  · have members : t.toJson.members? ["url", "headers", "properties"] =
        some [some t.url.toJson, (headersToJson t.headers).filled?,
          (Json.object (Expr.fieldsToJson t.properties.entries)).filled?] := by
      cases filled : (headersToJson t.headers).filled? <;>
        cases filled' : (Json.object (Expr.fieldsToJson t.properties.entries)).filled? <;>
        simp [toJson, filled, filled', Parameter.optionalMember, Json.members?, Json.member?,
          Json.occurrences]
    rw [← Json.withDefault?_filled?_object] at readProperties
    rw [headersToJson, ← Json.withDefault?_filled?_object, ← headersToJson] at readHeaders
    simp [Target.ofJson?, members, readUrl, readHeaders, readProperties]
  · have kept : t.headers.entries.filter (!·.2.isEmpty) = t.headers.entries := by
      rw [List.filter_eq_self]
      intro header member
      simpa using (h.headers header member).1
    refine Target.compile_eq_ok_iff.mpr
      ⟨t.url, _, _, compiledUrl, compiledHeaders, compiledProperties, ?_⟩
    rw [kept, Dict.ofList_entries, Dict.ofList_entries]

theorem mem_parts_toJson {t : EndpointTemplate} {part : Json} (h : part ∈ t.toJson.parts) :
    part = t.url.toJson ∨ (headersToJson t.headers).filled? = some part ∨
      (Json.object (Expr.fieldsToJson t.properties.entries)).filled? = some part := by
  simp only [toJson, Json.parts, List.map_append, List.mem_append] at h
  rcases h with (url | headers) | properties
  · exact .inl (List.mem_singleton.mp url)
  · exact .inr (.inl (Parameter.eq_some_of_mem_optionalMember headers))
  · exact .inr (.inr (Parameter.eq_some_of_mem_optionalMember properties))

theorem loadable_of_header {json : Json} (single : json.NoRepeats) {given : Option Json}
    (inside : ∀ whole, given = some whole → whole ∈ json.parts) {terms : Dict (List Term)}
    (read : Json.withDefault? ∅ (Json.dictOf? (Json.listOf? Term.ofJson?)) given = some terms)
    {headers : List (String × List Expr)}
    (compiled : Target.compileHeaders terms.entries = .ok headers)
    {header : String × List Expr} (member : header ∈ headers) :
    Expr.AllLoadable header.2 ∧ (Json.array (Expr.toJsons header.2)).depth + 1 < json.depth := by
  rw [Target.compileHeaders_eq_mapFields] at compiled
  obtain ⟨values, present, own⟩ := Result.exists_of_mem_mapFields compiled member
  obtain ⟨whole, rfl, part, there, list⟩ := Json.exists_of_mem_withDefault?_dictOf? read present
  obtain ⟨items, rfl, each⟩ := Json.listOf?_eq_some_iff.mp list
  have around := inside whole rfl
  have array : Term.ofJson? (.array items) = some (.array values) := by
    simp [Term.ofJson?, Term.ofJsons?_eq_mapM, each]
  obtain ⟨loadable, shallow⟩ := Term.loadable_of_ofJson? (.array items)
    ((single.of_mem_parts around).of_mem_parts there) array
    (Term.compile_array_eq_ok_iff.mpr ⟨header.2, own, rfl⟩)
  have below := Json.depth_lt_of_mem_parts there
  have above := Json.depth_lt_of_mem_parts around
  have shallow' : (Json.array (Expr.toJsons header.2)).depth ≤ (Json.array items).depth := shallow
  exact ⟨loadable, by omega⟩

theorem loadable_of_property {json : Json} (single : json.NoRepeats) {given : Option Json}
    (inside : ∀ whole, given = some whole → whole ∈ json.parts) {terms : Dict Term}
    (read : Json.withDefault? ∅ (Json.dictOf? Term.ofJson?) given = some terms)
    {properties : List (String × Expr)}
    (compiled : Term.compileFields terms.entries = .ok properties)
    {property : String × Expr} (member : property ∈ properties) :
    property.2.Loadable ∧ property.2.toJson.depth + 1 < json.depth := by
  rw [Term.compileFields_eq_mapFields] at compiled
  obtain ⟨term, present, own⟩ := Result.exists_of_mem_mapFields compiled member
  obtain ⟨whole, rfl, part, there, value⟩ := Json.exists_of_mem_withDefault?_dictOf? read present
  have around := inside whole rfl
  obtain ⟨loadable, shallow⟩ := Term.loadable_of_ofJson? part
    ((single.of_mem_parts around).of_mem_parts there) value own
  have below := Json.depth_lt_of_mem_parts there
  have above := Json.depth_lt_of_mem_parts around
  exact ⟨loadable, by omega⟩

theorem loadable_of_target {json : Json} (single : json.NoRepeats) {target : Target}
    (read : Target.ofJson? json = some target) {t : EndpointTemplate}
    (compiled : target.compile = .ok t) : t.Loadable ∧ t.toJson.depth ≤ json.depth := by
  simp only [Target.ofJson?, Option.bind_eq_bind, Option.bind_eq_some_iff] at read
  obtain ⟨members, inside, read⟩ := read
  split at read
  · next given headersGiven propertiesGiven =>
      simp only [Option.bind_eq_some_iff, Option.pure_def, Option.some.injEq] at read
      obtain ⟨part, rfl, url, readUrl, headers, readHeaders, properties, readProperties, rfl⟩ :=
        read
      obtain ⟨url', headers', properties', compiledUrl, compiledHeaders, compiledProperties, rfl⟩ :=
        Target.compile_eq_ok_iff.mp compiled
      have within {whole : Json}
          (given : some whole ∈ [some part, headersGiven, propertiesGiven]) :=
        Json.mem_parts_of_members? inside given
      have urlWithin : part ∈ json.parts := within (by simp)
      have urlBelow := Json.depth_lt_of_mem_parts urlWithin
      obtain ⟨urlLoadable, urlShallow⟩ :=
        Term.loadable_of_ofJson? part (single.of_mem_parts urlWithin) readUrl compiledUrl
      have header (own : String × List Expr) (member : own ∈ headers') :=
        loadable_of_header single (fun whole own => within (by simp [own])) readHeaders
          compiledHeaders member
      have property (own : String × Expr) (member : own ∈ properties') :=
        loadable_of_property single (fun whole own => within (by simp [own])) readProperties
          compiledProperties member
      have listed {own : String × List Expr}
          (member : own ∈ (Dict.ofList (headers'.filter (!·.2.isEmpty))).entries) :
          own ∈ headers' ∧ own.2 ≠ [] := by
        simpa using List.mem_filter.mp (Assoc.mem_of_mem_ofList member)
      refine ⟨⟨urlLoadable, ?_, ?_⟩, Json.depth_le_of_parts (Nat.zero_lt_of_lt urlBelow) ?_⟩
      · intro own member
        obtain ⟨present, nonempty⟩ := listed member
        exact ⟨nonempty, (header own present).1⟩
      · refine Expr.fieldsLoadable_iff.mpr fun own member => ?_
        exact (property own (Assoc.mem_of_mem_ofList member)).1
      · intro written present
        rcases mem_parts_toJson present with rfl | isHeaders | isProperties
        · exact Nat.lt_of_le_of_lt urlShallow urlBelow
        · refine Json.depth_lt_of_filled? isHeaders fun own inHeaders => ?_
          obtain ⟨_, entry, rfl⟩ := List.mem_map.mp inHeaders
          obtain ⟨source, member, rfl⟩ := List.mem_map.mp entry
          exact (header source (listed member).1).2
        · refine Json.depth_lt_of_filled? isProperties fun own inProperties => ?_
          rw [Expr.fieldsToJson_eq_map] at inProperties
          obtain ⟨_, entry, rfl⟩ := List.mem_map.mp inProperties
          obtain ⟨source, member, rfl⟩ := List.mem_map.mp entry
          exact (property source (Assoc.mem_of_mem_ofList member)).2
  · cases read

end EndpointTemplate

theorem Condition.writable (c : Condition) : c.toJson.Writable := by
  obtain ⟨expr, assign⟩ := c
  cases expr with
  | call f arguments =>
      refine Json.writable_object fun part present => ?_
      rcases mem_parts_toJson present with ⟨-, writable⟩ | rfl
      · exact writable
      · exact Expr.allWritable arguments
  | boolean _ | integer _ | template _ | array _ | record _ | reference _ =>
      exact Expr.writable _

theorem EndpointTemplate.writable (t : EndpointTemplate) : t.toJson.Writable := by
  refine Json.writable_object fun part present => ?_
  rcases mem_parts_toJson present with rfl | headers | properties
  · exact t.url.writable
  · obtain ⟨rfl, -⟩ := Json.filled?_eq_some_iff.mp headers
    refine Json.membersWritable_iff.mpr ?_
    rw [Dict.map, List.forall_mem_map]
    exact fun header _ => Expr.allWritable header.2
  · obtain ⟨rfl, -⟩ := Json.filled?_eq_some_iff.mp properties
    exact Expr.fieldsWritable _

end EndpointResolution
