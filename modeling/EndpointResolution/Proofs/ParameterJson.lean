import EndpointResolution.Parameter.Json
import EndpointResolution.Proofs.ValueJson

/-!
Declarations of parameters through JSON and back. A declaration that a document can give comes back
from its JSON form, and whatever is read from a document is of that kind.
-/

namespace EndpointResolution

namespace BuiltIn

theorem name_ofName (name : String) : (ofName name).name = name := by
  rw [ofName]
  cases found : known.find? (·.name = name) with
  | none => rfl
  | some builtIn =>
      have own : builtIn.name = name := by simpa using List.find?_some found
      exact own

end BuiltIn

theorem ParameterType.ofName?_name (type : ParameterType) : ofName? type.name = some type := by
  cases type <;> rfl

namespace Parameter

/-- Documents give such declarations: a default is not absence, and a built-in value goes by the
name that it is known by. -/
structure Loadable (p : Parameter) : Prop where
  default : ∀ value, p.default = some value → value ≠ .none ∧ value.Loadable
  builtIn : ∀ builtIn, p.builtIn = some builtIn → BuiltIn.ofName builtIn.name = builtIn

theorem optional?_default {p : Parameter} (h : p.Loadable) :
    Json.optional? Value.ofJson? (p.default.map Value.toJson) = some p.default := by
  cases given : p.default with
  | none => rfl
  | some value =>
      obtain ⟨present, loadable⟩ := h.default value given
      have written : value.toJson ≠ .null := by
        cases value <;> simp_all [Value.toJson]
      refine Json.optional?_eq_some_some_iff.mpr ⟨value.toJson, rfl, written, ?_⟩
      exact Value.ofJson?_toJson value loadable.1 loadable.2

theorem optional?_text (text : Option String) :
    Json.optional? Json.string? (text.map .string) = some text := by
  cases text <;> rfl

theorem members?_toJson (p : Parameter) :
    p.toJson.members? ["type", "required", "default", "builtIn", "documentation"] =
      some [some (.string p.type.name), some (.boolean p.required), p.default.map Value.toJson,
        (p.builtIn.map BuiltIn.name).map .string, p.documentation.map .string] := by
  cases given : p.default <;> cases named : p.builtIn <;> cases documented : p.documentation <;>
    simp [toJson, given, named, documented, optionalMember, Json.members?, Json.member?,
      Json.occurrences]

theorem ofJson?_toJson {p : Parameter} (h : p.Loadable) : ofJson? p.toJson = some p := by
  have default := optional?_default h
  have builtIn : (p.builtIn.map BuiltIn.name).map BuiltIn.ofName = p.builtIn := by
    cases named : p.builtIn with
    | none => rfl
    | some builtIn => simp [h.builtIn builtIn named]
  simp [ofJson?, members?_toJson, Json.nameOf?, ParameterType.ofName?_name, Json.withDefault?,
    Json.boolean?, default, optional?_text, builtIn, -Option.map_map]

theorem eq_some_of_mem_optionalMember {name : String} {json : Option Json} {part : Json}
    (h : part ∈ (optionalMember name json).map (·.2)) : json = some part := by
  cases json <;> simp_all [optionalMember]

/-- Apart from the default, texts and truth values stand in the JSON form. -/
theorem mem_parts_toJson {p : Parameter} {part : Json} (h : part ∈ p.toJson.parts) :
    (part.depth = 0 ∧ part.Writable) ∨ ∃ value, p.default = some value ∧ part = value.toJson := by
  simp only [toJson, Json.parts, List.map_append, List.mem_append] at h
  rcases h with ((typed | default) | builtIn) | documentation
  · refine .inl ?_
    simp only [List.map_cons, List.map_nil, List.mem_cons, List.not_mem_nil, or_false] at typed
    rcases typed with rfl | rfl
    · exact ⟨rfl, trivial⟩
    · exact ⟨rfl, trivial⟩
  · obtain ⟨value, given, own⟩ := Option.map_eq_some_iff.mp (eq_some_of_mem_optionalMember default)
    exact .inr ⟨value, given, own.symm⟩
  · obtain ⟨_, -, rfl⟩ := Option.map_eq_some_iff.mp (eq_some_of_mem_optionalMember builtIn)
    exact .inl ⟨rfl, trivial⟩
  · obtain ⟨_, -, rfl⟩ := Option.map_eq_some_iff.mp (eq_some_of_mem_optionalMember documentation)
    exact .inl ⟨rfl, trivial⟩

theorem loadable_of_ofJson? {json : Json} {p : Parameter} (h : ofJson? json = some p) :
    p.Loadable ∧ p.toJson.depth ≤ json.depth := by
  simp only [ofJson?, Option.bind_eq_bind, Option.bind_eq_some_iff] at h
  obtain ⟨members, inside, read⟩ := h
  split at read
  · next type required default builtIn documentation =>
      simp only [Option.bind_eq_some_iff, Option.pure_def, Option.some.injEq] at read
      obtain ⟨typeJson, given, _, -, type, -, required, -, default, readDefault, name, -,
        documentation, -, rfl⟩ := read
      have source {value : Value} (some : default = some value) : ∃ part ∈ json.parts,
          part ≠ .null ∧ Value.ofJson? part = .some value := by
        subst some
        obtain ⟨part, rfl, present, own⟩ := Json.optional?_eq_some_some_iff.mp readDefault
        exact ⟨part, Json.mem_parts_of_members? inside (by simp), present, own⟩
      have typed : typeJson ∈ json.parts := Json.mem_parts_of_members? inside (by simp [given])
      have positive : 0 < json.depth := Nat.zero_lt_of_lt (Json.depth_lt_of_mem_parts typed)
      refine ⟨⟨?_, ?_⟩, Json.depth_le_of_parts positive ?_⟩
      · intro value some
        obtain ⟨part, -, present, own⟩ := source some
        refine ⟨?_, (Value.loadable_of_ofJson? part own).1⟩
        rintro rfl
        exact present (Value.eq_null_of_ofJson? own)
      · intro builtIn some
        obtain ⟨text, -, rfl⟩ := Option.map_eq_some_iff.mp some
        rw [BuiltIn.name_ofName]
      · intro part written
        rcases mem_parts_toJson written with ⟨flat, -⟩ | ⟨value, some, rfl⟩
        · rw [flat]
          exact positive
        · obtain ⟨part, member, -, own⟩ := source some
          exact Nat.lt_of_le_of_lt (Value.loadable_of_ofJson? part own).2
            (Json.depth_lt_of_mem_parts member)
  · cases read

theorem writable (p : Parameter) : p.toJson.Writable := by
  refine Json.writable_object fun part written => ?_
  rcases mem_parts_toJson written with ⟨-, writable⟩ | ⟨value, given, rfl⟩
  · exact writable
  · exact value.writable

end Parameter

namespace Parameters

/-- Declarations that a document has given come back from their JSON form. -/
theorem ofJson?_toJson {parameters : Parameters}
    (h : ∀ declaration ∈ parameters.entries, declaration.2.Loadable) :
    ofJson? parameters.toJson = some parameters :=
  Json.dictOf?_map fun declaration member => Parameter.ofJson?_toJson (h declaration member)

theorem loadable_of_ofJson? {json : Json} {parameters : Parameters}
    (h : ofJson? json = some parameters) :
    (∀ declaration ∈ parameters.entries, declaration.2.Loadable) ∧
      parameters.toJson.depth ≤ json.depth := by
  have each : ∀ declaration ∈ parameters.entries,
      declaration.2.Loadable ∧ declaration.2.toJson.depth < json.depth := by
    intro declaration member
    obtain ⟨part, inside, read⟩ := Json.exists_of_mem_dictOf? h member
    obtain ⟨loadable, shallow⟩ := Parameter.loadable_of_ofJson? read
    exact ⟨loadable, Nat.lt_of_le_of_lt shallow (Json.depth_lt_of_mem_parts inside)⟩
  obtain ⟨members, rfl⟩ := Json.exists_of_dictOf? h
  refine ⟨fun declaration member => (each declaration member).1,
    Json.depth_le_of_parts (Nat.succ_pos _) fun part written => ?_⟩
  obtain ⟨entry, member, rfl⟩ := List.mem_map.mp written
  obtain ⟨declaration, present, rfl⟩ := List.mem_map.mp member
  exact (each declaration present).2

theorem writable (parameters : Parameters) : parameters.toJson.Writable := by
  refine Json.membersWritable_iff.mpr ?_
  rw [Dict.map, List.forall_mem_map]
  exact fun declaration _ => declaration.2.writable

end Parameters

end EndpointResolution
