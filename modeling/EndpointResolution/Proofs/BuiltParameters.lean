import EndpointResolution.Proofs.ParameterJson

/-!
Declarations made by calls, one for each parameter and for each thing said of it. Such declarations
can be more than documents give: a default may be absence or hold an endpoint, and a built-in value
that is known may be given under its name like one that is not. These are the ones that change when
they are written and read.
-/

namespace EndpointResolution

namespace Parameter

/-- What a call says of a parameter, in place of what has been said before. -/
inductive Setting where
  | required
  | default (value : Value)
  | builtIn (builtIn : BuiltIn)
  | documentation (text : String)

def set (p : Parameter) : Setting → Parameter
  | .required => { p with required := true }
  | .default value => { p with default := some value }
  | .builtIn builtIn => { p with builtIn := some builtIn }
  | .documentation text => { p with documentation := some text }

def build (type : ParameterType) (settings : List Setting) : Parameter :=
  settings.foldl set { type }

/-- A default, if there is one, is present and without endpoints, and a built-in value that is known
is not given like one that is not. -/
structure Faithful (p : Parameter) : Prop where
  present : p.default ≠ some .none
  endpointFree : ∀ value, p.default = some value → value.EndpointFree
  unknown : ∀ name, p.builtIn = some (.other name) → name ∉ BuiltIn.known.map BuiltIn.name

end Parameter

namespace Parameters

/-- A name, a type and what is said of the parameter by calls. -/
structure Declaration where
  name : String
  type : ParameterType
  settings : List Parameter.Setting

/-- A later declaration of a name replaces a former one. -/
def build (declarations : List Declaration) : Parameters :=
  .ofList (declarations.map fun d => (d.name, Parameter.build d.type d.settings))

end Parameters

namespace Parameter

theorem default_set {p : Parameter} {setting : Setting} {value : Value}
    (h : (p.set setting).default = some value) :
    setting = .default value ∨ p.default = some value := by
  cases setting with
  | default own => exact .inl (congrArg Setting.default (Option.some.inj h))
  | required | builtIn _ | documentation _ => exact .inr h

theorem default_foldl_set {settings : List Setting} {p : Parameter} {value : Value}
    (h : (settings.foldl set p).default = some value) :
    .default value ∈ settings ∨ p.default = some value := by
  induction settings generalizing p with
  | nil => exact .inr h
  | cons setting rest ih =>
      rcases ih h with later | before
      · exact .inl (List.mem_cons_of_mem _ later)
      · rcases default_set before with rfl | earlier
        · exact .inl List.mem_cons_self
        · exact .inr earlier

/-- A default has been given by a call. -/
theorem default_mem_of_build {type : ParameterType} {settings : List Setting} {value : Value}
    (h : (build type settings).default = some value) : .default value ∈ settings :=
  (default_foldl_set h).resolve_right nofun

end Parameter

theorem Parameters.exists_declaration_of_build {declarations : List Declaration}
    {entry : String × Parameter} (h : entry ∈ (build declarations).entries) :
    ∃ d ∈ declarations, Parameter.build d.type d.settings = entry.2 := by
  obtain ⟨d, member, rfl⟩ := List.mem_map.mp (Assoc.mem_of_mem_ofList h)
  exact ⟨d, member, rfl⟩

theorem BuiltIn.ofName_name_iff {builtIn : BuiltIn} :
    ofName builtIn.name = builtIn ↔
      ∀ name, builtIn = .other name → name ∉ known.map BuiltIn.name := by
  cases builtIn with
  | region | useFIPS | useDualStack | endpoint => exact iff_of_true rfl nofun
  | other name =>
      rw [BuiltIn.name, ofName]
      cases found : known.find? (·.name = name) with
      | none =>
          have absent : ∀ builtIn ∈ known, builtIn.name ≠ name := by
            simpa using List.find?_eq_none.mp found
          refine iff_of_true rfl ?_
          rintro _ ⟨⟩ given
          obtain ⟨builtIn, member, own⟩ := List.mem_map.mp given
          exact absent builtIn member own
      | some builtIn =>
          have member := List.mem_of_find?_eq_some found
          have own : builtIn.name = name := by simpa using List.find?_some found
          refine iff_of_false ?_ fun unknown =>
            unknown name rfl (List.mem_map.mpr ⟨builtIn, member, own⟩)
          rintro rfl
          simp [known] at member

theorem Parameter.loadable_iff {p : Parameter}
    (wellFormed : ∀ value, p.default = some value → value.WellFormed) :
    p.Loadable ↔ p.Faithful := by
  constructor
  · intro loadable
    refine ⟨fun absent => (loadable.default _ absent).1 rfl,
      fun value given => (loadable.default value given).2.2, fun name given => ?_⟩
    exact BuiltIn.ofName_name_iff.mp (loadable.builtIn _ given) name rfl
  · intro faithful
    refine ⟨fun value given => ⟨?_, wellFormed value given, faithful.endpointFree value given⟩,
      fun builtIn given => BuiltIn.ofName_name_iff.mpr ?_⟩
    · rintro rfl
      exact faithful.present given
    · rintro name rfl
      exact faithful.unknown name given

namespace Parameters

theorem ofJson?_toJson_iff {parameters : Parameters}
    (wellFormed : ∀ declaration ∈ parameters.entries, ∀ value,
      declaration.2.default = some value → value.WellFormed) :
    ofJson? parameters.toJson = some parameters ↔
      ∀ declaration ∈ parameters.entries, declaration.2.Faithful := by
  constructor
  · intro read declaration member
    exact (Parameter.loadable_iff (wellFormed declaration member)).mp
      ((loadable_of_ofJson? read).1 declaration member)
  · intro faithful
    exact ofJson?_toJson fun declaration member =>
      (Parameter.loadable_iff (wellFormed declaration member)).mpr (faithful declaration member)

theorem parse?_render {parameters : Parameters}
    (limit : parameters.toJson.depth ≤ Json.nestingLimit) :
    (Json.parse? parameters.toJson.render).bind ofJson? = ofJson? parameters.toJson := by
  rw [Json.parse?_render (writable parameters) limit, Option.bind_some]

/-- Declarations of a document are read as they are written, as JSON and as its text. Those made by
calls are so exactly if they are faithful, and as text unless it nests too deep. -/
theorem written_declarations_read_back :
    (∀ json parameters, ofJson? json = some parameters →
      ofJson? parameters.toJson = some parameters ∧
        ∀ text, Json.parse? text = some json →
          (Json.parse? parameters.toJson.render).bind ofJson? = some parameters) ∧
      ∀ declarations : List Declaration,
        (∀ d ∈ declarations, ∀ value, .default value ∈ d.settings → value.WellFormed) →
          (ofJson? (build declarations).toJson = some (build declarations) ↔
            ∀ entry ∈ (build declarations).entries, entry.2.Faithful) ∧
          ((build declarations).toJson.depth ≤ Json.nestingLimit →
            (Json.parse? (build declarations).toJson.render).bind ofJson? =
              ofJson? (build declarations).toJson) := by
  constructor
  · intro json parameters read
    obtain ⟨loadable, shallow⟩ := loadable_of_ofJson? read
    have again := ofJson?_toJson loadable
    refine ⟨again, fun text reads => ?_⟩
    rw [parse?_render (Nat.le_trans shallow (Json.depth_of_parse? reads)), again]
  · intro declarations wellFormed
    refine ⟨ofJson?_toJson_iff fun entry member value given => ?_, parse?_render⟩
    obtain ⟨d, declared, own⟩ := exists_declaration_of_build member
    rw [← own] at given
    exact wellFormed d declared value (Parameter.default_mem_of_build given)

/-- A type with a small letter, a member that is null and a built-in value that is not known. -/
def aliased : String :=
  "\x7b\"A\":\x7b\"builtIn\":\"X::Y\",\"default\":null,\"type\":\"stringArray\"\x7d\x7d"

def aliasedJson : Json :=
  .object [("A", .object [("builtIn", .string "X::Y"), ("default", .null),
    ("type", .string "stringArray")])]

def aliasedParameters : Parameters :=
  .ofList [("A", { type := .stringArray, builtIn := some (.other "X::Y") })]

/-- A known built-in value under its name, and absence as a default. -/
def unfaithful : List Declaration :=
  [⟨"A", .string, [.builtIn (.other "AWS::Region")]⟩, ⟨"B", .string, [.required, .default .none]⟩]

theorem written_declarations_read_back_aliased :
    Json.parse? aliased = some aliasedJson ∧ ofJson? aliasedJson = some aliasedParameters ∧
      (Json.parse? (toJson aliasedParameters).render).bind ofJson? = some aliasedParameters ∧
      (∀ d ∈ unfaithful, ∀ value, .default value ∈ d.settings → value.WellFormed) ∧
      ofJson? (build unfaithful).toJson ≠ some (build unfaithful) := by
  have reads : Json.parse? aliased = some aliasedJson := by decide +kernel
  have given : ofJson? aliasedJson = some aliasedParameters := by rfl
  have wellFormed : ∀ d ∈ unfaithful, ∀ value, .default value ∈ d.settings → value.WellFormed := by
    simp [unfaithful, Value.WellFormed]
  obtain ⟨documents, calls⟩ := written_declarations_read_back
  refine ⟨reads, given, (documents _ _ given).2 _ reads, wellFormed, fun same => ?_⟩
  have faithful := (calls unfaithful wellFormed).1.mp same
    ("B", Parameter.build .string [.required, .default .none]) (by decide +kernel)
  exact faithful.present rfl

end Parameters

end EndpointResolution
