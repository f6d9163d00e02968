import EndpointResolution.Proofs.Binding
import EndpointResolution.Proofs.ByteOrder
import EndpointResolution.Proofs.DocumentValidity

/-!
When binding fails, and what it binds otherwise. A declared parameter takes what is supplied, or its
default, or absence. It is at fault if it is required and absent, or of another type than declared;
the first one at fault in the order of names is reported. Defaults of a rule set are of the declared
types, so it is what has been supplied that is of another type.
-/

namespace EndpointResolution

namespace Parameter

/-- What is supplied counts, unless it is absence, and the default counts for it. -/
inductive Takes (parameter : Parameter) : Option Value → Value → Prop
  | supplied {value : Value} (present : value ≠ .none) : Takes parameter (some value) value
  | default {supplied : Option Value} {value : Value}
      (unset : supplied = none ∨ supplied = some .none) (given : parameter.default = some value) :
      Takes parameter supplied value
  | nothing {supplied : Option Value} (unset : supplied = none ∨ supplied = some .none)
      (plain : parameter.default = none) : Takes parameter supplied .none

theorem takes_iff {parameter : Parameter} {supplied : Option Value} {value : Value} :
    parameter.Takes supplied value ↔ value = parameter.valueFor supplied := by
  constructor
  · intro takes
    cases takes with
    | supplied present => cases value <;> first | rfl | exact absurd rfl present
    | default unset given => rcases unset with rfl | rfl <;> simp [valueFor, given]
    | nothing unset plain => rcases unset with rfl | rfl <;> simp [valueFor, plain]
  · rintro rfl
    have fallback {supplied : Option Value} (unset : supplied = none ∨ supplied = some .none) :
        parameter.Takes supplied (parameter.default.getD .none) := by
      cases given : parameter.default with
      | none => exact .nothing unset given
      | some value => exact .default unset given
    match supplied with
    | none => exact fallback (.inl rfl)
    | some .none => exact fallback (.inr rfl)
    | some (.boolean _) | some (.integer _) | some (.string _) | some (.array _)
    | some (.record _) | some (.endpoint _ _ _) => exact .supplied (by simp)

end Parameter

namespace ParameterType

def kind : ParameterType → Kind
  | .string => .string
  | .boolean => .boolean
  | .stringArray => .array

/-- What is expected and found where a value is of another type: in a list the first item that is
no text, and else the whole. -/
inductive Mismatches : ParameterType → Value → List Kind → Kind → Prop
  | item {front : List Value} {item : Value} {rest : List Value}
      (texts : ∀ other ∈ front, other.kind = .string) (foreign : item.kind ≠ .string) :
      Mismatches .stringArray (.array (front ++ item :: rest)) [.string] item.kind
  | whole {type : ParameterType} {value : Value} (foreign : value.kind ≠ type.kind) :
      Mismatches type value [type.kind] value.kind

end ParameterType

namespace Parameter

/-- Required and absent, or present and of another type. -/
def AtFault (parameter : Parameter) (value : Value) : Prop :=
  (parameter.required = true ∧ value = .none) ∨ (value ≠ .none ∧ ¬ parameter.type.Conforms value)

/-- The failure for a value at fault. -/
inductive Reports (name : String) (parameter : Parameter) (value : Value) : Error → Prop
  | missing (absent : value = .none) : Reports name parameter value (.missingRequiredParameter name)
  | mismatch {expected : List Kind} {found : Kind} (present : value ≠ .none)
      (differs : parameter.type.Mismatches value expected found) :
      Reports name parameter value (.typeMismatch expected found)

end Parameter

namespace Parameters

/-- The declared parameter of the name takes a value that is at fault. -/
def AtFault (parameters : Parameters) (supplied : Environment) (name : String) : Prop :=
  ∃ parameter value, parameters.get? name = some parameter ∧
    parameter.Takes (supplied.get? name) value ∧ parameter.AtFault value

/-- The parameter of the name is at fault, none whose name has lesser bytes is, and the failure is
the one for its value. -/
def FirstFault (parameters : Parameters) (supplied : Environment) (name : String) (e : Error) :
    Prop :=
  (∃ parameter value, parameters.get? name = some parameter ∧
    parameter.Takes (supplied.get? name) value ∧ parameter.AtFault value ∧
    parameter.Reports name value e) ∧
  ∀ other, Percent.bytes other < Percent.bytes name → ¬ parameters.AtFault supplied other

end Parameters

namespace ParameterType

theorem mismatch?_of_kind_ne {type : ParameterType} {value : Value} (present : value ≠ .none)
    (foreign : value.kind ≠ type.kind) :
    type.mismatch? value = some ([type.kind], value.kind) := by
  cases type <;> cases value <;> simp_all [mismatch?, kind, Value.kind]

theorem mismatch?_eq_some_iff {type : ParameterType} {value : Value} {expected : List Kind}
    {found : Kind} : type.mismatch? value = some (expected, found) ↔
      value ≠ .none ∧ type.Mismatches value expected found := by
  constructor
  · intro mismatch
    have present : value ≠ .none := by
      rintro rfl
      cases type <;> cases mismatch
    refine ⟨present, ?_⟩
    by_cases own : value.kind = type.kind
    · cases type with
      | string =>
          cases value with
          | string text => cases mismatch
          | none | boolean _ | integer _ | array _ | record _ | endpoint _ _ _ => cases own
      | boolean =>
          cases value with
          | boolean b => cases mismatch
          | none | integer _ | string _ | array _ | record _ | endpoint _ _ _ => cases own
      | stringArray =>
          cases value with
          | array items =>
              obtain ⟨item, first, eq⟩ := Option.map_eq_some_iff.mp mismatch
              cases eq
              obtain ⟨foreign, front, rest, rfl, texts⟩ := List.find?_eq_some_iff_append.mp first
              exact .item (by simpa using texts) (by simpa using foreign)
          | none | boolean _ | integer _ | string _ | record _ | endpoint _ _ _ => cases own
    · rw [mismatch?_of_kind_ne present own] at mismatch
      cases mismatch
      exact .whole own
  · rintro ⟨present, differs⟩
    cases differs with
    | @item front item rest texts foreign =>
        have first : (front ++ item :: rest).find? (·.kind ≠ .string) = some item :=
          List.find?_eq_some_iff_append.mpr
            ⟨by simpa using foreign, front, rest, rfl, by simpa using texts⟩
        simp only [mismatch?, first, Option.map_some]
    | whole foreign => exact mismatch?_of_kind_ne present foreign

end ParameterType

namespace Parameter

variable {name : String} {parameter : Parameter} {supplied : Option Value}

theorem Reports.unique {value : Value} {e e' : Error} (h : parameter.Reports name value e)
    (h' : parameter.Reports name value e') : e = e' := by
  cases h with
  | missing absent =>
      cases h' with
      | missing => rfl
      | mismatch present => exact absurd absent present
  | mismatch present differs =>
      cases h' with
      | missing absent => exact absurd absent present
      | mismatch _ differs' =>
          have own := ParameterType.mismatch?_eq_some_iff.mpr ⟨present, differs⟩
          have own' := ParameterType.mismatch?_eq_some_iff.mpr ⟨present, differs'⟩
          cases own.symm.trans own'
          rfl

/-- A parameter whose value is at fault is reported, and any other is bound to its value. -/
theorem bind_cases (name : String) (parameter : Parameter) (supplied : Option Value) :
    (parameter.AtFault (parameter.valueFor supplied) ∧
      ∃ e, parameter.Reports name (parameter.valueFor supplied) e ∧
        parameter.bind name supplied = .error e) ∨
    ¬ parameter.AtFault (parameter.valueFor supplied) ∧
      parameter.bind name supplied = .ok (parameter.valueFor supplied) := by
  rw [bind]
  generalize parameter.valueFor supplied = value
  by_cases absent : value = .none
  · subst absent
    by_cases required : parameter.required = true
    · exact .inl ⟨.inl ⟨required, rfl⟩, _, .missing rfl, by simp [required, Value.isNone]⟩
    · refine .inr ⟨by simp [AtFault, required], ?_⟩
      have fits : parameter.type.check .none = .ok () := by
        rw [ParameterType.check, (ParameterType.mismatch?_eq_none_iff _ _).mpr (.inl rfl)]
      simp [required, fits, Value.isNone, Bind.bind, Except.bind, pure, Except.pure]
  · have present : value.isNone = false := by cases value <;> first | rfl | exact absurd rfl absent
    cases mismatch : parameter.type.mismatch? value with
    | none =>
        have conforms := ((ParameterType.mismatch?_eq_none_iff _ _).mp mismatch).resolve_left absent
        refine .inr ⟨by simp [AtFault, absent, conforms], ?_⟩
        simp [present, ParameterType.check, mismatch, Bind.bind, Except.bind, pure, Except.pure]
    | some pair =>
        obtain ⟨expected, found⟩ := pair
        have differs := ParameterType.mismatch?_eq_some_iff.mp mismatch
        have foreign : ¬ parameter.type.Conforms value := by
          intro conforms
          rw [(ParameterType.mismatch?_eq_none_iff _ _).mpr (.inr conforms)] at mismatch
          cases mismatch
        refine .inl ⟨.inr ⟨absent, foreign⟩, _, .mismatch absent differs.2, ?_⟩
        simp [present, ParameterType.check, mismatch, Bind.bind, Except.bind]

theorem bind_eq_error_iff {e : Error} : parameter.bind name supplied = .error e ↔
    parameter.AtFault (parameter.valueFor supplied) ∧
      parameter.Reports name (parameter.valueFor supplied) e := by
  obtain ⟨fault, own, reports, fails⟩ | ⟨sound, binds⟩ := bind_cases name parameter supplied
  · rw [fails, Except.error.injEq]
    constructor
    · rintro rfl
      exact ⟨fault, reports⟩
    · exact fun other => reports.unique other.2
  · simp [binds, sound]

theorem exists_bind_iff : (∃ value, parameter.bind name supplied = .ok value) ↔
    ¬ parameter.AtFault (parameter.valueFor supplied) := by
  obtain ⟨fault, own, -, fails⟩ | ⟨sound, binds⟩ := bind_cases name parameter supplied
  · simp [fails, fault]
  · simp [binds, sound]

end Parameter

namespace Parameters

variable {parameters : Parameters} {supplied : Environment}

theorem get?_eq_some_iff {name : String} {parameter : Parameter} :
    parameters.get? name = some parameter ↔ (name, parameter) ∈ parameters.entries :=
  ⟨Assoc.mem_of_find?, Assoc.find?_of_mem (Assoc.Sorted.nodup parameters.sorted)⟩

theorem atFault_iff {name : String} : parameters.AtFault supplied name ↔
    ∃ parameter, (name, parameter) ∈ parameters.entries ∧
      parameter.AtFault (parameter.valueFor (supplied.get? name)) := by
  simp only [AtFault, Parameter.takes_iff, get?_eq_some_iff]
  constructor
  · rintro ⟨parameter, _, declared, rfl, fault⟩
    exact ⟨parameter, declared, fault⟩
  · rintro ⟨parameter, declared, fault⟩
    exact ⟨parameter, _, declared, rfl, fault⟩

theorem bindAll_eq_mapM (supplied : Environment) (declarations : List (String × Parameter)) :
    bindAll supplied declarations = declarations.mapM fun declaration =>
      (declaration.2.bind declaration.1 (supplied.get? declaration.1)).map (declaration.1, ·) := by
  induction declarations with
  | nil => rfl
  | cons declaration rest ih =>
      obtain ⟨name, parameter⟩ := declaration
      rw [bindAll, List.mapM_cons, ih]
      cases parameter.bind name (supplied.get? name) <;> rfl

/-- Binding fails for the first declaration that does not bind. -/
theorem bind_eq_error_iff {e : Error} : parameters.bind supplied = .error e ↔
    ∃ front name parameter rest, parameters.entries = front ++ (name, parameter) :: rest ∧
      (∀ declaration ∈ front, ¬ declaration.2.AtFault
        (declaration.2.valueFor (supplied.get? declaration.1))) ∧
      parameter.bind name (supplied.get? name) = .error e := by
  have whole : parameters.bind supplied = .error e ↔
      bindAll supplied parameters.entries = .error e := by
    rw [bind]
    cases bindAll supplied parameters.entries <;> simp [Bind.bind, Except.bind, pure, Except.pure]
  have mapped {α β : Type} (x : Result α) (f : α → β) : x.map f = .error e ↔ x = .error e := by
    cases x <;> simp [Except.map]
  have passes (declaration : String × Parameter) :
      (∃ binding, (declaration.2.bind declaration.1 (supplied.get? declaration.1)).map
        (declaration.1, ·) = .ok binding) ↔
      ¬ declaration.2.AtFault (declaration.2.valueFor (supplied.get? declaration.1)) := by
    rw [← @Parameter.exists_bind_iff declaration.1]
    cases declaration.2.bind declaration.1 (supplied.get? declaration.1) <;> simp [Except.map]
  rw [whole, bindAll_eq_mapM, Result.mapM_eq_error_iff]
  simp only [mapped, passes, Prod.exists]

theorem firstFault_of_bind {e : Error} (fails : parameters.bind supplied = .error e) :
    ∃ name, parameters.FirstFault supplied name e := by
  obtain ⟨front, name, parameter, rest, split, passed, own⟩ := bind_eq_error_iff.mp fails
  obtain ⟨fault, reports⟩ := Parameter.bind_eq_error_iff.mp own
  have declared : (name, parameter) ∈ parameters.entries := by simp [split]
  refine ⟨name, ⟨parameter, _, get?_eq_some_iff.mpr declared, Parameter.takes_iff.mpr rfl, fault,
    reports⟩, ?_⟩
  intro other less other_fault
  obtain ⟨another, member, fault⟩ := atFault_iff.mp other_fault
  have lt : other < name := Text.Utf8.bytes_lt_bytes_iff.mp less
  have sorted := parameters.sorted
  rw [split] at member sorted
  obtain ⟨-, behind⟩ := sorted.around
  rcases List.mem_append.mp member with early | late
  · exact passed _ early fault
  · rcases List.mem_cons.mp late with own | later
    · cases own
      exact String.lt_irrefl _ lt
    · exact String.lt_irrefl _ (String.lt_trans lt (behind _ later))

theorem bind_of_firstFault {name : String} {e : Error}
    (first : parameters.FirstFault supplied name e) : parameters.bind supplied = .error e := by
  obtain ⟨⟨parameter, value, declared, takes, fault, reports⟩, least⟩ := first
  cases Parameter.takes_iff.mp takes
  obtain ⟨front, rest, split⟩ := List.append_of_mem (get?_eq_some_iff.mp declared)
  refine bind_eq_error_iff.mpr ⟨front, name, parameter, rest, split, ?_,
    Parameter.bind_eq_error_iff.mpr ⟨fault, reports⟩⟩
  intro declaration member own
  have sorted := parameters.sorted
  rw [split] at sorted
  have lt := sorted.around.1 declaration member
  refine least declaration.1 (Text.Utf8.bytes_lt_bytes_iff.mpr lt) (atFault_iff.mpr ?_)
  exact ⟨declaration.2, by simp [split, member], own⟩

theorem exists_bind_iff : (∃ environment, parameters.bind supplied = .ok environment) ↔
    ∀ name, ¬ parameters.AtFault supplied name := by
  constructor
  · rintro ⟨environment, bound⟩ name fault
    obtain ⟨parameter, member, own⟩ := atFault_iff.mp fault
    obtain ⟨bindings, each, -⟩ := Result.bind_eq_ok_iff.mp bound
    rw [bindAll_eq_mapM] at each
    obtain ⟨binding, -, binds⟩ := Result.exists_value_of_mapM each member
    obtain fails | ⟨sound, -⟩ := Parameter.bind_cases name parameter (supplied.get? name)
    · obtain ⟨-, e, -, failed⟩ := fails
      simp [failed, Except.map] at binds
    · exact sound own
  · intro sound
    cases bound : parameters.bind supplied with
    | ok environment => exact ⟨environment, rfl⟩
    | error e =>
        obtain ⟨name, ⟨parameter, value, declared, takes, fault, -⟩, -⟩ := firstFault_of_bind bound
        exact absurd ⟨parameter, value, declared, takes, fault⟩ (sound name)

theorem conforms_of_create {version : String} {rules : List Rule} {ruleSet : RuleSet}
    (created : RuleSet.create version parameters rules = .ok ruleSet) :
    ruleSet.parameters = parameters ∧ ∀ declaration ∈ parameters.entries, ∀ value,
      declaration.2.default = some value → value ≠ .none → declaration.2.type.Conforms value := by
  rw [RuleSet.create] at created
  rcases parameters.validate_checks with ⟨conform, valid⟩ | ⟨-, defect, refused⟩
  · obtain ⟨_, valid⟩ := valid
    rw [valid] at created
    cases created
    exact ⟨rfl, conform⟩
  · rw [refused] at created
    cases created

/-- Binding fails just if a declared parameter is at fault, and for the first one by name. Otherwise
it gives each declared name the value that its parameter takes, and no other name a value. With the
parameters of a rule set, a value of another type has been supplied. -/
theorem bind_reports_first_fault (parameters : Parameters) (supplied : Environment) :
    (∀ e, parameters.bind supplied = .error e ↔ ∃ name, parameters.FirstFault supplied name e) ∧
    ((∃ environment, parameters.bind supplied = .ok environment) ↔
      ∀ name, ¬ parameters.AtFault supplied name) ∧
    (∀ environment, parameters.bind supplied = .ok environment → ∀ name value,
      environment.get? name = some value ↔ ∃ parameter, parameters.get? name = some parameter ∧
        parameter.Takes (supplied.get? name) value) ∧
    ∀ version rules ruleSet, RuleSet.create version parameters rules = .ok ruleSet →
      ∀ expected found, ruleSet.parameters.bind supplied = .error (.typeMismatch expected found) →
        ∃ name value, supplied.get? name = some value ∧ value ≠ .none ∧
          parameters.FirstFault supplied name (.typeMismatch expected found) := by
  refine ⟨fun e => ⟨firstFault_of_bind, fun ⟨_, first⟩ => bind_of_firstFault first⟩,
    exists_bind_iff, ?_, ?_⟩
  · intro environment bound name value
    rw [get?_of_bind bound, Option.map_eq_some_iff]
    simp only [Parameter.takes_iff, eq_comm]
  · intro version rules ruleSet created expected found fails
    obtain ⟨same, conform⟩ := conforms_of_create created
    rw [same] at fails
    obtain ⟨name, first⟩ := firstFault_of_bind fails
    obtain ⟨⟨parameter, value, declared, takes, fault, reports⟩, -⟩ := id first
    cases reports with
    | mismatch present differs =>
        have foreign := (fault.resolve_left fun missing => present missing.2).2
        generalize set : supplied.get? name = own at takes
        cases takes with
        | supplied _ => exact ⟨name, value, set, present, first⟩
        | default unset given =>
            exact absurd (conform _ (get?_eq_some_iff.mp declared) value given present) foreign
        | nothing _ _ => exact absurd rfl present

/-- A list with a number in it is reported before the region, which is missing, and a list with a
text only is bound to its name. -/
theorem bind_reports_first_fault_of_names :
    let parameters : Parameters := .ofList
      [("Names", { type := .stringArray, default := some (.array []) }),
        ("Region", { type := .string, required := true })]
    let supplied : Environment := .ofList [("Names", .array [.string "n", .integer 1])]
    let complete : Environment :=
      .ofList [("Names", .array [.string "n"]), ("Region", .string "r"), ("Zone", .none)]
    let bound : Environment := .ofList [("Names", .array [.string "n"]), ("Region", .string "r")]
    parameters.bind supplied = .error (.typeMismatch [.string] .integer) ∧
      (∃ name, parameters.FirstFault supplied name (.typeMismatch [.string] .integer)) ∧
      RuleSet.create "1.0" parameters [] = .ok ⟨"1.0", parameters, []⟩ ∧
      (∃ name value, supplied.get? name = some value ∧ value ≠ .none ∧
        parameters.FirstFault supplied name (.typeMismatch [.string] .integer)) ∧
      parameters.bind complete = .ok bound ∧
      (bound.get? "Region" = some (.string "r") ↔ ∃ parameter,
        parameters.get? "Region" = some parameter ∧
          parameter.Takes (complete.get? "Region") (.string "r")) := by
  intro parameters supplied complete bound
  have fails : parameters.bind supplied = .error (.typeMismatch [.string] .integer) := rfl
  have binds : parameters.bind complete = .ok bound := rfl
  have created : RuleSet.create "1.0" parameters [] = .ok ⟨"1.0", parameters, []⟩ := rfl
  obtain ⟨reports, -, -, caused⟩ := bind_reports_first_fault parameters supplied
  exact ⟨fails, (reports _).mp fails, created, caused _ _ _ created _ _ fails, binds,
    (bind_reports_first_fault parameters complete).2.2.1 bound binds "Region" (.string "r")⟩

end Parameters

end EndpointResolution
