import EndpointResolution.Proofs.DocumentValidity
import EndpointResolution.Proofs.ExpressionErrors

/-!
What becomes of a call. Functions do not take a wrong number of arguments, nor an argument of a kind
that its position does not take; the first such argument is the one reported. Whatever else they are
given, all but `getAttr` return, and what they return is of a fixed type. A lookup fails for a
malformed path, for an unknown name, or where it meets neither a record nor an array.
-/

namespace EndpointResolution

/-- A record with these fields and no others, each of its type. -/
def Value.RecordOf (types : List (String × ParameterType)) (value : Value) : Prop :=
  ∃ fields, value = .record fields ∧ Assoc.Sorted fields ∧ ∀ name,
    Option.Rel ParameterType.Conforms (Assoc.find? name types) (Assoc.find? name fields)

def Arn.fieldTypes : List (String × ParameterType) :=
  [("partition", .string), ("service", .string), ("region", .string), ("accountId", .string),
    ("resourceId", .stringArray)]

def Address.fieldTypes : List (String × ParameterType) :=
  [("scheme", .string), ("authority", .string), ("path", .string), ("normalizedPath", .string),
    ("isIp", .boolean)]

def PartitionOutputs.fieldTypes : List (String × ParameterType) :=
  [("name", .string), ("dnsSuffix", .string), ("dualStackDnsSuffix", .string),
    ("supportsFIPS", .boolean), ("supportsDualStack", .boolean),
    ("implicitGlobalRegion", .string)]

namespace Function

/-- What a function makes of arguments that it takes. -/
def Returns : Function → Value → Prop
  | .isSet, value | .not, value | .booleanEquals, value | .stringEquals, value
  | .isValidHostLabel, value | .isVirtualHostableS3Bucket, value =>
      ParameterType.boolean.Conforms value
  | .uriEncode, value => ParameterType.string.Conforms value
  | .substring, value => value = .none ∨ ParameterType.string.Conforms value
  | .parseArn, value => value = .none ∨ value.RecordOf Arn.fieldTypes
  | .parseURL, value => value = .none ∨ value.RecordOf Address.fieldTypes
  | .partition, value => value = .none ∨ value.RecordOf PartitionOutputs.fieldTypes
  | .getAttr, _ => True

end Function

namespace ParameterType

@[simp] theorem conforms_string (text : String) : string.Conforms (.string text) := ⟨text, rfl⟩

@[simp] theorem conforms_boolean (b : Bool) : boolean.Conforms (.boolean b) := ⟨b, rfl⟩

@[simp] theorem conforms_stringArray (texts : List String) :
    stringArray.Conforms (.array (texts.map .string)) := ⟨texts, rfl⟩

end ParameterType

theorem Value.recordOf_ofFields {types : List (String × ParameterType)}
    {fields : List (String × Value)} (distinct : (types.map (·.1)).Nodup)
    (conform : List.Forall₂ (fun type field => type.1 = field.1 ∧ type.2.Conforms field.2)
      types fields) : (ofFields fields).RecordOf types := by
  have names : types.map (·.1) = fields.map (·.1) := by
    induction conform with
    | nil => rfl
    | cons own _ ih => simp [own.1, ih (List.nodup_cons.mp distinct).2]
  refine ⟨_, rfl, Assoc.sorted_ofList fields, fun name => ?_⟩
  rw [Assoc.find?_ofList, Assoc.find?_reverse name (names ▸ distinct)]
  clear names distinct
  induction conform with
  | nil => exact .none
  | cons own _ ih =>
      rw [Assoc.find?, Assoc.find?, own.1]
      split
      · exact .some own.2
      · exact ih

theorem Arn.recordOf_toValue (arn : Arn) : arn.toValue.RecordOf fieldTypes :=
  Value.recordOf_ofFields (by decide) (by simp [fieldTypes])

theorem Address.recordOf_toValue (address : Address) : address.toValue.RecordOf fieldTypes :=
  Value.recordOf_ofFields (by decide) (by simp [fieldTypes])

theorem PartitionOutputs.recordOf_toValue (outputs : PartitionOutputs) :
    outputs.toValue.RecordOf fieldTypes :=
  Value.recordOf_ofFields (by decide) (by simp [fieldTypes])

theorem Value.ofOption_eq_none_or {α : Type} {f : α → Value} {P : Value → Prop}
    (present : ∀ a, P (f a)) (a? : Option α) : ofOption f a? = .none ∨ P (ofOption f a?) := by
  cases a? with
  | none => exact .inl rfl
  | some a => exact .inr (present a)

namespace Function

theorem returns_partitionOf (region : String) :
    ∃ value, partitionOf region = .ok value ∧ Returns .partition value := by
  refine ⟨_, partitionOf_eq_ok region, ?_⟩
  split
  · exact .inl rfl
  · exact Value.ofOption_eq_none_or PartitionOutputs.recordOf_toValue _

end Function

namespace Value

theorem kind_eq_boolean_iff {value : Value} :
    value.kind = .boolean ↔ ∃ b, value = .boolean b := by
  cases value <;> simp [kind]

theorem kind_eq_integer_iff {value : Value} :
    value.kind = .integer ↔ ∃ n, value = .integer n := by
  cases value <;> simp [kind]

theorem kind_eq_string_iff {value : Value} :
    value.kind = .string ↔ ∃ text, value = .string text := by
  cases value <;> simp [kind]

end Value

namespace Function

/-- Arguments that fit are of the shape that a function computes with. -/
theorem exists_compute {f : Function} {arguments : List Value} (h : Fits f.signature arguments)
    (other : f ≠ .getAttr) : ∃ value, f.compute arguments = .ok value ∧ f.Returns value := by
  cases f <;> simp only [Fits, signature, List.forall₂_cons_left_iff, List.forall₂_nil_left_iff,
    List.mem_cons, List.not_mem_nil, or_false, Value.kind_eq_boolean_iff, Value.kind_eq_integer_iff,
    Value.kind_eq_string_iff, exists_and_left, ↓existsAndEq, true_and] at h
  case getAttr => exact absurd rfl other
  case isSet =>
    obtain ⟨value, -, rfl⟩ := h
    exact ⟨_, rfl, ParameterType.conforms_boolean _⟩
  case not =>
    obtain ⟨argument, rfl⟩ := h
    exact ⟨_, rfl, ParameterType.conforms_boolean _⟩
  case booleanEquals | stringEquals | isValidHostLabel | isVirtualHostableS3Bucket =>
    obtain ⟨first, second, rfl⟩ := h
    exact ⟨_, rfl, ParameterType.conforms_boolean _⟩
  case substring =>
    obtain ⟨text, start, stop, backwards, rfl⟩ := h
    exact ⟨_, rfl, Value.ofOption_eq_none_or ParameterType.conforms_string _⟩
  case parseArn =>
    obtain ⟨text, rfl⟩ := h
    exact ⟨_, rfl, Value.ofOption_eq_none_or Arn.recordOf_toValue _⟩
  case parseURL =>
    obtain ⟨text, rfl⟩ := h
    exact ⟨_, rfl, Value.ofOption_eq_none_or Address.recordOf_toValue _⟩
  case uriEncode =>
    obtain ⟨text, rfl⟩ := h
    exact ⟨_, rfl, ParameterType.conforms_string _⟩
  case partition =>
    obtain ⟨region, rfl⟩ := h
    exact returns_partitionOf region

theorem eq_of_fits_getAttr {arguments : List Value} (h : Fits (signature .getAttr) arguments) :
    ∃ value path, arguments = [value, .string path] := by
  simp only [Fits, signature, List.forall₂_cons_left_iff, List.forall₂_nil_left_iff,
    List.mem_singleton, Value.kind_eq_string_iff] at h
  obtain ⟨value, _, -, ⟨_, _, ⟨path, rfl⟩, rfl, rfl⟩, rfl⟩ := h
  exact ⟨value, path, rfl⟩

end Function

theorem AttributePath.parse_of_not_wellFormed {text : String} (h : ¬ WellFormed text.toList) :
    AttributePath.parse text = .error (.invalidRuleSet (.attributePath text)) := by
  rw [parse]
  split
  · next path read => exact absurd (wellFormed_iff.mpr ⟨path, read⟩) h
  · rfl

namespace Function

theorem apply_of_counted {f : Function} {arguments : List Value}
    (counted : arguments.length = f.arity) :
    f.apply arguments = checkKinds f.signature arguments >>= fun _ => f.compute arguments := by
  rw [apply, checkArity, if_pos counted]
  cases checkKinds f.signature arguments <;> rfl

section Lookups

variable {value : Value} (taken : value.kind ∈ indexable) {text : String}

include taken

/-- A lookup reads its path, and then follows it. -/
theorem apply_getAttr_eq_bind : apply .getAttr [value, .string text] =
    AttributePath.parse text >>= fun path => path.get value := by
  have kinds : checkKinds (signature .getAttr) [value, .string text] = .ok () := by
    rw [signature, checkKinds, if_pos taken]
    rfl
  rw [apply_of_counted rfl, kinds]
  change compute .getAttr [value, .string text] = _
  rw [compute]
  cases AttributePath.parse text <;> rfl

theorem apply_getAttr {path : AttributePath} (read : AttributePath.parse text = .ok path) :
    apply .getAttr [value, .string text] = path.get value := by
  rw [apply_getAttr_eq_bind taken, read]
  rfl

theorem apply_getAttr_of_not_wellFormed (malformed : ¬ AttributePath.WellFormed text.toList) :
    apply .getAttr [value, .string text] = .error (.invalidRuleSet (.attributePath text)) := by
  rw [apply_getAttr_eq_bind taken, AttributePath.parse_of_not_wellFormed malformed]
  rfl

end Lookups

section Fields

variable {fields : List (String × Value)} {name : String} (named : AttributePath.IsKey name.toList)

include named

theorem apply_getAttr_field {found : Value} (present : Assoc.find? name fields = some found) :
    apply .getAttr [.record fields, .string name] = .ok found := by
  rw [apply_getAttr (by simp [Value.kind, indexable]) (AttributePath.parse_of_isKey named)]
  simp only [AttributePath.get, AttributePath.follow, present]

/-- A position behind the last item of a list leads to absence. -/
theorem apply_getAttr_item {items : List Value} {numeral : String} {n : Nat}
    (present : Assoc.find? name fields = some (.array items))
    (position : AttributePath.Numeral numeral.toList n) :
    apply .getAttr [.record fields, .string (name ++ "[" ++ numeral ++ "]")] =
      .ok (items[n]?.getD .none) := by
  have read := AttributePath.parse_of_keyIndex named position
  rw [apply_getAttr (by simp [Value.kind, indexable]) read]
  simp only [AttributePath.get, AttributePath.follow, present]
  cases items[n]? <;> rfl

end Fields

/-- The number of arguments is looked at first, then their kinds from left to right, and the first
one refused is reported. Otherwise a function returns, and what it returns is of its type, but for
`getAttr`: a malformed path is refused, whatever is looked into, and any other path fails for what
is found on it if it fails. -/
theorem apply_refuses_or_returns (f : Function) (arguments : List Value) :
    (arguments.length ≠ f.arity →
      f.apply arguments = .error (.invalidRuleSet (.arity f arguments.length))) ∧
    (arguments.length = f.arity →
      (∃ position accepted found, Refused f.signature arguments position accepted found) →
      ∃ position accepted found, FirstRefused f.signature arguments position accepted found ∧
        f.apply arguments = .error (.typeMismatch accepted found)) ∧
    (arguments.length = f.arity →
      (¬ ∃ position accepted found, Refused f.signature arguments position accepted found) →
      (f ≠ .getAttr → ∃ value, f.apply arguments = .ok value ∧ f.Returns value) ∧
      (f = .getAttr → ∃ value path, arguments = [value, .string path] ∧
        (¬ AttributePath.WellFormed path.toList →
          f.apply arguments = .error (.invalidRuleSet (.attributePath path))) ∧
        (AttributePath.WellFormed path.toList →
          FailsBy AttributePath.Astray (f.apply arguments)))) := by
  refine ⟨fun miscounted => ?_, fun counted refused => ?_, fun counted taken => ?_⟩
  · rw [apply, checkArity, if_neg miscounted]
  · obtain ⟨position, accepted, found, first⟩ := exists_firstRefused refused
    have kinds := checkKinds_eq_error_iff.mpr ⟨position, accepted, found, first, rfl⟩
    refine ⟨position, accepted, found, first, ?_⟩
    rw [apply_of_counted counted, kinds]
    rfl
  · have fits := fits_iff.mpr ⟨counted, taken⟩
    have computes : f.apply arguments = f.compute arguments := by
      rw [apply_of_counted counted, checkKinds_eq_ok_iff.mpr taken]
      rfl
    rw [computes]
    refine ⟨exists_compute fits, ?_⟩
    rintro rfl
    obtain ⟨value, path, rfl⟩ := eq_of_fits_getAttr fits
    refine ⟨value, path, rfl, fun malformed => ?_, fun wellFormed => ?_⟩
    · rw [compute, AttributePath.parse_of_not_wellFormed malformed]
    · obtain ⟨found, read⟩ := AttributePath.wellFormed_iff.mp wellFormed
      simp only [compute, AttributePath.parse, read]
      exact AttributePath.follow_astray found.steps value

/-- Each of the ways in which a call ends. -/
theorem apply_refuses_or_returns_of_calls :
    apply .not [] = .error (.invalidRuleSet (.arity .not 0)) ∧
    (∃ position accepted found,
      FirstRefused (signature .substring) [.string "a", .none, .integer 1, .none]
        position accepted found ∧
      apply .substring [.string "a", .none, .integer 1, .none] =
        .error (.typeMismatch accepted found)) ∧
    (∃ value, apply .uriEncode [.string "a b"] = .ok value ∧ Returns .uriEncode value) ∧
    apply .getAttr [.array [], .string ""] = .error (.invalidRuleSet (.attributePath "")) ∧
    FailsBy AttributePath.Astray (apply .getAttr [.array [], .string "a"]) := by
  have text : Fits (signature .uriEncode) [.string "a b"] := .cons (by decide) .nil
  have lookup (path : String) : Fits (signature .getAttr) [.array [], .string path] :=
    .cons (by decide) (.cons (by simp [Value.kind]) .nil)
  refine ⟨(apply_refuses_or_returns .not []).1 (by decide), ?_, ?_, ?_, ?_⟩
  · refine (apply_refuses_or_returns .substring _).2.1 rfl ⟨1, [.integer], .none, ?_⟩
    exact ⟨rfl, rfl, by decide⟩
  · exact ((apply_refuses_or_returns .uriEncode _).2.2 rfl (fits_iff.mp text).2).1 (by decide)
  · obtain ⟨value, path, given, malformed, -⟩ :=
      ((apply_refuses_or_returns .getAttr _).2.2 rfl (fits_iff.mp (lookup "")).2).2 rfl
    cases given
    exact malformed AttributePath.not_wellFormed_nil
  · obtain ⟨value, path, given, -, leads⟩ :=
      ((apply_refuses_or_returns .getAttr _).2.2 rfl (fits_iff.mp (lookup "a")).2).2 rfl
    cases given
    exact leads (AttributePath.wellFormed_iff.mpr ⟨⟨[.key "a"]⟩, by decide⟩)

end Function

end EndpointResolution
