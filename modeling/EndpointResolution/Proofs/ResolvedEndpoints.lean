import EndpointResolution.Proofs.EndpointJson
import EndpointResolution.Proofs.FreeNames

/-!
What can stand inside a resolved endpoint. Binding lets texts, truth values and lists of texts in
only, and no expression makes an endpoint of such values. So the properties of a resolved endpoint
are values that documents can give, and the endpoint comes back from its JSON form.
-/

namespace EndpointResolution

/-- If there is a result, it is of the kind. -/
def Ensures {α : Type} (kind : α → Prop) (result : Result α) : Prop :=
  ∀ a, result = .ok a → kind a

namespace Ensures

variable {α β : Type} {kind : α → Prop} {other : β → Prop}

theorem ok {a : α} (h : kind a) : Ensures kind (.ok a) := by
  rintro _ ⟨⟩
  exact h

theorem error (e : Error) : Ensures kind (.error e) := by
  intro _ h
  cases h

theorem bind {x : Result α} {f : α → Result β} (hx : Ensures kind x)
    (hf : ∀ a, kind a → Ensures other (f a)) : Ensures other (x >>= f) := by
  cases x with
  | ok a => exact hf a (hx a rfl)
  | error e => exact .error e

/-- The first result does not matter. -/
theorem behind {x : Result α} {f : α → Result β} (hf : ∀ a, Ensures other (f a)) :
    Ensures other (x >>= f) :=
  have any : Ensures (fun _ => True) x := fun _ _ => trivial
  any.bind fun a _ => hf a

end Ensures

namespace Value.Loadable

theorem none : Value.none.Loadable := ⟨trivial, trivial⟩

theorem boolean (b : Bool) : (Value.boolean b).Loadable := ⟨trivial, trivial⟩

theorem integer (n : Int64) : (Value.integer n).Loadable := ⟨trivial, trivial⟩

theorem string (text : String) : (Value.string text).Loadable := ⟨trivial, trivial⟩

theorem strings (texts : List String) : (Value.array (texts.map .string)).Loadable :=
  .array (List.forall_mem_map.mpr fun text _ => string text)

theorem ofFields {fields : List (String × Value)} (h : ∀ field ∈ fields, field.2.Loadable) :
    (Value.ofFields fields).Loadable :=
  .record (Assoc.sorted_ofList fields) fun field member => h field (Assoc.mem_of_mem_ofList member)

theorem ofOption {α : Type} {f : α → Value} (h : ∀ a, (f a).Loadable) (a? : Option α) :
    (Value.ofOption f a?).Loadable := by
  cases a? with
  | none => exact none
  | some a => exact h a

theorem of_mem_array {items : List Value} {value : Value} (h : (Value.array items).Loadable)
    (member : value ∈ items) : value.Loadable :=
  ⟨allWellFormed_iff.mp h.1 value member, allEndpointFree_iff.mp h.2 value member⟩

theorem of_mem_record {fields : List (String × Value)} {name : String} {value : Value}
    (h : (Value.record fields).Loadable) (member : (name, value) ∈ fields) : value.Loadable :=
  ⟨fieldsWellFormed_iff.mp h.1.2 _ member, fieldsEndpointFree_iff.mp h.2 _ member⟩

end Value.Loadable

theorem Arn.loadable_toValue (arn : Arn) : arn.toValue.Loadable := by
  apply Value.Loadable.ofFields
  simp [Value.Loadable.string, Value.Loadable.strings]

theorem Address.loadable_toValue (address : Address) : address.toValue.Loadable := by
  apply Value.Loadable.ofFields
  simp [Value.Loadable.string, Value.Loadable.boolean]

theorem PartitionOutputs.loadable_toValue (outputs : PartitionOutputs) :
    outputs.toValue.Loadable := by
  apply Value.Loadable.ofFields
  simp [Value.Loadable.string, Value.Loadable.boolean]

theorem AttributePath.follow_ensures (steps : List Step) {value : Value} (h : value.Loadable) :
    Ensures Value.Loadable (follow steps value) := by
  induction steps generalizing value with
  | nil => exact .ok h
  | cons step rest ih =>
      cases step with
      | key name =>
          cases value with
          | record fields =>
              rw [follow]
              split
              · next found => exact ih (h.of_mem_record (Assoc.mem_of_find? found))
              · exact .error _
          | none | boolean _ | integer _ | string _ | array _ | endpoint _ _ _ => exact .error _
      | index position =>
          cases value with
          | array items =>
              rw [follow]
              split
              · next found => exact ih (h.of_mem_array (List.mem_of_getElem? found))
              · exact .ok .none
          | none | boolean _ | integer _ | string _ | record _ | endpoint _ _ _ => exact .error _

namespace Function

theorem partitionOf_ensures (region : String) : Ensures Value.Loadable (partitionOf region) := by
  rw [partitionOf]
  split
  · exact .ok .none
  · split
    · exact .ok (.ofOption PartitionOutputs.loadable_toValue _)
    · exact .error _

/-- Apart from `getAttr`, which looks into its argument, functions make values of their own. -/
theorem compute_ensures (f : Function) {arguments : List Value}
    (h : ∀ value ∈ arguments, value.Loadable) :
    Ensures Value.Loadable (f.compute arguments) := by
  unfold compute
  split
  case h_5 value path =>
    split
    · exact AttributePath.follow_ensures _ (h value List.mem_cons_self)
    · exact .error _
  case h_6 => exact .ok (.ofOption .string _)
  case h_7 => exact .ok (.ofOption Arn.loadable_toValue _)
  case h_8 => exact .ok (.ofOption Address.loadable_toValue _)
  case h_9 => exact .ok (.string _)
  case h_11 => exact partitionOf_ensures _
  case h_13 => exact .error _
  all_goals exact .ok (.boolean _)

theorem apply_ensures (f : Function) {arguments : List Value}
    (h : ∀ value ∈ arguments, value.Loadable) : Ensures Value.Loadable (f.apply arguments) := by
  rw [apply]
  split
  · exact .error _
  · split
    · exact .error _
    · exact f.compute_ensures h

end Function

/-- Names have values that documents can give. -/
def Scope.Loadable (s : Scope) : Prop :=
  ∀ name value, s.get? name = some value → value.Loadable

namespace Scope.Loadable

variable {s : Scope}

theorem resolve (h : s.Loadable) (name : String) : Ensures Value.Loadable (s.resolve name) := by
  rw [Scope.resolve]
  split
  · next found => exact .ok (h name _ found)
  · exact .error _

theorem bindIn (h : s.Loadable) (c : Condition) {value : Value} (own : value.Loadable) :
    (c.bindIn value s).Loadable := by
  intro name other found
  rw [Condition.bindIn] at found
  split at found
  · rw [Scope.get?_bind] at found
    split at found
    · cases found
      exact own
    · exact h name other found
  · exact h name other found

end Scope.Loadable

namespace Expr

variable {s : Scope}

mutual

theorem eval_ensures (h : s.Loadable) (e : Expr) : Ensures Value.Loadable (e.eval s) := by
  match e with
  | .boolean b => exact .ok (.boolean b)
  | .integer n => exact .ok (.integer n)
  | .template own => exact .behind fun text => .ok (.string text)
  | .array items => exact .bind (evalAll_ensures h items) fun _ each => .ok (.array each)
  | .record fields => exact .bind (evalFields_ensures h fields) fun _ each => .ok (.ofFields each)
  | .reference name => exact h.resolve name
  | .call f arguments =>
      exact .bind (evalAll_ensures h arguments) fun _ each => f.apply_ensures each

theorem evalAll_ensures (h : s.Loadable) (items : List Expr) :
    Ensures (fun values => ∀ value ∈ values, value.Loadable) (evalAll s items) := by
  match items with
  | [] => exact .ok (by simp)
  | item :: rest =>
      refine .bind (eval_ensures h item) fun value first => ?_
      refine .bind (evalAll_ensures h rest) fun values others => .ok ?_
      exact List.forall_mem_cons.mpr ⟨first, others⟩

theorem evalFields_ensures (h : s.Loadable) (fields : List (String × Expr)) :
    Ensures (fun values => ∀ field ∈ values, field.2.Loadable) (evalFields s fields) := by
  match fields with
  | [] => exact .ok (by simp)
  | (name, expr) :: rest =>
      refine .bind (eval_ensures h expr) fun value first => ?_
      refine .bind (evalFields_ensures h rest) fun values others => .ok ?_
      exact List.forall_mem_cons.mpr ⟨first, others⟩

end

end Expr

/-- The properties are values that documents can give. -/
def Endpoint.Loadable (e : Endpoint) : Prop :=
  ∀ property ∈ e.properties.entries, property.2.Loadable

theorem EndpointTemplate.eval_ensures {s : Scope} (h : s.Loadable) (t : EndpointTemplate) :
    Ensures Endpoint.Loadable (t.eval s) := by
  refine .behind fun url => .behind fun headers => ?_
  refine .bind (Expr.evalFields_ensures h t.properties.entries) fun properties each => .ok ?_
  exact fun property member => each property (Assoc.mem_of_mem_ofList member)

theorem AllHold.loadable {s inner : Scope} {held : List Condition} {values : List Value}
    (holds : AllHold s held values inner) (h : s.Loadable) : inner.Loadable := by
  induction holds with
  | nil _ => exact h
  | cons evaluates _ _ ih => exact ih (h.bindIn _ (Expr.eval_ensures h _ _ evaluates))

theorem Rule.evalAll_ensures (rules : List Rule) :
    ∀ {s : Scope}, s.Loadable → Ensures Endpoint.Loadable (evalAll s rules) := by
  induction rules using nested_induction with
  | nil => exact fun _ => .error _
  | cons rule rest inside ih =>
      intro s h
      rcases conditions_cases rule.conditions s with ⟨values, inner, holds⟩ | skips | ⟨e, fails⟩
      · rw [evalAll_cons_of_allHold holds]
        have loadable := holds.loadable h
        cases outcome : rule.outcome with
        | endpoint template => exact template.eval_ensures loadable
        | error message => exact .error _
        | tree children => exact inside children outcome loadable
      · rw [evalAll_cons_of_skipped skips]
        exact ih h
      · rw [evalAll_cons_of_fails fails]
        exact .error e

theorem ParameterType.Conforms.loadable {type : ParameterType} {value : Value}
    (h : type.Conforms value) : value.Loadable := by
  cases type with
  | string =>
      obtain ⟨text, rfl⟩ := h
      exact .string text
  | boolean =>
      obtain ⟨b, rfl⟩ := h
      exact .boolean b
  | stringArray =>
      obtain ⟨texts, rfl⟩ := h
      exact .strings texts

theorem ParameterType.loadable_of_check {type : ParameterType} {value : Value}
    (h : type.check value = .ok ()) : value.Loadable := by
  rw [check] at h
  split at h
  · next conforms =>
      rcases (mismatch?_eq_none_iff type value).mp conforms with rfl | conforms
      · exact .none
      · exact conforms.loadable
  · cases h

theorem Parameter.bind_ensures (name : String) (p : Parameter) (supplied : Option Value) :
    Ensures Value.Loadable (p.bind name supplied) := by
  intro value bound
  rw [bind] at bound
  split at bound
  · cases bound
  · obtain ⟨_, checked, taken⟩ := Result.bind_eq_ok_iff.mp bound
    cases taken
    exact ParameterType.loadable_of_check checked

theorem Parameters.bindAll_ensures (supplied : Environment)
    (declarations : List (String × Parameter)) :
    Ensures (fun bindings => ∀ binding ∈ bindings, binding.2.Loadable)
      (bindAll supplied declarations) := by
  induction declarations with
  | nil => exact .ok (by simp)
  | cons declaration rest ih =>
      obtain ⟨name, p⟩ := declaration
      refine .bind (p.bind_ensures name _) fun value first => ?_
      exact .bind ih fun bindings others => .ok (List.forall_mem_cons.mpr ⟨first, others⟩)

/-- A bound environment is a scope to evaluate in, whatever has been supplied. -/
theorem Parameters.bind_ensures (parameters : Parameters) (supplied : Environment) :
    Ensures (fun environment => Scope.Loadable { environment }) (parameters.bind supplied) := by
  refine .bind (bindAll_ensures supplied parameters.entries) fun bindings each => .ok ?_
  intro name value found
  rw [Scope.get?, Assoc.find?, Option.none_or, Dict.get?_ofList] at found
  exact each _ (List.mem_reverse.mp (Assoc.mem_of_find? found))

theorem RuleSet.resolve_ensures (ruleSet : RuleSet) (supplied : Environment) :
    Ensures Endpoint.Loadable (ruleSet.resolve supplied) :=
  .bind (ruleSet.parameters.bind_ensures supplied) fun _ loadable =>
    Rule.evalAll_ensures ruleSet.rules loadable

namespace Endpoint

theorem jsonMembers_eq (url : String) (headers : Dict (List String))
    (properties : List (String × Json)) :
    jsonMembers url headers properties =
      [("url", .string url)] ++
        Parameter.optionalMember "headers" (Json.object (headers.map Json.texts).entries).filled? ++
        Parameter.optionalMember "properties" (Json.object properties).filled? := by
  obtain ⟨headers, _⟩ := headers
  cases headers <;> cases properties <;> rfl

theorem members?_toJson (e : Endpoint) :
    e.toJson.members? ["url", "headers", "properties"] =
      some [some (.string e.url), (Json.object (e.headers.map Json.texts).entries).filled?,
        (Json.object (Value.fieldsToJson e.properties.entries)).filled?] := by
  rw [toJson, jsonMembers_eq]
  cases (Json.object (e.headers.map Json.texts).entries).filled? <;>
    cases (Json.object (Value.fieldsToJson e.properties.entries)).filled? <;>
    simp [Parameter.optionalMember, Json.members?, Json.member?, Json.occurrences]

theorem ofJson?_toJson {e : Endpoint} (h : e.Loadable) : ofJson? e.toJson = some e := by
  have headers : Json.dictOf? (Json.listOf? Json.string?)
      (.object (e.headers.map Json.texts).entries) = some e.headers :=
    Json.dictOf?_map fun header _ => Json.mapM_map_of_forall fun _ _ => rfl
  have properties : Json.dictOf? Value.ofJson?
      (.object (Value.fieldsToJson e.properties.entries)) = some e.properties := by
    rw [Value.fieldsToJson_eq_map]
    exact Json.dictOf?_map fun property member =>
      Value.ofJson?_toJson property.2 (h property member).1 (h property member).2
  rw [← Json.withDefault?_filled?_object] at headers properties
  simp [ofJson?, members?_toJson, headers, properties, Json.string?]

end Endpoint

namespace RuleSet

/-- Whatever has been supplied, no endpoint stands inside a property of a resolved endpoint, and the
endpoint comes back from its JSON form. -/
theorem endpointFree_of_resolve_eq_ok {ruleSet : RuleSet} {supplied : Environment} {e : Endpoint}
    (resolved : ruleSet.resolve supplied = .ok e) :
    (∀ property ∈ e.properties.entries, property.2.EndpointFree) ∧
      Endpoint.ofJson? e.toJson = some e := by
  have loadable := ruleSet.resolve_ensures supplied e resolved
  exact ⟨fun property member => (loadable property member).2, Endpoint.ofJson?_toJson loadable⟩

/-- An endpoint at the region, with the region inside a list and a record. -/
def reportsSigningRegion : RuleSet where
  version := "1.0"
  parameters := .ofList [("Region", { type := .string })]
  rules :=
    [⟨[], .endpoint { url := .reference "Region"
                      properties := .ofList [("schemes", .array [.record
                        [("region", .reference "Region"), ("priority", .integer 1)]])] }, none⟩]

/-- An endpoint that is supplied under another name is dropped. -/
theorem endpointFree_of_resolve_eq_ok_reportsSigningRegion :
    let supplied : Environment :=
      .ofList [("Other", .endpoint "o" ∅ []), ("Region", .string "r")]
    let e : Endpoint :=
      { url := "r"
        properties := .ofList [("schemes", .array [.record
          [("priority", .integer 1), ("region", .string "r")]])] }
    reportsSigningRegion.resolve supplied = .ok e ∧
      (∀ property ∈ e.properties.entries, property.2.EndpointFree) ∧
        Endpoint.ofJson? e.toJson = some e := by
  intro supplied e
  have bound : reportsSigningRegion.parameters.bind supplied =
      .ok (.ofList [("Region", .string "r")]) := rfl
  have resolved : reportsSigningRegion.resolve supplied = .ok e := by
    rw [resolve, bound]
    rfl
  exact ⟨resolved, endpointFree_of_resolve_eq_ok resolved⟩

end RuleSet

end EndpointResolution
