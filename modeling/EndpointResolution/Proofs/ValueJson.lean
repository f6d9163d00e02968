import EndpointResolution.Value.Json
import EndpointResolution.Proofs.JsonStructure

/-!
Values through JSON and back. All comes back but endpoints, which are written as objects and so read
as records; whatever is read from a document has none inside.
-/

namespace EndpointResolution

theorem int64?_toInt (n : Int64) : int64? n.toInt = some n := by
  simp [int64?]

namespace Value

mutual

/-- No endpoint stands inside. -/
def EndpointFree : Value → Prop
  | .array items => AllEndpointFree items
  | .record fields => FieldsEndpointFree fields
  | .endpoint _ _ _ => False
  | .none | .boolean _ | .integer _ | .string _ => True

def AllEndpointFree : List Value → Prop
  | [] => True
  | value :: rest => value.EndpointFree ∧ AllEndpointFree rest

def FieldsEndpointFree : List (String × Value) → Prop
  | [] => True
  | (_, value) :: rest => value.EndpointFree ∧ FieldsEndpointFree rest

end

/-- Documents give such values: fields of records are in order, and no endpoint stands inside. -/
def Loadable (value : Value) : Prop := value.WellFormed ∧ value.EndpointFree

theorem allWellFormed_iff {items : List Value} :
    AllWellFormed items ↔ ∀ value ∈ items, value.WellFormed := by
  induction items with
  | nil => simp [AllWellFormed]
  | cons value rest ih => simp [AllWellFormed, ih]

theorem fieldsWellFormed_iff {fields : List (String × Value)} :
    FieldsWellFormed fields ↔ ∀ field ∈ fields, field.2.WellFormed := by
  induction fields with
  | nil => simp [FieldsWellFormed]
  | cons field rest ih => simp [FieldsWellFormed, ih]

theorem allEndpointFree_iff {items : List Value} :
    AllEndpointFree items ↔ ∀ value ∈ items, value.EndpointFree := by
  induction items with
  | nil => simp [AllEndpointFree]
  | cons value rest ih => simp [AllEndpointFree, ih]

theorem fieldsEndpointFree_iff {fields : List (String × Value)} :
    FieldsEndpointFree fields ↔ ∀ field ∈ fields, field.2.EndpointFree := by
  induction fields with
  | nil => simp [FieldsEndpointFree]
  | cons field rest ih => simp [FieldsEndpointFree, ih]

theorem toJsons_eq_map (items : List Value) : toJsons items = items.map toJson := by
  induction items with
  | nil => rfl
  | cons value rest ih => rw [toJsons, ih, List.map_cons]

theorem fieldsToJson_eq_map (fields : List (String × Value)) :
    fieldsToJson fields = fields.map fun field => (field.1, field.2.toJson) := by
  induction fields with
  | nil => rfl
  | cons field rest ih => rw [fieldsToJson, ih, List.map_cons]

/-- The members of an endpoint, as a record. -/
def ofMembers (url : String) (headers : Dict (List String)) (properties : List (String × Value)) :
    Value :=
  ofFields ([("url", string url)] ++
    (if headers.isEmpty then []
      else [("headers", record (headers.map fun values => array (values.map string)).entries)]) ++
    (if properties.isEmpty then [] else [("properties", record properties)]))

mutual

/-- Records in place of the endpoints inside. -/
def withoutEndpoints : Value → Value
  | .array items => .array (allWithoutEndpoints items)
  | .record fields => .record (fieldsWithoutEndpoints fields)
  | .endpoint url headers properties =>
      ofMembers url headers (fieldsWithoutEndpoints properties)
  | .none => .none
  | .boolean b => .boolean b
  | .integer n => .integer n
  | .string text => .string text

def allWithoutEndpoints : List Value → List Value
  | [] => []
  | value :: rest => value.withoutEndpoints :: allWithoutEndpoints rest

def fieldsWithoutEndpoints : List (String × Value) → List (String × Value)
  | [] => []
  | (name, value) :: rest => (name, value.withoutEndpoints) :: fieldsWithoutEndpoints rest

end

theorem fieldsWithoutEndpoints_eq_map (fields : List (String × Value)) :
    fieldsWithoutEndpoints fields =
      fields.map fun field => (field.1, field.2.withoutEndpoints) := by
  induction fields with
  | nil => rfl
  | cons field rest ih => rw [fieldsWithoutEndpoints, ih, List.map_cons]

mutual

theorem EndpointFree.withoutEndpoints_eq (value : Value) (free : value.EndpointFree) :
    value.withoutEndpoints = value := by
  match value with
  | .none | .boolean _ | .integer _ | .string _ => rfl
  | .array items => rw [withoutEndpoints, allWithoutEndpoints_eq items free]
  | .record fields => rw [withoutEndpoints, fieldsWithoutEndpoints_eq fields free]
  | .endpoint _ _ _ => exact free.elim

theorem allWithoutEndpoints_eq (items : List Value) (free : AllEndpointFree items) :
    allWithoutEndpoints items = items := by
  match items with
  | [] => rfl
  | value :: rest =>
      rw [allWithoutEndpoints, EndpointFree.withoutEndpoints_eq value free.1,
        allWithoutEndpoints_eq rest free.2]

theorem fieldsWithoutEndpoints_eq (fields : List (String × Value))
    (free : FieldsEndpointFree fields) : fieldsWithoutEndpoints fields = fields := by
  match fields with
  | [] => rfl
  | (name, value) :: rest =>
      rw [fieldsWithoutEndpoints, EndpointFree.withoutEndpoints_eq value free.1,
        fieldsWithoutEndpoints_eq rest free.2]

end

theorem ofJsons?_eq_mapM (items : List Json) : ofJsons? items = items.mapM ofJson? := by
  induction items with
  | nil => rfl
  | cons item rest ih =>
      rw [ofJsons?, ih, List.mapM_cons]
      cases ofJson? item with
      | none => rfl
      | some value => cases rest.mapM ofJson? <;> rfl

theorem fieldsOfJson?_eq_fieldsOf? (members : List (String × Json)) :
    fieldsOfJson? members = Json.fieldsOf? ofJson? members := by
  induction members with
  | nil => rfl
  | cons member rest ih =>
      rw [fieldsOfJson?, ih, Json.fieldsOf?_cons]
      cases ofJson? member.2 with
      | none => rfl
      | some value => cases Json.fieldsOf? ofJson? rest <;> rfl

theorem ofJson?_object (members : List (String × Json)) :
    ofJson? (.object members) =
      ((Json.fieldsOf? ofJson? members).map Assoc.ofList).map .record := by
  rw [ofJson?, fieldsOfJson?_eq_fieldsOf?, Option.map_map]
  rfl

theorem ofJson?_texts (items : List String) :
    ofJson? (Json.texts items) = some (.array (items.map .string)) := by
  have read : (items.map Json.string).mapM ofJson? = some (items.map .string) :=
    Json.mapM_map_eq_some fun _ _ => rfl
  rw [Json.texts, ofJson?, ofJsons?_eq_mapM, read, Option.map_some]

theorem ofJson?_headers (headers : Dict (List String)) :
    ofJson? (.object (headers.map Json.texts).entries) =
      some (.record (headers.map fun values => .array (values.map .string)).entries) := by
  have read : Json.fieldsOf? ofJson? (headers.map Json.texts).entries =
      some (headers.map fun values => .array (values.map .string)).entries :=
    Json.mapM_map_eq_some fun header _ => by simp [ofJson?_texts]
  rw [ofJson?_object, read, Option.map_some, Assoc.ofList_of_sorted (Dict.sorted _),
    Option.map_some]

/-- The members of an endpoint are read as those of any object. -/
theorem ofJson?_jsonMembers (url : String) (headers : Dict (List String))
    {properties : List (String × Json)} {fields : List (String × Value)}
    (sorted : Assoc.Sorted fields) (read : fieldsOfJson? properties = some fields) :
    ofJson? (.object (Endpoint.jsonMembers url headers properties)) =
      some (ofMembers url headers fields) := by
  have inner : ofJson? (.object properties) = some (.record fields) := by
    rw [ofJson?, read, Option.map_some, ofFields, Assoc.ofList_of_sorted sorted]
  have empty : properties.isEmpty = fields.isEmpty := by
    rw [fieldsOfJson?_eq_fieldsOf?] at read
    simpa using congrArg List.isEmpty (Json.names_of_fieldsOf? read).symm
  have text : ofJson? (.string url) = some (.string url) := rfl
  rw [ofJson?_object, Endpoint.jsonMembers, ofMembers, empty]
  cases headers.isEmpty <;> cases fields.isEmpty <;>
    simp [Json.fieldsOf?, ofJson?_headers, inner, text, ofFields]

mutual

theorem ofJson?_toJson_withoutEndpoints (value : Value) (wellFormed : value.WellFormed) :
    ofJson? value.toJson = some value.withoutEndpoints := by
  match value with
  | .none | .boolean _ | .string _ => rfl
  | .integer n => simp [toJson, ofJson?, int64?_toInt, withoutEndpoints]
  | .array items =>
      rw [toJson, ofJson?, ofJsons?_toJsons items wellFormed]
      rfl
  | .record fields =>
      have sorted : Assoc.Sorted (fieldsWithoutEndpoints fields) := by
        rw [fieldsWithoutEndpoints_eq_map]
        exact Assoc.sorted_map _ wellFormed.1
      rw [toJson, ofJson?, fieldsOfJson?_fieldsToJson fields wellFormed.2, Option.map_some,
        ofFields, Assoc.ofList_of_sorted sorted, withoutEndpoints]
  | .endpoint url headers properties =>
      have sorted : Assoc.Sorted (fieldsWithoutEndpoints properties) := by
        rw [fieldsWithoutEndpoints_eq_map]
        exact Assoc.sorted_map _ wellFormed.1
      exact ofJson?_jsonMembers url headers sorted
        (fieldsOfJson?_fieldsToJson properties wellFormed.2)

theorem ofJsons?_toJsons (items : List Value) (wellFormed : AllWellFormed items) :
    ofJsons? (toJsons items) = some (allWithoutEndpoints items) := by
  match items with
  | [] => rfl
  | value :: rest =>
      simp [toJsons, ofJsons?, ofJson?_toJson_withoutEndpoints value wellFormed.1,
        ofJsons?_toJsons rest wellFormed.2, allWithoutEndpoints]

theorem fieldsOfJson?_fieldsToJson (fields : List (String × Value))
    (wellFormed : FieldsWellFormed fields) :
    fieldsOfJson? (fieldsToJson fields) = some (fieldsWithoutEndpoints fields) := by
  match fields with
  | [] => rfl
  | (name, value) :: rest =>
      simp [fieldsToJson, fieldsOfJson?, ofJson?_toJson_withoutEndpoints value wellFormed.1,
        fieldsOfJson?_fieldsToJson rest wellFormed.2, fieldsWithoutEndpoints]

end

theorem ofJson?_toJson (value : Value) (wellFormed : value.WellFormed)
    (free : value.EndpointFree) : ofJson? value.toJson = some value := by
  rw [ofJson?_toJson_withoutEndpoints value wellFormed,
    EndpointFree.withoutEndpoints_eq value free]

theorem Loadable.array {items : List Value} (h : ∀ value ∈ items, value.Loadable) :
    (array items).Loadable :=
  ⟨allWellFormed_iff.mpr fun value member => (h value member).1,
    allEndpointFree_iff.mpr fun value member => (h value member).2⟩

theorem Loadable.record {fields : List (String × Value)} (sorted : Assoc.Sorted fields)
    (h : ∀ field ∈ fields, field.2.Loadable) : (record fields).Loadable :=
  ⟨⟨sorted, fieldsWellFormed_iff.mpr fun field member => (h field member).1⟩,
    fieldsEndpointFree_iff.mpr fun field member => (h field member).2⟩

/-- What is read from a document is written without nesting deeper. -/
theorem loadable_of_ofJson? (json : Json) {value : Value} (h : ofJson? json = some value) :
    value.Loadable ∧ value.toJson.depth ≤ json.depth := by
  induction json using Json.parts_induction generalizing value with
  | step json ih =>
    cases json with
    | null | boolean _ | string _ =>
        cases h
        exact ⟨⟨trivial, trivial⟩, Nat.zero_le _⟩
    | integer n =>
        obtain ⟨m, -, rfl⟩ := Option.map_eq_some_iff.mp h
        exact ⟨⟨trivial, trivial⟩, Nat.zero_le _⟩
    | array items =>
        obtain ⟨values, read, rfl⟩ := Option.map_eq_some_iff.mp h
        rw [ofJsons?_eq_mapM] at read
        have each (value : Value) (member : value ∈ values) :
            value.Loadable ∧ value.toJson.depth < (Json.array items).depth := by
          obtain ⟨item, inside, own⟩ := Json.exists_of_mem_mapM read member
          obtain ⟨loadable, shallow⟩ := ih item inside own
          exact ⟨loadable, Nat.lt_of_le_of_lt shallow (Json.depth_lt_of_mem_parts inside)⟩
        refine ⟨.array fun value member => (each value member).1,
          Json.depth_le_of_parts (Nat.succ_pos _) ?_⟩
        rw [toJson, toJsons_eq_map, Json.parts, List.forall_mem_map]
        exact fun value member => (each value member).2
    | object members =>
        obtain ⟨fields, read, rfl⟩ := Option.map_eq_some_iff.mp h
        rw [fieldsOfJson?_eq_fieldsOf?] at read
        have each (field : String × Value) (member : field ∈ Assoc.ofList fields) :
            field.2.Loadable ∧ field.2.toJson.depth < (Json.object members).depth := by
          obtain ⟨item, present, own⟩ :=
            (Json.mem_of_fieldsOf?_iff read).mp (Assoc.mem_of_mem_ofList member)
          have inside := Json.mem_parts_object present
          obtain ⟨loadable, shallow⟩ := ih item inside own
          exact ⟨loadable, Nat.lt_of_le_of_lt shallow (Json.depth_lt_of_mem_parts inside)⟩
        refine ⟨.record (Assoc.sorted_ofList fields) fun field member => (each field member).1,
          Json.depth_le_of_parts (Nat.succ_pos _) ?_⟩
        rw [ofFields, toJson, fieldsToJson_eq_map, Json.parts, List.map_map, List.forall_mem_map]
        exact fun field member => (each field member).2
    | decimal _ | unreadable => cases h

theorem eq_null_of_ofJson? {json : Json} (h : ofJson? json = some .none) : json = .null := by
  cases json with
  | null => rfl
  | integer n =>
      obtain ⟨_, -, eq⟩ := Option.map_eq_some_iff.mp h
      cases eq
  | array items =>
      obtain ⟨_, -, eq⟩ := Option.map_eq_some_iff.mp h
      cases eq
  | object members =>
      obtain ⟨_, -, eq⟩ := Option.map_eq_some_iff.mp h
      cases eq
  | boolean _ | string _ | decimal _ | unreadable => cases h

theorem writable_texts (items : List String) : (Json.texts items).Writable := by
  refine Json.allWritable_iff.mpr ?_
  rw [List.forall_mem_map]
  exact fun _ _ => trivial

theorem writable_jsonMembers (url : String) (headers : Dict (List String))
    {properties : List (String × Json)} (h : Json.MembersWritable properties) :
    (Json.object (Endpoint.jsonMembers url headers properties)).Writable := by
  have texts : Json.MembersWritable (headers.map Json.texts).entries := by
    refine Json.membersWritable_iff.mpr ?_
    rw [Dict.map, List.forall_mem_map]
    exact fun header _ => writable_texts header.2
  rw [Endpoint.jsonMembers]
  cases headers.isEmpty <;> cases properties.isEmpty
  · exact ⟨trivial, texts, h, trivial⟩
  · exact ⟨trivial, texts, trivial⟩
  · exact ⟨trivial, h, trivial⟩
  · exact ⟨trivial, trivial⟩

mutual

theorem writable (value : Value) : value.toJson.Writable := by
  match value with
  | .none | .boolean _ | .string _ => trivial
  | .integer n => exact ⟨n, rfl⟩
  | .array items => exact allWritable items
  | .record fields => exact membersWritable fields
  | .endpoint url headers properties =>
      exact writable_jsonMembers url headers (membersWritable properties)

theorem allWritable (items : List Value) : Json.AllWritable (toJsons items) := by
  match items with
  | [] => trivial
  | value :: rest => exact ⟨writable value, allWritable rest⟩

theorem membersWritable (fields : List (String × Value)) :
    Json.MembersWritable (fieldsToJson fields) := by
  match fields with
  | [] => trivial
  | (_, value) :: rest => exact ⟨writable value, membersWritable rest⟩

end

/-- Reading what is written gives the value with records in place of all endpoints, so the value
itself just if there are none. The text that is written is read the same way if it does not nest too
deep. -/
theorem ofJson?_toJson_loses_endpoints {value : Value} (wellFormed : value.WellFormed) :
    ofJson? value.toJson = some value.withoutEndpoints ∧
      value.withoutEndpoints.EndpointFree ∧
      (ofJson? value.toJson = some value ↔ value.EndpointFree) ∧
      (value.toJson.depth ≤ Json.nestingLimit →
        (Json.parse? value.toJson.render).bind ofJson? = some value.withoutEndpoints) := by
  have read := ofJson?_toJson_withoutEndpoints value wellFormed
  refine ⟨read, (loadable_of_ofJson? _ read).1.2,
    ⟨fun own => (loadable_of_ofJson? _ own).1.2, ofJson?_toJson value wellFormed⟩, fun limit => ?_⟩
  rw [Json.parse?_render value.writable limit, Option.bind_some, read]

/-- An endpoint among the properties of another one. -/
def forwarded : Value :=
  .array [.endpoint "a" (.ofList [("x", ["1", "2"])]) [("next", .endpoint "b" ∅ [])]]

theorem ofJson?_toJson_loses_endpoints_forwarded :
    forwarded.WellFormed ∧ forwarded.toJson.depth ≤ Json.nestingLimit ∧
      ofJson? forwarded.toJson = some (.array [.record [
        ("headers", .record [("x", .array [.string "1", .string "2"])]),
        ("properties", .record [("next", .record [("url", .string "b")])]),
        ("url", .string "a")]]) ∧
      ofJson? forwarded.toJson ≠ some forwarded ∧
      (Json.parse? forwarded.toJson.render).bind ofJson? = some forwarded.withoutEndpoints := by
  have wellFormed : forwarded.WellFormed := by
    simp [forwarded, WellFormed, AllWellFormed, FieldsWellFormed, Assoc.Sorted]
  have limit : forwarded.toJson.depth ≤ Json.nestingLimit := by decide
  obtain ⟨read, -, own, text⟩ := ofJson?_toJson_loses_endpoints wellFormed
  refine ⟨wellFormed, limit, read, fun same => ?_, text limit⟩
  simpa [forwarded, EndpointFree, AllEndpointFree] using own.mp same

end Value

end EndpointResolution
