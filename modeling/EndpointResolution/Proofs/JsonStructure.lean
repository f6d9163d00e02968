import EndpointResolution.Proofs.JsonText

/-!
What stands inside a JSON document. The readers of structures, lists and dictionaries look at parts
that stand directly inside, so what holds of all of a document holds of all that is read from it.
-/

namespace EndpointResolution.Json

/-- What stands directly inside. -/
def parts : Json → List Json
  | .array items => items
  | .object members => members.map (·.2)
  | .null | .boolean _ | .integer _ | .decimal _ | .string _ | .unreadable => []

theorem mem_parts_object {members : List (String × Json)} {name : String} {json : Json}
    (h : (name, json) ∈ members) : json ∈ (object members).parts :=
  List.mem_map.mpr ⟨_, h, rfl⟩

mutual

/-- No object gives a name to two of its members. -/
def NoRepeats : Json → Prop
  | .array items => AllNoRepeats items
  | .object members => (members.map (·.1)).Nodup ∧ MembersNoRepeats members
  | .null | .boolean _ | .integer _ | .decimal _ | .string _ | .unreadable => True

def AllNoRepeats : List Json → Prop
  | [] => True
  | item :: rest => item.NoRepeats ∧ AllNoRepeats rest

def MembersNoRepeats : List (String × Json) → Prop
  | [] => True
  | (_, value) :: rest => value.NoRepeats ∧ MembersNoRepeats rest

end

theorem allNoRepeats_iff {items : List Json} :
    AllNoRepeats items ↔ ∀ item ∈ items, item.NoRepeats := by
  induction items with
  | nil => simp [AllNoRepeats]
  | cons item rest ih => simp [AllNoRepeats, ih]

theorem membersNoRepeats_iff {members : List (String × Json)} :
    MembersNoRepeats members ↔ ∀ member ∈ members, member.2.NoRepeats := by
  induction members with
  | nil => simp [MembersNoRepeats]
  | cons member rest ih => simp [MembersNoRepeats, ih]

theorem NoRepeats.of_mem_parts {json part : Json} (h : json.NoRepeats)
    (inside : part ∈ json.parts) : part.NoRepeats := by
  cases json with
  | array items => exact allNoRepeats_iff.mp h part inside
  | object members =>
      obtain ⟨member, present, rfl⟩ := List.mem_map.mp inside
      exact membersNoRepeats_iff.mp h.2 member present
  | null | boolean _ | integer _ | decimal _ | string _ | unreadable => cases inside

theorem depth_lt_of_mem_parts {json part : Json} (inside : part ∈ json.parts) :
    part.depth < json.depth := by
  cases json with
  | array items =>
      exact Nat.lt_succ_of_le (depthAll_le_iff.mp (Nat.le_refl _) part inside)
  | object members =>
      obtain ⟨member, present, rfl⟩ := List.mem_map.mp inside
      exact Nat.lt_succ_of_le (depthMembers_le_iff.mp (Nat.le_refl _) member present)
  | null | boolean _ | integer _ | decimal _ | string _ | unreadable => cases inside

theorem depth_le_of_parts {json : Json} {levels : Nat} (positive : 0 < levels)
    (h : ∀ part ∈ json.parts, part.depth < levels) : json.depth ≤ levels := by
  obtain ⟨levels, rfl⟩ := Nat.exists_eq_add_of_le' positive
  cases json with
  | array items =>
      exact Nat.succ_le_succ (depthAll_le_iff.mpr fun item member =>
        Nat.le_of_lt_succ (h item member))
  | object members =>
      exact Nat.succ_le_succ (depthMembers_le_iff.mpr fun member present =>
        Nat.le_of_lt_succ (h member.2 (mem_parts_object present)))
  | null | boolean _ | integer _ | decimal _ | string _ | unreadable => exact Nat.zero_le _

/-- What holds of data as soon as it holds of all that stands directly inside holds of all data. -/
theorem parts_induction {P : Json → Prop} (step : ∀ json, (∀ part ∈ json.parts, P part) → P json)
    (json : Json) : P json :=
  step json fun part _ => parts_induction step part
termination_by json.depth
decreasing_by exact depth_lt_of_mem_parts ‹_›

theorem writable_object {members : List (String × Json)}
    (h : ∀ part ∈ (object members).parts, part.Writable) : (object members).Writable :=
  membersWritable_iff.mpr fun member present =>
    h member.2 (mem_parts_object present)

variable {α β : Type}

theorem mapM_cons_eq_some_iff {read? : α → Option β} {item : α} {rest : List α}
    {values : List β} :
    (item :: rest).mapM read? = some values ↔
      ∃ value others, read? item = some value ∧ rest.mapM read? = some others ∧
        values = value :: others := by
  simp only [List.mapM_cons, Option.bind_eq_bind, Option.bind_eq_some_iff, Option.pure_def,
    Option.some.injEq]
  constructor
  · rintro ⟨value, here, others, behind, rfl⟩
    exact ⟨value, others, here, behind, rfl⟩
  · rintro ⟨value, others, here, behind, rfl⟩
    exact ⟨value, here, others, behind, rfl⟩

theorem exists_of_mem_mapM {read? : α → Option β} {items : List α} {values : List β}
    (h : items.mapM read? = some values) {value : β} (member : value ∈ values) :
    ∃ item ∈ items, read? item = some value := by
  induction items generalizing values with
  | nil => simp_all
  | cons item rest ih =>
      obtain ⟨first, others, here, behind, rfl⟩ := mapM_cons_eq_some_iff.mp h
      rcases List.mem_cons.mp member with rfl | later
      · exact ⟨item, List.mem_cons_self, here⟩
      · obtain ⟨source, present, read⟩ := ih behind later
        exact ⟨source, List.mem_cons_of_mem _ present, read⟩

theorem exists_mapM_iff {read? : α → Option β} {items : List α} :
    (∃ values, items.mapM read? = some values) ↔
      ∀ item ∈ items, ∃ value, read? item = some value := by
  induction items with
  | nil => simp
  | cons item rest ih =>
      rw [List.forall_mem_cons, ← ih]
      constructor
      · rintro ⟨_, read⟩
        obtain ⟨value, others, here, behind, -⟩ := mapM_cons_eq_some_iff.mp read
        exact ⟨⟨value, here⟩, others, behind⟩
      · rintro ⟨⟨value, here⟩, others, behind⟩
        exact ⟨_, mapM_cons_eq_some_iff.mpr ⟨value, others, here, behind, rfl⟩⟩

theorem exists_value_of_mapM {read? : α → Option β} {items : List α} {values : List β}
    (h : items.mapM read? = some values) {item : α} (member : item ∈ items) :
    ∃ value ∈ values, read? item = some value := by
  induction items generalizing values with
  | nil => cases member
  | cons first rest ih =>
      obtain ⟨value, others, here, behind, rfl⟩ := mapM_cons_eq_some_iff.mp h
      rcases List.mem_cons.mp member with rfl | later
      · exact ⟨value, List.mem_cons_self, here⟩
      · obtain ⟨value, present, own⟩ := ih behind later
        exact ⟨value, List.mem_cons_of_mem _ present, own⟩

theorem mapM_map_eq_some {γ : Type} {write : α → β} {read? : β → Option γ} {convert : α → γ}
    {values : List α} (h : ∀ value ∈ values, read? (write value) = some (convert value)) :
    (values.map write).mapM read? = some (values.map convert) := by
  induction values with
  | nil => rfl
  | cons value rest ih =>
      rw [List.forall_mem_cons] at h
      exact mapM_cons_eq_some_iff.mpr ⟨convert value, rest.map convert, h.1, ih h.2, rfl⟩

theorem mapM_map_of_forall {write : α → β} {read? : β → Option α} {values : List α}
    (h : ∀ value ∈ values, read? (write value) = some value) :
    (values.map write).mapM read? = some values :=
  (mapM_map_eq_some h).trans (congrArg some (List.map_id' values))

theorem listOf?_eq_some_iff {read? : Json → Option α} {json : Json} {values : List α} :
    listOf? read? json = some values ↔
      ∃ items, json = .array items ∧ items.mapM read? = some values := by
  cases json <;> simp [listOf?]

/-- The members under their names, if all of them can be read. -/
def fieldsOf? (read? : Json → Option α) (members : List (String × Json)) :
    Option (List (String × α)) :=
  members.mapM fun member => (read? member.2).map fun value => (member.1, value)

section Fields

variable {read? : Json → Option α} {members : List (String × Json)} {fields : List (String × α)}

theorem fieldsOf?_cons (member : String × Json) (rest : List (String × Json)) :
    fieldsOf? read? (member :: rest) =
      (read? member.2).bind fun value => (fieldsOf? read? rest).map ((member.1, value) :: ·) := by
  rw [fieldsOf?, List.mapM_cons]
  cases read? member.2 with
  | none => rfl
  | some value =>
      cases own : fieldsOf? read? rest <;> rw [fieldsOf?] at own <;> rw [own] <;> rfl

theorem exists_fieldsOf?_iff : (∃ fields, fieldsOf? read? members = some fields) ↔
    ∀ member ∈ members, ∃ value, read? member.2 = some value := by
  rw [fieldsOf?, exists_mapM_iff]
  simp only [← Option.isSome_iff_exists, Option.isSome_map]

theorem names_of_fieldsOf? (h : fieldsOf? read? members = some fields) :
    fields.map (·.1) = members.map (·.1) := by
  induction members generalizing fields with
  | nil =>
      cases h
      rfl
  | cons member rest ih =>
      obtain ⟨_, others, own, behind, rfl⟩ := mapM_cons_eq_some_iff.mp h
      obtain ⟨value, -, rfl⟩ := Option.map_eq_some_iff.mp own
      rw [List.map_cons, List.map_cons, ih behind]

theorem mem_of_fieldsOf?_iff (h : fieldsOf? read? members = some fields) {name : String}
    {value : α} :
    (name, value) ∈ fields ↔ ∃ json, (name, json) ∈ members ∧ read? json = some value := by
  constructor
  · intro member
    obtain ⟨source, present, named⟩ := exists_of_mem_mapM h member
    obtain ⟨_, own, eq⟩ := Option.map_eq_some_iff.mp named
    cases eq
    exact ⟨source.2, present, own⟩
  · rintro ⟨json, present, own⟩
    obtain ⟨field, member, named⟩ := exists_value_of_mapM h present
    rw [own] at named
    cases named
    exact member

/-- Where no name comes twice, the fields in order of name have the names of the members, and each
of them is read from the member of its name. -/
theorem ofList_fieldsOf?_eq_some_iff (single : (members.map (·.1)).Nodup) :
    (fieldsOf? read? members).map Assoc.ofList = some fields ↔
      Assoc.Sorted fields ∧ (∀ name, name ∈ fields.map (·.1) ↔ name ∈ members.map (·.1)) ∧
        ∀ field ∈ fields, ∃ json, (field.1, json) ∈ members ∧ read? json = some field.2 := by
  constructor
  · intro h
    obtain ⟨read, own, rfl⟩ := Option.map_eq_some_iff.mp h
    have names := names_of_fieldsOf? own
    have once : (read.map (·.1)).Nodup := names ▸ single
    refine ⟨Assoc.sorted_ofList read, fun name => ?_, fun field member => ?_⟩
    · simp only [← names, List.mem_map, Assoc.mem_ofList_iff once]
    · exact (mem_of_fieldsOf?_iff own).mp ((Assoc.mem_ofList_iff once).mp member)
  · rintro ⟨sorted, names, each⟩
    have field {name : String} {json : Json} (present : (name, json) ∈ members) :
        ∃ value, (name, value) ∈ fields ∧ read? json = some value := by
      obtain ⟨⟨_, value⟩, member, rfl⟩ :=
        List.mem_map.mp ((names name).mpr (List.mem_map.mpr ⟨_, present, rfl⟩))
      obtain ⟨other, there, own⟩ := each _ member
      have same : some other = some json :=
        (Assoc.find?_of_mem single there).symm.trans (Assoc.find?_of_mem single present)
      cases same
      exact ⟨value, member, own⟩
    obtain ⟨read, own⟩ := exists_fieldsOf?_iff.mpr fun member present =>
      (field present).imp fun _ => And.right
    have once : (read.map (·.1)).Nodup := names_of_fieldsOf? own ▸ single
    rw [own, Option.map_some, Option.some.injEq]
    refine (Assoc.sorted_ofList read).eq_of_mem_iff sorted fun entry => ?_
    rw [Assoc.mem_ofList_iff once, mem_of_fieldsOf?_iff own]
    constructor
    · rintro ⟨json, present, value⟩
      obtain ⟨_, member, value'⟩ := field present
      cases value.symm.trans value'
      exact member
    · exact each entry

end Fields

theorem dictOf?_object (read? : Json → Option α) (members : List (String × Json)) :
    dictOf? read? (.object members) = (fieldsOf? read? members).map Dict.ofList := rfl

theorem dictOf?_object_eq_some_iff {read? : Json → Option α} {members : List (String × Json)}
    {dict : Dict α} : dictOf? read? (.object members) = some dict ↔
      (fieldsOf? read? members).map Assoc.ofList = some dict.entries := by
  rw [dictOf?_object, Option.map_eq_some_iff, Option.map_eq_some_iff]
  refine exists_congr fun fields => and_congr_right fun _ => ?_
  rw [Dict.mk.injEq]
  rfl

/-- The entries of a dictionary are read from values of members. -/
theorem exists_of_mem_dictOf? {read? : Json → Option α} {json : Json} {dict : Dict α}
    (h : dictOf? read? json = some dict) {entry : String × α} (member : entry ∈ dict.entries) :
    ∃ part ∈ json.parts, read? part = some entry.2 := by
  cases json with
  | object members =>
      obtain ⟨fields, read, rfl⟩ := Option.map_eq_some_iff.mp h
      obtain ⟨part, present, own⟩ :=
        (mem_of_fieldsOf?_iff read).mp (Assoc.mem_of_mem_ofList member)
      exact ⟨part, mem_parts_object present, own⟩
  | null | boolean _ | integer _ | decimal _ | string _ | array _ | unreadable => cases h

theorem exists_of_dictOf? {read? : Json → Option α} {json : Json} {dict : Dict α}
    (h : dictOf? read? json = some dict) : ∃ members, json = .object members := by
  cases json with
  | object members => exact ⟨members, rfl⟩
  | null | boolean _ | integer _ | decimal _ | string _ | array _ | unreadable => cases h

/-- A dictionary comes back if its entries do. -/
theorem dictOf?_map {write : α → Json} {read? : Json → Option α} {dict : Dict α}
    (h : ∀ entry ∈ dict.entries, read? (write entry.2) = some entry.2) :
    dictOf? read? (.object (dict.map write).entries) = some dict := by
  have read : fieldsOf? read? (dict.map write).entries = some dict.entries :=
    mapM_map_of_forall fun entry member => by simp [h entry member]
  rw [dictOf?_object, read, Option.map_some, Dict.ofList_entries]

theorem mem_of_mem_occurrences {name : String} {value : α} {members : List (String × α)}
    (h : value ∈ occurrences name members) : (name, value) ∈ members := by
  obtain ⟨member, kept, rfl⟩ := List.mem_map.mp h
  obtain ⟨present, named⟩ := List.mem_filter.mp kept
  have own : member.1 = name := by simpa using named
  exact own ▸ present

/-- A name given once occurs as often as it is found. -/
theorem occurrences_of_nodup {members : List (String × α)} (h : (members.map (·.1)).Nodup)
    (name : String) : occurrences name members = (Assoc.find? name members).toList := by
  induction members with
  | nil => rfl
  | cons member rest ih =>
      obtain ⟨key, value⟩ := member
      rw [List.map_cons, List.nodup_cons] at h
      rw [Assoc.find?]
      have others := ih h.2
      split
      · next own =>
          subst own
          rw [Assoc.find?_eq_none_iff.mpr h.1] at others
          simpa [occurrences] using others
      · next other => simpa [occurrences, other] using others

theorem occurrences_eq_singleton_iff {members : List (String × α)}
    (single : (members.map (·.1)).Nodup) {name : String} {value : α} :
    occurrences name members = [value] ↔ (name, value) ∈ members := by
  constructor
  · intro once
    exact mem_of_mem_occurrences (once ▸ List.mem_singleton_self value)
  · intro present
    rw [occurrences_of_nodup single, Assoc.find?_of_mem single present]
    rfl

theorem mem_parts_of_member? {members : List (String × Json)} {name : String} {part : Json}
    (h : member? members name = some (some part)) : part ∈ (Json.object members).parts := by
  simp only [member?] at h
  split at h
  · cases h
  · next json found =>
      cases h
      have present : part ∈ occurrences name members := found ▸ List.mem_singleton_self _
      exact mem_parts_object (mem_of_mem_occurrences present)
  · cases h

/-- Members of a structure stand inside it. -/
theorem mem_parts_of_members? {json : Json} {names : List String} {values : List (Option Json)}
    (h : json.members? names = some values) {part : Json} (member : some part ∈ values) :
    part ∈ json.parts := by
  cases json with
  | object members =>
      obtain ⟨name, -, read⟩ := exists_of_mem_mapM h member
      exact mem_parts_of_member? read
  | array items =>
      simp only [members?, Option.ite_none_right_eq_some, Option.some.injEq] at h
      obtain ⟨-, rfl⟩ := h
      simpa [parts] using member
  | null | boolean _ | integer _ | decimal _ | string _ | unreadable => cases h

theorem optional?_eq_some_some_iff {read? : Json → Option α} {json : Option Json} {value : α} :
    optional? read? json = some (some value) ↔
      ∃ part, json = some part ∧ part ≠ .null ∧ read? part = some value := by
  match json with
  | none | some .null => simp [optional?]
  | some (.boolean _) | some (.integer _) | some (.decimal _) | some (.string _) | some (.array _)
  | some (.object _) | some .unreadable => simp [optional?]

theorem withDefault?_eq_some_iff {default value : α} {read? : Json → Option α}
    {json : Option Json} : withDefault? default read? json = some value ↔
      (json = none ∧ value = default) ∨ ∃ part, json = some part ∧ read? part = some value := by
  cases json with
  | none => simp [withDefault?, eq_comm]
  | some part => simp [withDefault?]

theorem exists_of_mem_withDefault?_dictOf? {read? : Json → Option α} {json : Option Json}
    {dict : Dict α} (h : withDefault? ∅ (dictOf? read?) json = some dict) {entry : String × α}
    (member : entry ∈ dict.entries) :
    ∃ whole, json = some whole ∧ ∃ part ∈ whole.parts, read? part = some entry.2 := by
  rcases withDefault?_eq_some_iff.mp h with ⟨-, rfl⟩ | ⟨whole, rfl, read⟩
  · cases member
  · exact ⟨whole, rfl, exists_of_mem_dictOf? read member⟩

theorem exists_of_mem_withDefault?_listOf? {read? : Json → Option α} {json : Option Json}
    {values : List α} (h : withDefault? [] (listOf? read?) json = some values) {value : α}
    (member : value ∈ values) :
    ∃ whole, json = some whole ∧ ∃ part ∈ whole.parts, read? part = some value := by
  rcases withDefault?_eq_some_iff.mp h with ⟨-, rfl⟩ | ⟨whole, rfl, read⟩
  · cases member
  · obtain ⟨items, rfl, each⟩ := listOf?_eq_some_iff.mp read
    exact ⟨.array items, rfl, exists_of_mem_mapM each member⟩

end EndpointResolution.Json
