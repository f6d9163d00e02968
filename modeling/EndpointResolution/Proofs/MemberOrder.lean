import Mathlib.Data.List.Forall2
import EndpointResolution.Proofs.JsonStructure

/-!
The order of members. Where no object gives a name to two of its members, a reader finds them by
their names, so it reads the same whatever their order. This holds of the readers of parts and
passes on to the readers of lists, dictionaries and structures that are made of them.
-/

namespace EndpointResolution

namespace Json

mutual

/-- The same data, with the members of its objects in any order. Lists keep theirs. -/
def Reordered : Json → Json → Prop
  | .array items, other => ∃ others, other = .array others ∧ AllReordered items others
  | .object members, other => ∃ listed others, other = .object others ∧ listed.Perm others ∧
      MembersReordered members listed
  | json, other => other = json

def AllReordered : List Json → List Json → Prop
  | [], others => others = []
  | item :: rest, others => ∃ first behind, others = first :: behind ∧ item.Reordered first ∧
      AllReordered rest behind

/-- Members in the same order. -/
def MembersReordered : List (String × Json) → List (String × Json) → Prop
  | [], others => others = []
  | (name, value) :: rest, others => ∃ first behind, others = (name, first) :: behind ∧
      value.Reordered first ∧ MembersReordered rest behind

end

mutual

theorem Reordered.refl (json : Json) : json.Reordered json := by
  match json with
  | .array items => exact ⟨items, rfl, AllReordered.refl items⟩
  | .object members => exact ⟨members, members, rfl, .refl _, MembersReordered.refl members⟩
  | .null | .boolean _ | .integer _ | .decimal _ | .string _ | .unreadable => rfl

theorem AllReordered.refl (items : List Json) : AllReordered items items := by
  match items with
  | [] => rfl
  | item :: rest => exact ⟨item, rest, rfl, Reordered.refl item, AllReordered.refl rest⟩

theorem MembersReordered.refl (members : List (String × Json)) :
    MembersReordered members members := by
  match members with
  | [] => rfl
  | (_, value) :: rest => exact ⟨value, rest, rfl, Reordered.refl value, MembersReordered.refl rest⟩

end

/-- Reordered data in which no object gives a name to two of its members. -/
structure Alike (json other : Json) : Prop where
  single : json.NoRepeats
  reordered : json.Reordered other

theorem forall₂_alike {items others : List Json} (single : AllNoRepeats items)
    (reordered : AllReordered items others) : List.Forall₂ Alike items others := by
  induction items generalizing others with
  | nil =>
      cases reordered
      exact .nil
  | cons item rest ih =>
      obtain ⟨first, behind, rfl, own, others⟩ := reordered
      exact .cons ⟨single.1, own⟩ (ih single.2 others)

theorem forall₂_members {members listed : List (String × Json)} (single : MembersNoRepeats members)
    (reordered : MembersReordered members listed) :
    List.Forall₂ (fun member other => member.1 = other.1 ∧ Alike member.2 other.2)
      members listed := by
  induction members generalizing listed with
  | nil =>
      cases reordered
      exact .nil
  | cons member rest ih =>
      obtain ⟨first, behind, rfl, own, others⟩ := reordered
      exact .cons ⟨rfl, single.1, own⟩ (ih single.2 others)

theorem Alike.items {items others : List Json} (h : Alike (.array items) (.array others)) :
    List.Forall₂ Alike items others := by
  obtain ⟨single, _, eq, each⟩ := h
  cases eq
  exact forall₂_alike single each

theorem Alike.tail {item first : Json} {rest behind : List Json}
    (h : Alike (.array (item :: rest)) (.array (first :: behind))) :
    Alike (.array rest) (.array behind) := by
  obtain ⟨single, _, eq, each⟩ := h
  cases eq
  obtain ⟨_, _, eq, -, others⟩ := each
  cases eq
  exact ⟨single.2, _, rfl, others⟩

/-- Data without parts stays as it is. -/
theorem Alike.cases {json other : Json} (h : Alike json other) :
    other = json ∨ (∃ items others, json = .array items ∧ other = .array others) ∨
      ∃ members others, json = .object members ∧ other = .object others := by
  obtain ⟨-, reordered⟩ := h
  cases json with
  | array items =>
      obtain ⟨others, rfl, -⟩ := reordered
      exact .inr (.inl ⟨items, others, rfl, rfl⟩)
  | object members =>
      obtain ⟨_, others, rfl, -⟩ := reordered
      exact .inr (.inr ⟨members, others, rfl, rfl⟩)
  | null | boolean _ | integer _ | decimal _ | string _ | unreadable => exact .inl reordered

/-- What is read does not depend on the order of members. -/
def OrderFree {β : Type} (read : Json → β) : Prop :=
  ∀ json other, Alike json other → read json = read other

variable {α β : Type}

/-- It is enough that reading is order-free if it is so for all that stands inside. -/
theorem OrderFree.of_parts {read : Json → β}
    (step : ∀ json other, Alike json other →
      (∀ part ∈ json.parts, ∀ other, Alike part other → read part = read other) →
        read json = read other) : OrderFree read := by
  intro json
  induction json using parts_induction with
  | step json ih => exact fun other alike => step json other alike ih

/-- A reader that tells no list from another and no object from another. -/
theorem OrderFree.flat {read : Json → β} {outside : β}
    (array : ∀ items, read (.array items) = outside)
    (object : ∀ members, read (.object members) = outside) : OrderFree read := by
  intro json other alike
  rcases alike.cases with rfl | ⟨items, others, rfl, rfl⟩ | ⟨members, others, rfl, rfl⟩
  · rfl
  · rw [array, array]
  · rw [object, object]

theorem string?_orderFree : OrderFree string? := .flat (fun _ => rfl) fun _ => rfl

theorem boolean?_orderFree : OrderFree boolean? := .flat (fun _ => rfl) fun _ => rfl

theorem mapM_eq_of_alike {read? : Json → Option α} {items others : List Json}
    (alike : List.Forall₂ Alike items others)
    (each : ∀ item ∈ items, ∀ other, Alike item other → read? item = read? other) :
    items.mapM read? = others.mapM read? := by
  induction alike with
  | nil => rfl
  | cons own _ ih =>
      rw [List.forall_mem_cons] at each
      rw [List.mapM_cons, List.mapM_cons, each.1 _ own, ih each.2]

theorem OrderFree.listOf? {read? : Json → Option α} (h : OrderFree read?) :
    OrderFree (listOf? read?) := by
  intro json other alike
  rcases alike.cases with rfl | ⟨items, others, rfl, rfl⟩ | ⟨members, others, rfl, rfl⟩
  · rfl
  · exact mapM_eq_of_alike alike.items fun item _ => h item
  · rfl

theorem map_eq_of_rel {read : Json → β} {value other : Option Json}
    (same : Option.Rel Alike value other)
    (each : ∀ json, value = some json → ∀ other, Alike json other → read json = read other) :
    value.map read = other.map read := by
  cases same with
  | none => rfl
  | some own => rw [Option.map_some, Option.map_some, each _ rfl _ own]

theorem find?_rel {members listed : List (String × Json)}
    (pairs : List.Forall₂ (fun member other => member.1 = other.1 ∧ Alike member.2 other.2)
      members listed) (name : String) :
    Option.Rel Alike (Assoc.find? name members) (Assoc.find? name listed) := by
  induction pairs with
  | nil => exact .none
  | cons own _ ih =>
      rw [Assoc.find?, Assoc.find?, own.1]
      split
      · exact .some own.2
      · exact ih

section Objects

variable {members others : List (String × Json)} (alike : Alike (.object members) (.object others))

include alike

theorem Alike.exists_listed : ∃ listed, listed.Perm others ∧
    List.Forall₂ (fun member other => member.1 = other.1 ∧ Alike member.2 other.2)
      members listed := by
  obtain ⟨⟨-, single⟩, listed, _, eq, same, each⟩ := alike
  cases eq
  exact ⟨listed, same, forall₂_members single each⟩

theorem Alike.perm_names : (members.map (·.1)).Perm (others.map (·.1)) := by
  obtain ⟨listed, same, pairs⟩ := alike.exists_listed
  have names : List.Forall₂ (· = ·) (members.map (·.1)) (listed.map (·.1)) :=
    List.forall₂_map_left_iff.mpr (List.forall₂_map_right_iff.mpr
      (pairs.imp fun _ _ => And.left))
  rw [List.forall₂_eq_eq_eq] at names
  exact names ▸ same.map _

theorem Alike.nodup : (members.map (·.1)).Nodup ∧ (others.map (·.1)).Nodup :=
  ⟨alike.single.1, alike.perm_names.nodup alike.single.1⟩

/-- There is alike data under each name. -/
theorem Alike.find? (name : String) :
    Option.Rel Alike (Assoc.find? name members) (Assoc.find? name others) := by
  obtain ⟨listed, same, pairs⟩ := alike.exists_listed
  rw [← Assoc.find?_perm name ((same.map _).symm.nodup alike.nodup.2) same]
  exact find?_rel pairs name

section Read

variable {read : Json → β}
  (each : ∀ part ∈ (Json.object members).parts, ∀ other, Alike part other → read part = read other)

include each

theorem Alike.map_find? (name : String) :
    (Assoc.find? name members).map read = (Assoc.find? name others).map read :=
  map_eq_of_rel (alike.find? name) fun json found =>
    each json (mem_parts_object (Assoc.mem_of_find? found))

theorem Alike.exists_member_iff (name : String) (value : β) :
    (∃ json, (name, json) ∈ members ∧ read json = value) ↔
      ∃ json, (name, json) ∈ others ∧ read json = value := by
  simp only [← Assoc.find?_eq_some_iff alike.nodup.1, ← Assoc.find?_eq_some_iff alike.nodup.2,
    ← Option.map_eq_some_iff, alike.map_find? each]

end Read

/-- Members that are read one by one are read as the same fields. -/
theorem Alike.ofList_fieldsOf? {read? : Json → Option α}
    (each : ∀ part ∈ (Json.object members).parts, ∀ other, Alike part other →
      read? part = read? other) :
    (fieldsOf? read? members).map Assoc.ofList = (fieldsOf? read? others).map Assoc.ofList := by
  ext fields
  rw [ofList_fieldsOf?_eq_some_iff alike.nodup.1, ofList_fieldsOf?_eq_some_iff alike.nodup.2]
  simp only [alike.perm_names.mem_iff, alike.exists_member_iff each]

end Objects

theorem OrderFree.dictOf? {read? : Json → Option α} (h : OrderFree read?) :
    OrderFree (dictOf? read?) := by
  intro json other alike
  rcases alike.cases with rfl | ⟨items, others, rfl, rfl⟩ | ⟨members, others, rfl, rfl⟩
  · rfl
  · rfl
  · ext dict
    rw [dictOf?_object_eq_some_iff, dictOf?_object_eq_some_iff,
      alike.ofList_fieldsOf? fun part _ => h part]

theorem bind_eq_of_rel {γ : Type} {R : γ → γ → Prop} {value other : Option γ}
    (same : Option.Rel R value other) {f g : γ → Option β} (h : ∀ {a b}, R a b → f a = g b) :
    value.bind f = other.bind g := by
  cases same with
  | none => rfl
  | some own => exact h own

theorem member?_of_nodup {members : List (String × Json)} (h : (members.map (·.1)).Nodup)
    (name : String) : member? members name = some (Assoc.find? name members) := by
  rw [member?, occurrences_of_nodup h]
  cases Assoc.find? name members <;> rfl

theorem mapM_member?_of_nodup {members : List (String × Json)} (h : (members.map (·.1)).Nodup)
    (names : List String) :
    names.mapM (member? members) = some (names.map fun name => Assoc.find? name members) := by
  induction names with
  | nil => rfl
  | cons name rest ih => exact mapM_cons_eq_some_iff.mpr ⟨_, _, member?_of_nodup h name, ih, rfl⟩

/-- The members of alike structures are alike. -/
theorem Alike.members? {json other : Json} (alike : Alike json other) (names : List String) :
    Option.Rel (List.Forall₂ (Option.Rel Alike)) (json.members? names) (other.members? names) := by
  cases json with
  | object members =>
      obtain ⟨_, others, rfl, -⟩ := alike.reordered
      rw [Json.members?, Json.members?, mapM_member?_of_nodup alike.nodup.1,
        mapM_member?_of_nodup alike.nodup.2]
      refine .some (List.forall₂_map_left_iff.mpr (List.forall₂_map_right_iff.mpr ?_))
      exact List.forall₂_same.mpr fun name _ => alike.find? name
  | array items =>
      obtain ⟨others, rfl, -⟩ := alike.reordered
      rw [Json.members?, Json.members?, alike.items.length_eq]
      split
      · refine .some (List.rel_append ?_ (List.forall₂_same.mpr fun value absent => ?_))
        · exact List.rel_map (fun _ _ => .some) alike.items
        · rw [List.eq_of_mem_replicate absent]
          exact .none
      · exact .none
  | null | boolean _ | integer _ | decimal _ | string _ | unreadable =>
      cases alike.reordered
      exact .none

section Structure

variable {value other : Option Json} (same : Option.Rel Alike value other)

include same

theorem OrderFree.bind_eq {read? : Json → Option α} (h : OrderFree read?) :
    value.bind read? = other.bind read? :=
  bind_eq_of_rel same fun own => h _ _ own

theorem OrderFree.withDefault?_eq {read? : Json → Option α} (h : OrderFree read?) (default : α) :
    withDefault? default read? value = withDefault? default read? other := by
  cases same with
  | none => rfl
  | some own => exact h _ _ own

theorem OrderFree.optional?_eq {read? : Json → Option α} (h : OrderFree read?) :
    optional? read? value = optional? read? other := by
  cases same with
  | none => rfl
  | some own =>
      rcases own.cases with rfl | ⟨items, others, rfl, rfl⟩ | ⟨members, others, rfl, rfl⟩
      · rfl
      · exact congrArg (Option.map some) (h _ _ own)
      · exact congrArg (Option.map some) (h _ _ own)

end Structure

/-- A structure is read alike if its members are. -/
theorem Alike.bind_members?_eq {json other : Json} (alike : Alike json other) (names : List String)
    {build : List (Option Json) → Option β}
    (h : ∀ {values others}, List.Forall₂ (Option.Rel Alike) values others →
      build values = build others) :
    (json.members? names).bind build = (other.members? names).bind build :=
  bind_eq_of_rel (alike.members? names) h

theorem nameOf?_orderFree : OrderFree nameOf? := by
  intro json other alike
  rcases alike.cases with rfl | ⟨items, others, rfl, rfl⟩ | ⟨members, others, rfl, rfl⟩
  · rfl
  · rfl
  · have names := alike.perm_names
    match members, others, names.length_eq with
    | [], [], _ => rfl
    | [(name, value)], [(key, other)], _ =>
        cases List.singleton_perm_singleton.mp names
        have same := alike.find? name
        simp only [Assoc.find?, ↓reduceIte] at same
        cases same with
        | some own => rcases own.cases with rfl | ⟨_, _, rfl, rfl⟩ | ⟨_, _, rfl, rfl⟩ <;> rfl
    | _ :: _ :: _, _ :: _ :: _, _ => simp [nameOf?]

theorem allReadable_eq_of_alike {items others : List Json}
    (alike : List.Forall₂ Alike items others)
    (each : ∀ item ∈ items, ∀ other, Alike item other → item.readable = other.readable) :
    allReadable items = allReadable others := by
  induction alike with
  | nil => rfl
  | cons own _ ih =>
      rw [List.forall_mem_cons] at each
      rw [allReadable, allReadable, each.1 _ own, ih each.2]

theorem membersReadable_iff {members : List (String × Json)} :
    membersReadable members ↔ ∀ member ∈ members, member.2.readable := by
  induction members with
  | nil => simp [membersReadable]
  | cons member rest ih => simp [membersReadable, ih]

theorem readable_orderFree : OrderFree readable := by
  refine .of_parts fun json other alike each => ?_
  rcases alike.cases with rfl | ⟨items, others, rfl, rfl⟩ | ⟨members, others, rfl, rfl⟩
  · rfl
  · exact allReadable_eq_of_alike alike.items each
  · have none (listed : List (String × Json)) : membersReadable listed ↔
        ∀ name, ¬ ∃ json, (name, json) ∈ listed ∧ json.readable = false := by
      simp [membersReadable_iff]
    rw [readable, readable, Bool.eq_iff_iff, none, none]
    simp only [alike.exists_member_iff each]

end Json

end EndpointResolution
