import EndpointResolution.Error

/-!
Computations that have a result. A sequence of them has one just if each of them does, and a list
of them, with or without names, has the list of their results.
-/

namespace EndpointResolution.Result

variable {α β γ : Type}

theorem bind_eq_ok_iff {x : Result α} {f : α → Result β} {b : β} :
    x >>= f = .ok b ↔ ∃ a, x = .ok a ∧ f a = .ok b := by
  cases x <;> simp [bind, Except.bind]

theorem bind_eq_error_iff {x : Result α} {f : α → Result β} {e : Error} :
    x >>= f = .error e ↔ x = .error e ∨ ∃ a, x = .ok a ∧ f a = .error e := by
  cases x <;> simp [bind, Except.bind]

/-- What is there has a result just if it does not fail. -/
theorem forall_not_error_iff {a? : Option α} {f : α → Result β} :
    (∀ e, ¬ ∃ a, a? = some a ∧ f a = .error e) ↔ ∀ a, a? = some a → ∃ b, f a = .ok b := by
  cases a? with
  | none => simp
  | some a => cases result : f a <;> simp [result]

/-- Two computations that do not depend on each other. -/
theorem both_eq_ok_iff {x : Result α} {y : Result β} {f : α → β → γ} {c : γ} :
    (x >>= fun a => y >>= fun b => pure (f a b)) = .ok c ↔
      ∃ a b, x = .ok a ∧ y = .ok b ∧ c = f a b := by
  simp only [bind_eq_ok_iff, pure, Except.pure, Except.ok.injEq]
  constructor
  · rintro ⟨a, first, b, second, rfl⟩
    exact ⟨a, b, first, second, rfl⟩
  · rintro ⟨a, b, first, second, rfl⟩
    exact ⟨a, first, b, second, rfl⟩

theorem mapM_cons_eq_ok_iff {f : α → Result β} {item : α} {rest : List α} {values : List β} :
    (item :: rest).mapM f = .ok values ↔
      ∃ value others, f item = .ok value ∧ rest.mapM f = .ok others ∧ values = value :: others := by
  rw [List.mapM_cons]
  exact both_eq_ok_iff

section

variable {f : α → Result β} {items : List α} {values : List β}

theorem length_of_mapM (h : items.mapM f = .ok values) : values.length = items.length := by
  induction items generalizing values with
  | nil =>
      cases h
      rfl
  | cons item rest ih =>
      obtain ⟨value, others, -, behind, rfl⟩ := mapM_cons_eq_ok_iff.mp h
      simp [ih behind]

theorem exists_of_mem_mapM (h : items.mapM f = .ok values) {value : β} (member : value ∈ values) :
    ∃ item ∈ items, f item = .ok value := by
  induction items generalizing values with
  | nil =>
      cases h
      cases member
  | cons item rest ih =>
      obtain ⟨first, others, here, behind, rfl⟩ := mapM_cons_eq_ok_iff.mp h
      rcases List.mem_cons.mp member with rfl | later
      · exact ⟨item, List.mem_cons_self, here⟩
      · obtain ⟨source, present, own⟩ := ih behind later
        exact ⟨source, List.mem_cons_of_mem _ present, own⟩

theorem exists_value_of_mapM (h : items.mapM f = .ok values) {item : α} (member : item ∈ items) :
    ∃ value ∈ values, f item = .ok value := by
  induction items generalizing values with
  | nil => cases member
  | cons first rest ih =>
      obtain ⟨value, others, here, behind, rfl⟩ := mapM_cons_eq_ok_iff.mp h
      rcases List.mem_cons.mp member with rfl | later
      · exact ⟨value, List.mem_cons_self, here⟩
      · obtain ⟨value, present, own⟩ := ih behind later
        exact ⟨value, List.mem_cons_of_mem _ present, own⟩

end

/-- A list fails for the first of its items that fails. -/
theorem mapM_eq_error_iff {f : α → Result β} {items : List α} {e : Error} :
    items.mapM f = .error e ↔ ∃ front item rest, items = front ++ item :: rest ∧
      (∀ passed ∈ front, ∃ value, f passed = .ok value) ∧ f item = .error e := by
  induction items with
  | nil => simp [pure, Except.pure]
  | cons first others ih =>
      rw [List.mapM_cons]
      cases own : f first with
      | error cause =>
          constructor
          · rintro ⟨⟩
            exact ⟨[], first, others, rfl, by simp, own⟩
          · rintro ⟨front, item, rest, split, passed, fails⟩
            cases front with
            | nil =>
                cases split
                cases own.symm.trans fails
                rfl
            | cons _ front =>
                cases split
                obtain ⟨value, ok⟩ := passed first (by simp)
                cases own.symm.trans ok
      | ok value =>
          have behind : ((.ok value : Result β) >>= fun value => others.mapM f >>= fun values =>
              pure (value :: values)) = .error e ↔ others.mapM f = .error e := by
            cases others.mapM f <;> simp [bind, Except.bind, pure, Except.pure]
          rw [behind, ih]
          constructor
          · rintro ⟨front, item, rest, rfl, passed, fails⟩
            exact ⟨first :: front, item, rest, rfl, by simpa using ⟨⟨value, own⟩, passed⟩, fails⟩
          · rintro ⟨front, item, rest, split, passed, fails⟩
            cases front with
            | nil =>
                cases split
                cases own.symm.trans fails
            | cons _ front =>
                cases split
                exact ⟨front, item, rest, rfl, fun other member => passed other (by simp [member]),
                  fails⟩

/-- A list fails at the first of its positions that fails. -/
theorem mapM_eq_error_iff_getElem? {f : α → Result β} {items : List α} {e : Error} :
    items.mapM f = .error e ↔ ∃ (i : Nat) (item : α), items[i]? = some item ∧ f item = .error e ∧
      ∀ j < i, ∀ passed, items[j]? = some passed → ∃ value, f passed = .ok value := by
  rw [mapM_eq_error_iff]
  constructor
  · rintro ⟨front, item, rest, rfl, passed, fails⟩
    refine ⟨front.length, item, by simp, fails, fun j before other here => ?_⟩
    rw [List.getElem?_append_left before] at here
    exact passed other (List.mem_of_getElem? here)
  · rintro ⟨i, item, here, fails, passed⟩
    obtain ⟨inside, own⟩ := List.getElem?_eq_some_iff.mp here
    refine ⟨items.take i, item, items.drop (i + 1), ?_, fun other member => ?_, fails⟩
    · rw [← own, List.getElem_cons_drop, List.take_append_drop]
    · obtain ⟨j, before, own⟩ := List.mem_take_iff_getElem.mp member
      exact passed j (by omega) other (List.getElem?_eq_some_iff.mpr ⟨_, own⟩)

theorem exists_mapM_iff {f : α → Result β} {items : List α} :
    (∃ values, items.mapM f = .ok values) ↔ ∀ item ∈ items, ∃ value, f item = .ok value := by
  constructor
  · rintro ⟨values, each⟩ item member
    obtain ⟨value, -, own⟩ := exists_value_of_mapM each member
    exact ⟨value, own⟩
  · intro each
    cases result : items.mapM f with
    | ok values => exact ⟨values, rfl⟩
    | error e =>
        obtain ⟨front, item, rest, rfl, -, fails⟩ := mapM_eq_error_iff.mp result
        obtain ⟨value, own⟩ := each item (by simp)
        cases own.symm.trans fails

/-- Computations under names. -/
def mapFields (f : α → Result β) (fields : List (String × α)) : Result (List (String × β)) :=
  fields.mapM fun field => do return (field.1, ← f field.2)

theorem mapFields_cons (f : α → Result β) (field : String × α) (rest : List (String × α)) :
    mapFields f (field :: rest) = do return (field.1, ← f field.2) :: (← mapFields f rest) := by
  rw [mapFields, mapFields, List.mapM_cons]
  cases f field.2 <;> rfl

section

variable {f : α → Result β} {fields : List (String × α)} {values : List (String × β)}

theorem field_eq_ok_iff {field : String × α} {value : String × β} :
    (do return (field.1, ← f field.2) : Result (String × β)) = .ok value ↔
      field.1 = value.1 ∧ f field.2 = .ok value.2 := by
  obtain ⟨name, b⟩ := value
  rw [bind_eq_ok_iff]
  constructor
  · rintro ⟨a, own, eq⟩
    cases eq
    exact ⟨rfl, own⟩
  · rintro ⟨rfl, own⟩
    exact ⟨b, own, rfl⟩

theorem names_of_mapFields (h : mapFields f fields = .ok values) :
    values.map (·.1) = fields.map (·.1) := by
  induction fields generalizing values with
  | nil =>
      cases h
      rfl
  | cons field rest ih =>
      obtain ⟨value, others, own, behind, rfl⟩ := mapM_cons_eq_ok_iff.mp h
      simp [ih behind, (field_eq_ok_iff.mp own).1]

theorem sorted_mapFields_iff (h : mapFields f fields = .ok values) :
    Assoc.Sorted values ↔ Assoc.Sorted fields := by
  rw [Assoc.Sorted, Assoc.Sorted, names_of_mapFields h]

theorem exists_of_mem_mapFields (h : mapFields f fields = .ok values) {name : String} {value : β}
    (member : (name, value) ∈ values) : ∃ a, (name, a) ∈ fields ∧ f a = .ok value := by
  obtain ⟨⟨_, a⟩, present, own⟩ := exists_of_mem_mapM h member
  obtain ⟨rfl, own⟩ := field_eq_ok_iff.mp own
  exact ⟨a, present, own⟩

theorem exists_value_of_mapFields (h : mapFields f fields = .ok values) {name : String} {a : α}
    (member : (name, a) ∈ fields) : ∃ value, f a = .ok value ∧ (name, value) ∈ values := by
  obtain ⟨⟨_, value⟩, present, own⟩ := exists_value_of_mapM h member
  obtain ⟨rfl, own⟩ := field_eq_ok_iff.mp own
  exact ⟨value, own, present⟩

theorem field_eq_error_iff {field : String × α} {e : Error} :
    (do return (field.1, ← f field.2) : Result (String × β)) = .error e ↔ f field.2 = .error e := by
  cases f field.2 <;> simp [bind, Except.bind, pure, Except.pure]

theorem exists_field_iff {field : String × α} :
    (∃ value, (do return (field.1, ← f field.2) : Result (String × β)) = .ok value) ↔
      ∃ value, f field.2 = .ok value := by
  cases f field.2 <;> simp [bind, Except.bind, pure, Except.pure]

theorem exists_mapFields_iff : (∃ values, mapFields f fields = .ok values) ↔
    ∀ field ∈ fields, ∃ value, f field.2 = .ok value := by
  rw [mapFields, exists_mapM_iff]
  simp only [exists_field_iff]

/-- Fields in order of name fail at the least name that fails. -/
theorem mapFields_eq_error_iff (sorted : Assoc.Sorted fields) {e : Error} :
    mapFields f fields = .error e ↔ ∃ name a, Assoc.find? name fields = some a ∧ f a = .error e ∧
      ∀ other, other < name → ∀ b, Assoc.find? other fields = some b → ∃ value, f b = .ok value := by
  rw [mapFields, mapM_eq_error_iff]
  simp only [field_eq_error_iff, exists_field_iff]
  constructor
  · rintro ⟨front, ⟨name, a⟩, rest, rfl, passed, fails⟩
    refine ⟨name, a, Assoc.find?_of_mem sorted.nodup (by simp), fails, fun other less b found => ?_⟩
    obtain ⟨-, behind⟩ := sorted.around
    rcases List.mem_append.mp (Assoc.mem_of_find? found) with early | late
    · exact passed _ early
    · rcases List.mem_cons.mp late with own | later
      · cases own
        exact absurd less (String.lt_irrefl _)
      · exact absurd (String.lt_trans less (behind _ later)) (String.lt_irrefl _)
  · rintro ⟨name, a, found, fails, passed⟩
    obtain ⟨front, rest, rfl⟩ := List.append_of_mem (Assoc.mem_of_find? found)
    refine ⟨front, (name, a), rest, rfl, fun other member => ?_, fails⟩
    have less := sorted.around.1 other member
    exact passed other.1 less other.2 (Assoc.find?_of_mem sorted.nodup (by simp [member]))

theorem find?_of_mapFields (h : mapFields f fields = .ok values) (name : String) :
    Option.Rel (fun a b => f a = .ok b) (Assoc.find? name fields) (Assoc.find? name values) := by
  induction fields generalizing values with
  | nil =>
      cases h
      exact .none
  | cons field rest ih =>
      obtain ⟨⟨key, value⟩, others, own, behind, rfl⟩ := mapM_cons_eq_ok_iff.mp h
      obtain ⟨same, own⟩ := field_eq_ok_iff.mp own
      rw [Assoc.find?, Assoc.find?, same]
      split
      · exact .some own
      · exact ih behind

/-- The results under the names of a dictionary are a dictionary of results. -/
theorem mapFields_entries_iff {dict : Dict α} {results : Dict β} :
    (∃ values, mapFields f dict.entries = .ok values ∧ Dict.ofList values = results) ↔
      ∀ name, Option.Rel (fun a b => f a = .ok b) (dict.get? name) (results.get? name) := by
  have related {values : List (String × β)} (each : mapFields f dict.entries = .ok values)
      (name : String) : Option.Rel (fun a b => f a = .ok b) (dict.get? name)
        ((Dict.ofList values).get? name) := by
    rw [Dict.ofList_of_sorted ((sorted_mapFields_iff each).mpr dict.sorted)]
    exact find?_of_mapFields each name
  constructor
  · rintro ⟨values, each, rfl⟩
    exact related each
  · intro same
    have passes : ∀ field ∈ dict.entries, ∃ value, f field.2 = .ok value := by
      intro field member
      have found : dict.get? field.1 = some field.2 := Assoc.find?_of_mem dict.sorted.nodup member
      have own := same field.1
      rw [found] at own
      generalize results.get? field.1 = result? at own
      cases own with
      | some own => exact ⟨_, own⟩
    obtain ⟨values, each⟩ := exists_mapFields_iff.mpr passes
    refine ⟨values, each, Dict.ext_get? fun name => ?_⟩
    have own := related each name
    have own' := same name
    generalize dict.get? name = a? at own own'
    generalize (Dict.ofList values).get? name = b? at own ⊢
    generalize results.get? name = c? at own' ⊢
    cases own with
    | none =>
        cases own'
        rfl
    | some first =>
        cases own' with
        | some second => exact congrArg some (Except.ok.inj (first.symm.trans second))

end

end EndpointResolution.Result

namespace EndpointResolution.Value

theorem bind_expectString_eq_ok_iff {x : Result Value} {text : String} :
    x >>= expectString = .ok text ↔ x = .ok (.string text) := by
  cases x with
  | error e => simp [bind, Except.bind]
  | ok value => cases value <;> simp [bind, Except.bind, expectString, expect, string?]

theorem bind_expectString_eq_error_iff {x : Result Value} {e : Error} :
    x >>= expectString = .error e ↔ x = .error e ∨
      ∃ value, x = .ok value ∧ value.kind ≠ .string ∧ e = .typeMismatch [.string] value.kind := by
  cases x with
  | error cause => simp [bind, Except.bind]
  | ok value =>
      cases value <;> simp [bind, Except.bind, expectString, expect, string?, kind, eq_comm]

end EndpointResolution.Value
