import EndpointResolution.Proofs.FunctionResults

/-!
Paths joined by a dot. A lookup along both goes on where the first one leads. It ends with the first
one if that fails, and also if that runs past the end of a list, which is not to be taken for an
absent item. A position behind a dot means the same as one directly behind the name.
-/

namespace EndpointResolution.AttributePath

section Single

variable {name : String} {n : Nat} {rest : List Step}

theorem follow_key {fields : List (String × Value)} {field : Value}
    (found : Assoc.find? name fields = some field) :
    follow (.key name :: rest) (.record fields) = follow rest field := by
  simp only [follow, found]

theorem follow_index {items : List Value} {item : Value} (found : items[n]? = some item) :
    follow (.index n :: rest) (.array items) = follow rest item := by
  simp only [follow, found]

/-- A name is looked up in records only. -/
theorem follow_key_of_kind_ne {value : Value} (other : value.kind ≠ .record) :
    follow (.key name :: rest) value = .error (.typeMismatch [.record] value.kind) := by
  cases value with
  | record fields => exact absurd rfl other
  | none | boolean _ | integer _ | string _ | array _ | endpoint _ _ _ => rfl

end Single

/-- Each step finds something, and the last one finds the target. -/
inductive Leads : List Step → Value → Value → Prop
  | here (value : Value) : Leads [] value value
  | key {name : String} {rest : List Step} {fields : List (String × Value)} {field target : Value}
      (found : Assoc.find? name fields = some field) (onward : Leads rest field target) :
      Leads (.key name :: rest) (.record fields) target
  | index {n : Nat} {rest : List Step} {items : List Value} {item target : Value}
      (found : items[n]? = some item) (onward : Leads rest item target) :
      Leads (.index n :: rest) (.array items) target

/-- The steps in front of a position lead to a list that has no item there. -/
def RunsPast (steps : List Step) (value : Value) : Prop :=
  ∃ front n back items, steps = front ++ .index n :: back ∧ Leads front value (.array items) ∧
    items.length ≤ n

section Following

variable {steps : List Step} {value target : Value}

theorem Leads.follow_append (h : Leads steps value target) (more : List Step) :
    follow (steps ++ more) value = follow more target := by
  induction h with
  | here value => rfl
  | key found onward ih => rw [List.cons_append, follow_key found, ih]
  | index found onward ih => rw [List.cons_append, follow_index found, ih]

theorem Leads.follow_eq (h : Leads steps value target) : follow steps value = .ok target := by
  simpa only [List.append_nil, follow] using h.follow_append []

/-- There is absence, whatever follows. -/
theorem RunsPast.follow_append (h : RunsPast steps value) (more : List Step) :
    follow (steps ++ more) value = .ok .none := by
  obtain ⟨front, n, back, items, rfl, leads, past⟩ := h
  rw [List.append_assoc, leads.follow_append, List.cons_append, follow,
    List.getElem?_eq_none past]

theorem RunsPast.follow_eq (h : RunsPast steps value) : follow steps value = .ok .none := by
  simpa only [List.append_nil] using h.follow_append []

theorem Leads.not_runsPast (h : Leads steps value target) : ¬ RunsPast steps value := by
  intro past
  have absent (more : List Step) : follow more target = .ok .none :=
    (h.follow_append more).symm.trans (past.follow_append more)
  -- No target has both names and positions in it.
  cases target with
  | record fields => cases absent [.index 0]
  | none | boolean _ | integer _ | string _ | array _ | endpoint _ _ _ => cases absent [.key ""]

theorem RunsPast.key {name : String} {fields : List (String × Value)} {field : Value}
    (found : Assoc.find? name fields = some field) (h : RunsPast steps field) :
    RunsPast (.key name :: steps) (.record fields) := by
  obtain ⟨front, n, back, items, rfl, leads, past⟩ := h
  exact ⟨.key name :: front, n, back, items, rfl, .key found leads, past⟩

theorem RunsPast.index {n : Nat} {items : List Value} {item : Value} (found : items[n]? = some item)
    (h : RunsPast steps item) : RunsPast (.index n :: steps) (.array items) := by
  obtain ⟨front, m, back, others, rfl, leads, past⟩ := h
  exact ⟨.index n :: front, m, back, others, rfl, .index found leads, past⟩

end Following

/-- Following steps fails, and goes no further with more of them, or it runs past the end of a
list, or it comes to what they lead to. -/
theorem follow_cases (steps : List Step) (value : Value) :
    (∃ e, ∀ more, follow (steps ++ more) value = .error e) ∨ RunsPast steps value ∨
      ∃ target, Leads steps value target := by
  induction steps generalizing value with
  | nil => exact .inr (.inr ⟨value, .here value⟩)
  | cons step rest ih =>
      cases step with
      | key name =>
          cases value with
          | record fields =>
              cases found : Assoc.find? name fields with
              | none => exact .inl ⟨_, fun more => by rw [List.cons_append, follow, found]⟩
              | some field =>
                  obtain ⟨e, fails⟩ | past | ⟨target, leads⟩ := ih field
                  · exact .inl ⟨e, fun more => (follow_key found).trans (fails more)⟩
                  · exact .inr (.inl (past.key found))
                  · exact .inr (.inr ⟨target, .key found leads⟩)
          | none | boolean _ | integer _ | string _ | array _ | endpoint _ _ _ =>
              exact .inl ⟨_, fun _ => rfl⟩
      | index n =>
          cases value with
          | array items =>
              cases found : items[n]? with
              | none =>
                  have past := List.getElem?_eq_none_iff.mp found
                  exact .inr (.inl ⟨[], n, rest, items, rfl, .here _, past⟩)
              | some item =>
                  obtain ⟨e, fails⟩ | past | ⟨target, leads⟩ := ih item
                  · exact .inl ⟨e, fun more => (follow_index found).trans (fails more)⟩
                  · exact .inr (.inl (past.index found))
                  · exact .inr (.inr ⟨target, .index found leads⟩)
          | none | boolean _ | integer _ | string _ | record _ | endpoint _ _ _ =>
              exact .inl ⟨_, fun _ => rfl⟩

theorem follow_append_of_error {steps : List Step} {value : Value} {e : Error}
    (fails : follow steps value = .error e) (more : List Step) :
    follow (steps ++ more) value = .error e := by
  obtain ⟨cause, all⟩ | past | ⟨target, leads⟩ := follow_cases steps value
  · have own : follow steps value = .error cause := by simpa using all []
    cases fails.symm.trans own
    exact all more
  · cases fails.symm.trans past.follow_eq
  · cases fails.symm.trans leads.follow_eq

theorem exists_leads {steps : List Step} {value : Value}
    (succeeds : ∀ e, follow steps value ≠ .error e) (within : ¬ RunsPast steps value) :
    ∃ target, Leads steps value target := by
  obtain ⟨cause, all⟩ | past | leads := follow_cases steps value
  · exact absurd (by simpa using all []) (succeeds cause)
  · exact absurd past within
  · exact leads

theorem components?_attached (first : Bool) {key : List Char} (named : IsKey key)
    (rest : List Char) (parts : List (List Char)) :
    components? first ((key ++ '[' :: rest) :: parts) =
      components? first (key :: ('[' :: rest) :: parts) := by
  have alone : component? false ('[' :: rest) = (bracketed? rest).bind fun n => some [.index n] :=
    component?_bracket false List.not_mem_nil rest
  simp only [components?, component?_bracket first named.2.2, component?_of_not_mem first named.2.2,
    alone, if_neg named.1]
  cases bracketed? rest with
  | none => rfl
  | some n => cases components? false parts <;> rfl

theorem components?_append_congr {parts others : List (List Char)}
    (same : ∀ first, components? first parts = components? first others)
    (front : List (List Char)) (first : Bool) :
    components? first (front ++ parts) = components? first (front ++ others) := by
  induction front generalizing first with
  | nil => exact same first
  | cons part rest ih => simp only [List.cons_append, components?, ih]

theorem components?_splitOn_attached (first : Bool) {key : List Char} (named : IsKey key)
    (rest : List Char) : components? first ((key ++ '[' :: rest).splitOn '.') =
      components? first ((key ++ '.' :: '[' :: rest).splitOn '.') := by
  obtain ⟨part, parts, split⟩ := List.exists_cons_of_ne_nil (List.splitOn_ne_nil '.' rest)
  have bracket : ('[' :: rest).splitOn '.' = ('[' :: part) :: parts :=
    @Text.splitOn_append_of_not_mem '.' ['['] rest part parts (by decide) split
  rw [Text.splitOn_append_of_not_mem named.2.1 bracket, List.splitOn_append_cons_self,
    List.splitOn_eq_singleton named.2.1, bracket]
  exact components?_attached first named part parts

theorem parse?_attached {front name : String}
    (starts : front = "" ∨ ∃ before, front = before ++ ".") (named : IsKey name.toList)
    (back : String) :
    parse? (front ++ name ++ "[" ++ back) = parse? (front ++ name ++ ".[" ++ back) := by
  have same := fun first => components?_splitOn_attached first named back.toList
  obtain rfl | ⟨before, rfl⟩ := starts
  · simpa [parse?] using congrArg (Option.map AttributePath.mk) (same true)
  · have behind := components?_append_congr same (before.toList.splitOn '.') true
    rw [← List.splitOn_append_cons_self, ← List.splitOn_append_cons_self] at behind
    simpa [parse?] using congrArg (Option.map AttributePath.mk) behind

theorem spells_attached_iff {front name : String}
    (starts : front = "" ∨ ∃ before, front = before ++ ".") (named : IsKey name.toList)
    (back : String) {path : AttributePath} : Spells (front ++ name ++ "[" ++ back).toList path ↔
      Spells (front ++ name ++ ".[" ++ back).toList path := by
  rw [← parse?_eq_some_iff, ← parse?_eq_some_iff, parse?_attached starts named]

/-- Another path behind a dot. -/
def joined (p q : String) : String := p ++ "." ++ q

theorem spells_joined {p q : String} {first second : AttributePath} (h : Spells p.toList first)
    (h' : Spells q.toList second) :
    Spells (joined p q).toList ⟨first.steps ++ second.steps⟩ := by
  simpa [joined] using h.append h'

section Lookups

variable {p q : String} {first second : AttributePath} (h : Spells p.toList first)
  (h' : Spells q.toList second) {value : Value} (taken : value.kind ∈ Function.indexable)

include h taken

theorem apply_getAttr_of_spells :
    Function.apply .getAttr [value, .string p] = follow first.steps value :=
  Function.apply_getAttr taken (parse_eq_ok_iff.mpr h)

include h'

theorem apply_getAttr_joined : Function.apply .getAttr [value, .string (joined p q)] =
    follow (first.steps ++ second.steps) value :=
  apply_getAttr_of_spells (spells_joined h h') taken

end Lookups

/-- A path behind another one makes up a path with it. A lookup along both fails as the one along
the first path does. It finds absence where the first path runs past the end of a list, whatever
follows. Otherwise it is the lookup along the second path from where the first one leads, which must
be a record. A position may stand behind a dot or right behind its name. -/
theorem getAttr_goes_on_from_target :
    (∀ p q first second, Spells p.toList first → Spells q.toList second →
      Spells (joined p q).toList ⟨first.steps ++ second.steps⟩ ∧
      ∀ value, value.kind = .record ∨ value.kind = .array →
        let found path := Function.apply .getAttr [value, .string path]
        (∀ e, found p = .error e → found (joined p q) = .error e) ∧
        (RunsPast first.steps value → found p = .ok .none ∧ found (joined p q) = .ok .none) ∧
        ((∀ e, found p ≠ .error e) → ¬ RunsPast first.steps value →
          ∃ target, Leads first.steps value target ∧ found p = .ok target ∧
            found (joined p q) = second.get target ∧
            (target.kind ≠ .record →
              second.get target = .error (.typeMismatch [.record] target.kind)) ∧
            (target.kind = .record →
              second.get target = Function.apply .getAttr [target, .string q])) ∧
        ∀ target, Leads first.steps value target → ¬ RunsPast first.steps value) ∧
    ∀ front name back, IsKey name.toList → (front = "" ∨ ∃ before, front = before ++ ".") →
      let attached := front ++ name ++ "[" ++ back
      let apart := front ++ name ++ ".[" ++ back
      (∀ path, Spells attached.toList path ↔ Spells apart.toList path) ∧
      ∀ value, value.kind = .record ∨ value.kind = .array → WellFormed attached.toList →
        Function.apply .getAttr [value, .string attached] =
          Function.apply .getAttr [value, .string apart] := by
  have indexable {value : Value} (kind : value.kind = .record ∨ value.kind = .array) :
      value.kind ∈ Function.indexable := by simpa [Function.indexable] using kind
  constructor
  · intro p q first second h h'
    refine ⟨spells_joined h h', fun value kind => ?_⟩
    have taken := indexable kind
    simp only [apply_getAttr_of_spells h taken, apply_getAttr_joined h h' taken]
    refine ⟨fun e fails => follow_append_of_error fails _,
      fun past => ⟨past.follow_eq, past.follow_append _⟩, fun succeeds within => ?_,
      fun target leads => leads.not_runsPast⟩
    obtain ⟨target, leads⟩ := exists_leads succeeds within
    refine ⟨target, leads, leads.follow_eq, leads.follow_append _, fun other => ?_, fun own => ?_⟩
    · obtain ⟨name, rest, steps⟩ := h'.exists_key
      rw [get, steps, follow_key_of_kind_ne other]
    · exact (apply_getAttr_of_spells h' (indexable (.inl own))).symm
  · intro front name back named starts
    refine ⟨fun path => spells_attached_iff starts named back, fun value kind wellFormed => ?_⟩
    obtain ⟨path, spelled⟩ := wellFormed
    have spelled' := (spells_attached_iff starts named back).mp spelled
    rw [apply_getAttr_of_spells spelled (indexable kind),
      apply_getAttr_of_spells spelled' (indexable kind)]

/-- An item that is absent is not a position past the end. -/
theorem getAttr_goes_on_from_target_of_items :
    let value := Value.record [("a", .array [.none])]
    let found path := Function.apply .getAttr [value, .string path]
    found (joined "a[0]" "b") = .error (.typeMismatch [.record] .none) ∧
      found (joined "a[1]" "b") = .ok .none ∧
      found (joined "b" "b") = .error (.attributeNotFound "b") ∧
      found "a[0]" = found "a.[0]" := by
  intro value found
  have record : value.kind = .record ∨ value.kind = .array := .inl rfl
  have spells {text : String} {path : AttributePath} (read : parse? text = some path) :
      Spells text.toList path := parse?_eq_some_iff.mp read
  have own : Spells "a[0]".toList ⟨[.key "a", .index 0]⟩ := spells (by decide)
  have behind : Spells "b".toList ⟨[.key "b"]⟩ := spells (by decide)
  have leads : Leads [.key "a", .index 0] value .none := .key rfl (.index rfl (.here _))
  have reached : found "a[0]" = .ok .none := by decide +kernel
  obtain ⟨joins, dots⟩ := getAttr_goes_on_from_target
  obtain ⟨-, -, onward, within⟩ := (joins "a[0]" "b" _ _ own behind).2 value record
  obtain ⟨target, -, reached', goesOn, mismatch, -⟩ :=
    onward (fun e fails => by cases reached.symm.trans fails) (within _ leads)
  cases reached.symm.trans reached'
  refine ⟨goesOn.trans (mismatch (by decide)), ?_, ?_, ?_⟩
  · have past : RunsPast [.key "a", .index 1] value :=
      ⟨[.key "a"], 1, [], [.none], rfl, .key rfl (.here _), by decide⟩
    exact (((joins "a[1]" "b" ⟨[.key "a", .index 1]⟩ _ (spells (by decide)) behind).2
      value record).2.1 past).2
  · exact ((joins "b" "b" _ _ behind behind).2 value record).1 _ (by decide +kernel)
  · exact (dots "" "a" "0]" (by decide) (.inl rfl)).2 value record ⟨_, own⟩

end EndpointResolution.AttributePath
