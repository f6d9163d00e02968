import EndpointResolution.Json.Reader

/-!
How deep JSON nests. A text is read only if its lists and objects nest no deeper than the limit.
-/

namespace EndpointResolution.Json

mutual

/-- How many arrays and objects stand inside one another. -/
def depth : Json → Nat
  | .array items => depthAll items + 1
  | .object members => depthMembers members + 1
  | .null | .boolean _ | .integer _ | .decimal _ | .string _ | .unreadable => 0

def depthAll : List Json → Nat
  | [] => 0
  | item :: rest => max item.depth (depthAll rest)

def depthMembers : List (String × Json) → Nat
  | [] => 0
  | (_, value) :: rest => max value.depth (depthMembers rest)

end

theorem depthAll_le_iff {items : List Json} {levels : Nat} :
    depthAll items ≤ levels ↔ ∀ item ∈ items, item.depth ≤ levels := by
  induction items with
  | nil => simp [depthAll]
  | cons item rest ih => rw [depthAll, Nat.max_le, ih, List.forall_mem_cons]

theorem depthMembers_le_iff {members : List (String × Json)} {levels : Nat} :
    depthMembers members ≤ levels ↔ ∀ member ∈ members, member.2.depth ≤ levels := by
  induction members with
  | nil => simp [depthMembers]
  | cons member rest ih => rw [depthMembers, Nat.max_le, ih, List.forall_mem_cons]

theorem map_snd_of_mapM {members : List (Option String × Json)} {read : List (String × Json)}
    (h : members.mapM (fun member => member.1.map fun name => (name, member.2)) = some read) :
    read.map (·.2) = members.map (·.2) := by
  induction members generalizing read with
  | nil => simp_all
  | cons member rest ih =>
      simp only [List.mapM_cons, Option.bind_eq_bind, Option.bind_eq_some_iff,
        Option.map_eq_some_iff, Option.pure_def, Option.some.injEq] at h
      obtain ⟨_, ⟨name, -, rfl⟩, others, behind, rfl⟩ := h
      simp [ih behind]

theorem depth_ofMembers_le {members : List (Option String × Json)} {levels : Nat}
    (h : ∀ member ∈ members, member.2.depth ≤ levels) :
    (ofMembers members).depth ≤ levels + 1 := by
  rw [ofMembers]
  split
  · next read named =>
      refine Nat.succ_le_succ (depthMembers_le_iff.mpr fun member present => ?_)
      have value : member.2 ∈ members.map (·.2) :=
        map_snd_of_mapM named ▸ List.mem_map.mpr ⟨member, present, rfl⟩
      obtain ⟨source, from', same⟩ := List.mem_map.mp value
      exact same ▸ h source from'
  · simp [depth]

theorem depth_nested_le {json : Json} {levels : Nat} (h : json.depth ≤ levels - 1 + 1) :
    (nested levels json).depth ≤ levels := by
  rw [nested]
  split
  · simp [depth]
  · omega

theorem depth_ofNumber (negative : Bool) (whole fraction : List Char) (exponent : Option Int)
    (written : List Char) : (ofNumber negative whole fraction exponent written).depth = 0 := by
  simp only [ofNumber]
  split
  · rfl
  · split <;> rfl

theorem depth_of_number? {text rest : List Char} {json : Json}
    (h : number? text = some (json, rest)) : json.depth = 0 := by
  simp only [number?, Option.bind_eq_bind, Option.bind_eq_some_iff, Option.pure_def] at h
  obtain ⟨_, -, _, -, _, -, whole⟩ := h
  cases whole
  exact depth_ofNumber ..

theorem depth_of_word {word text rest : List Char} {json own : Json} {levels : Nat}
    (h : (expectWord? word text).map (own, ·) = some (json, rest)) (flat : own.depth = 0) :
    json.depth ≤ levels := by
  obtain ⟨_, -, whole⟩ := Option.map_eq_some_iff.mp h
  cases whole
  exact flat ▸ Nat.zero_le _

theorem depth_of_value?_succ {fuel levels : Nat}
    (elements : ∀ levels text items rest, elements? fuel levels text = some (items, rest) →
      depthAll items ≤ levels)
    (pairs : ∀ levels text members rest, pairs? fuel levels text = some (members, rest) →
      ∀ member ∈ members, member.2.depth ≤ levels)
    {text rest : List Char} {json : Json} (h : value? (fuel + 1) levels text = some (json, rest)) :
    json.depth ≤ levels := by
  unfold value? at h
  split at h
  · obtain ⟨⟨content, _⟩, -, whole⟩ := Option.map_eq_some_iff.mp h
    cases whole
    cases content <;> exact Nat.zero_le _
  · split at h
    · cases h
      exact depth_nested_le (by simp [depth, depthAll])
    · simp only [Option.bind_eq_bind, Option.bind_eq_some_iff, Option.pure_def] at h
      obtain ⟨⟨items, _⟩, inside, whole⟩ := h
      cases whole
      exact depth_nested_le (Nat.succ_le_succ (elements _ _ _ _ inside))
  · split at h
    · cases h
      exact depth_nested_le (by simp [depth, depthMembers])
    · simp only [Option.bind_eq_bind, Option.bind_eq_some_iff, Option.pure_def] at h
      obtain ⟨⟨members, _⟩, inside, whole⟩ := h
      cases whole
      exact depth_nested_le (depth_ofMembers_le (pairs _ _ _ _ inside))
  · exact depth_of_word h rfl
  · exact depth_of_word h rfl
  · exact depth_of_word h rfl
  · rw [depth_of_number? h]
    exact Nat.zero_le _

theorem depth_of_elements?_succ {fuel levels : Nat}
    (value : ∀ levels text json rest, value? fuel levels text = some (json, rest) →
      json.depth ≤ levels)
    (elements : ∀ levels text items rest, elements? fuel levels text = some (items, rest) →
      depthAll items ≤ levels)
    {text rest : List Char} {items : List Json}
    (h : elements? (fuel + 1) levels text = some (items, rest)) : depthAll items ≤ levels := by
  simp only [elements?, Option.bind_eq_bind, Option.bind_eq_some_iff, Option.pure_def] at h
  obtain ⟨⟨item, _⟩, first, whole⟩ := h
  split at whole
  · obtain ⟨⟨others, _⟩, behind, whole⟩ := Option.bind_eq_some_iff.mp whole
    cases whole
    exact Nat.max_le.mpr ⟨value _ _ _ _ first, elements _ _ _ _ behind⟩
  · cases whole
    exact Nat.max_le.mpr ⟨value _ _ _ _ first, Nat.zero_le _⟩
  · cases whole

theorem depth_of_pairs?_succ {fuel levels : Nat}
    (value : ∀ levels text json rest, value? fuel levels text = some (json, rest) →
      json.depth ≤ levels)
    (pairs : ∀ levels text members rest, pairs? fuel levels text = some (members, rest) →
      ∀ member ∈ members, member.2.depth ≤ levels)
    {text rest : List Char} {members : List (Option String × Json)}
    (h : pairs? (fuel + 1) levels text = some (members, rest)) :
    ∀ member ∈ members, member.2.depth ≤ levels := by
  simp only [pairs?, Option.bind_eq_bind, Option.bind_eq_some_iff, Option.pure_def] at h
  obtain ⟨_, -, name, -, _, -, ⟨json, _⟩, first, whole⟩ := h
  have here := value _ _ _ _ first
  split at whole
  · obtain ⟨⟨others, _⟩, behind, whole⟩ := Option.bind_eq_some_iff.mp whole
    cases whole
    exact List.forall_mem_cons.mpr ⟨here, pairs _ _ _ _ behind⟩
  · cases whole
    exact List.forall_mem_singleton.mpr here
  · cases whole

theorem depth_of_reads (fuel : Nat) :
    (∀ levels text json rest, value? fuel levels text = some (json, rest) →
        json.depth ≤ levels) ∧
      (∀ levels text items rest, elements? fuel levels text = some (items, rest) →
        depthAll items ≤ levels) ∧
      ∀ levels text members rest, pairs? fuel levels text = some (members, rest) →
        ∀ member ∈ members, member.2.depth ≤ levels := by
  induction fuel with
  | zero => simp [value?, elements?, pairs?]
  | succ fuel ih =>
      obtain ⟨value, elements, pairs⟩ := ih
      exact ⟨fun _ _ _ _ => depth_of_value?_succ elements pairs,
        fun _ _ _ _ => depth_of_elements?_succ value elements,
        fun _ _ _ _ => depth_of_pairs?_succ value pairs⟩

/-- A text that nests too deep is not read. -/
theorem depth_of_parse? {text : String} {json : Json} (h : parse? text = some json) :
    json.depth ≤ nestingLimit := by
  simp only [parse?] at h
  split at h
  · next json' rest read =>
      split at h
      · cases h
        exact (depth_of_reads _).1 _ _ _ _ read
      · cases h
  · cases h

end EndpointResolution.Json
