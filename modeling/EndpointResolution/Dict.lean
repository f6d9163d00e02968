/-!
Finite maps from names to data, kept as entries in strictly increasing order of name. The order
is the order of code points, which is also the order of the encoded bytes. A dictionary has one
representation only, so two dictionaries that answer every look-up alike are equal.
-/

namespace EndpointResolution

namespace Assoc

variable {α β : Type}

def Sorted (entries : List (String × α)) : Prop :=
  (entries.map (·.1)).Pairwise (· < ·)

instance (entries : List (String × α)) : Decidable (Sorted entries) :=
  inferInstanceAs (Decidable ((entries.map (·.1)).Pairwise (· < ·)))

def find? (name : String) : List (String × α) → Option α
  | [] => none
  | (key, value) :: rest => if key = name then some value else find? name rest

/-- Ordered insertion; an entry of the same name is replaced. -/
def insert (name : String) (value : α) : List (String × α) → List (String × α)
  | [] => [(name, value)]
  | (key, old) :: rest =>
      if name < key then (name, value) :: (key, old) :: rest
      else if name = key then (name, value) :: rest
      else (key, old) :: insert name value rest

/-- Entries in increasing order of name; of several with one name the last counts. -/
def ofList (items : List (String × α)) : List (String × α) :=
  items.foldl (fun entries item => insert item.1 item.2 entries) []

theorem find?_append (name : String) (entries others : List (String × α)) :
    find? name (entries ++ others) = (find? name entries).or (find? name others) := by
  induction entries with
  | nil => rfl
  | cons entry rest ih =>
      simp only [List.cons_append, find?, ih]
      split <;> rfl

theorem find?_insert (name key : String) (value : α) (entries : List (String × α)) :
    find? key (insert name value entries) =
      if name = key then some value else find? key entries := by
  induction entries with
  | nil => rfl
  | cons entry rest ih =>
      obtain ⟨other, old⟩ := entry
      simp only [insert]
      split
      · rfl
      · split
        · next eq =>
            subst eq
            simp only [find?]
            split <;> rfl
        · next ne =>
            simp only [find?, ih]
            split
            · next eq => rw [if_neg (eq ▸ ne)]
            · rfl

theorem mem_of_mem_insert {name : String} {value : α} {entries : List (String × α)}
    {entry : String × α} (h : entry ∈ insert name value entries) :
    entry = (name, value) ∨ entry ∈ entries := by
  induction entries with
  | nil => exact .inl (List.mem_singleton.mp h)
  | cons first rest ih =>
      obtain ⟨other, old⟩ := first
      simp only [insert] at h
      split at h
      · exact List.mem_cons.mp h
      · split at h
        · exact (List.mem_cons.mp h).imp_right (List.mem_cons_of_mem _)
        · rcases List.mem_cons.mp h with rfl | behind
          · exact .inr List.mem_cons_self
          · exact (ih behind).imp_right (List.mem_cons_of_mem _)

theorem mem_keys_insert {name key : String} {value : α} {entries : List (String × α)}
    (h : key ∈ (insert name value entries).map (·.1)) : key = name ∨ key ∈ entries.map (·.1) := by
  obtain ⟨entry, member, rfl⟩ := List.mem_map.mp h
  rcases mem_of_mem_insert member with rfl | old
  · exact .inl rfl
  · exact .inr (List.mem_map.mpr ⟨entry, old, rfl⟩)

theorem sorted_insert {name : String} {value : α} {entries : List (String × α)}
    (h : Sorted entries) : Sorted (insert name value entries) := by
  induction entries with
  | nil => simp [insert, Sorted]
  | cons entry rest ih =>
      obtain ⟨other, old⟩ := entry
      simp only [Sorted, List.map_cons, List.pairwise_cons] at h ih
      simp only [insert]
      split
      · next lt =>
          simp only [Sorted, List.map_cons, List.pairwise_cons, List.mem_cons, h.2, and_true]
          refine ⟨?_, h.1⟩
          rintro key (rfl | mem)
          · exact lt
          · exact String.lt_trans lt (h.1 key mem)
      · next notLt =>
          split
          · next eq =>
              subst eq
              simpa only [Sorted, List.map_cons, List.pairwise_cons] using h
          · next ne =>
              simp only [Sorted, List.map_cons, List.pairwise_cons]
              refine ⟨fun key mem => ?_, ih h.2⟩
              rcases mem_keys_insert mem with rfl | mem
              · rcases Std.lt_trichotomy key other with lt | eq | gt
                · exact absurd lt notLt
                · exact absurd eq ne
                · exact gt
              · exact h.1 key mem

theorem sorted_foldl_insert (items : List (String × α)) :
    ∀ {entries : List (String × α)}, Sorted entries →
      Sorted (items.foldl (fun entries item => insert item.1 item.2 entries) entries) := by
  induction items with
  | nil => exact fun h => h
  | cons item rest ih => exact fun h => ih (sorted_insert h)

theorem mem_of_mem_foldl_insert (items : List (String × α)) :
    ∀ {entries : List (String × α)} {entry : String × α},
      entry ∈ items.foldl (fun entries item => insert item.1 item.2 entries) entries →
        entry ∈ entries ∨ entry ∈ items := by
  induction items with
  | nil => exact .inl
  | cons item rest ih =>
      intro entries entry h
      rcases ih h with early | late
      · rcases mem_of_mem_insert early with rfl | old
        · exact .inr List.mem_cons_self
        · exact .inl old
      · exact .inr (List.mem_cons_of_mem _ late)

theorem mem_of_mem_ofList {items : List (String × α)} {entry : String × α}
    (h : entry ∈ ofList items) : entry ∈ items := by
  simpa using mem_of_mem_foldl_insert items h

theorem find?_foldl_insert (name : String) (items entries : List (String × α)) :
    find? name (items.foldl (fun entries item => insert item.1 item.2 entries) entries) =
      (find? name items.reverse).or (find? name entries) := by
  induction items generalizing entries with
  | nil => rfl
  | cons item rest ih =>
      obtain ⟨key, value⟩ := item
      rw [List.foldl_cons, ih, find?_insert, List.reverse_cons, find?_append, Option.or_assoc]
      simp only [find?]
      split <;> rfl

/-- Of several items with one name the last is found. -/
theorem find?_ofList (name : String) (items : List (String × α)) :
    find? name (ofList items) = find? name items.reverse := by
  rw [ofList, find?_foldl_insert, find?, Option.or_none]

theorem sorted_ofList (items : List (String × α)) : Sorted (ofList items) :=
  sorted_foldl_insert items (by simp [Sorted])

theorem sorted_map (f : String × α → β) {entries : List (String × α)} (h : Sorted entries) :
    Sorted (entries.map fun entry => (entry.1, f entry)) := by
  simpa [Sorted, Function.comp_def] using h

theorem find?_eq_none_iff {name : String} {entries : List (String × α)} :
    find? name entries = none ↔ name ∉ entries.map (·.1) := by
  induction entries with
  | nil => simp [find?]
  | cons entry rest ih =>
      simp only [find?, List.map_cons, List.mem_cons, not_or]
      split
      · next eq => simp [eq]
      · next ne => simp [ih, Ne.symm ne]

theorem Sorted.nodup {entries : List (String × α)} (h : Sorted entries) :
    (entries.map (·.1)).Nodup := by
  refine List.Pairwise.imp (fun {first second} lt => ?_) h
  rintro rfl
  exact String.lt_irrefl first lt

/-- Entries in front of another have lesser names, and those behind it have greater ones. -/
theorem Sorted.around {front rest : List (String × α)} {entry : String × α}
    (h : Sorted (front ++ entry :: rest)) :
    (∀ other ∈ front, other.1 < entry.1) ∧ ∀ other ∈ rest, entry.1 < other.1 := by
  simp only [Sorted, List.map_append, List.map_cons, List.pairwise_append, List.pairwise_cons,
    List.mem_cons, List.forall_mem_map] at h
  exact ⟨fun other member => h.2.2 other member entry.1 (.inl rfl), h.2.1.1⟩

theorem find?_of_mem {name : String} {value : α} {entries : List (String × α)}
    (h : (entries.map (·.1)).Nodup) (member : (name, value) ∈ entries) :
    find? name entries = some value := by
  induction entries with
  | nil => cases member
  | cons entry rest ih =>
      obtain ⟨key, own⟩ := entry
      rw [List.map_cons, List.nodup_cons] at h
      rcases List.mem_cons.mp member with eq | later
      · cases eq
        simp [find?]
      · have ne : key ≠ name := fun eq => h.1 (List.mem_map.mpr ⟨_, later, eq.symm⟩)
        rw [find?, if_neg ne, ih h.2 later]

theorem mem_of_find? {name : String} {value : α} {entries : List (String × α)}
    (h : find? name entries = some value) : (name, value) ∈ entries := by
  induction entries with
  | nil => cases h
  | cons entry rest ih =>
      rw [find?] at h
      split at h
      · next own =>
          cases h
          exact own ▸ List.mem_cons_self
      · exact List.mem_cons_of_mem _ (ih h)

theorem find?_eq_some_iff {name : String} {value : α} {entries : List (String × α)}
    (h : (entries.map (·.1)).Nodup) :
    find? name entries = some value ↔ (name, value) ∈ entries :=
  ⟨mem_of_find?, find?_of_mem h⟩

/-- The first entry of a name is the one found. -/
theorem find?_eq_some_iff_append {name : String} {value : α} {entries : List (String × α)} :
    find? name entries = some value ↔
      ∃ front back, entries = front ++ (name, value) :: back ∧ name ∉ front.map (·.1) := by
  constructor
  · intro found
    induction entries with
    | nil => cases found
    | cons entry rest ih =>
        obtain ⟨key, own⟩ := entry
        rw [find?] at found
        split at found
        · next here =>
            cases found
            exact ⟨[], rest, by rw [here]; rfl, List.not_mem_nil⟩
        · next other =>
            obtain ⟨front, back, rfl, absent⟩ := ih found
            have absent' : name ∉ key :: front.map (·.1) :=
              List.not_mem_cons_of_ne_of_not_mem (Ne.symm other) absent
            exact ⟨(key, own) :: front, back, rfl, absent'⟩
  · rintro ⟨front, back, rfl, absent⟩
    rw [find?_append, find?_eq_none_iff.mpr absent, Option.none_or, find?, if_pos rfl]

/-- Where no name comes twice, the order of the entries does not matter. -/
theorem find?_perm (name : String) {entries others : List (String × α)}
    (h : (entries.map (·.1)).Nodup) (same : entries.Perm others) :
    find? name entries = find? name others := by
  have h' : (others.map (·.1)).Nodup := (same.map (·.1)).nodup h
  ext value
  rw [find?_eq_some_iff h, find?_eq_some_iff h', same.mem_iff]

theorem find?_reverse (name : String) {entries : List (String × α)}
    (h : (entries.map (·.1)).Nodup) : find? name entries.reverse = find? name entries :=
  (find?_perm name h (List.reverse_perm entries).symm).symm

theorem mem_ofList_iff {items : List (String × α)} (h : (items.map (·.1)).Nodup)
    {entry : String × α} : entry ∈ ofList items ↔ entry ∈ items := by
  rw [← find?_eq_some_iff (sorted_ofList items).nodup, find?_ofList, find?_reverse _ h,
    find?_eq_some_iff h]

theorem find?_map (f : String → α → β) (name : String) (entries : List (String × α)) :
    find? name (entries.map fun entry => (entry.1, f entry.1 entry.2)) =
      (find? name entries).map (f name) := by
  induction entries with
  | nil => rfl
  | cons entry rest ih =>
      simp only [List.map_cons, find?, ih]
      split
      · next eq => rw [eq, Option.map_some]
      · rfl

theorem find?_filter (p : String × α → Bool) (name : String)
    {entries : List (String × α)} (h : (entries.map (·.1)).Nodup) :
    find? name (entries.filter p) =
      (find? name entries).filter fun value => p (name, value) := by
  have kept : ((entries.filter p).map (·.1)).Nodup :=
    h.sublist (List.Sublist.map _ List.filter_sublist)
  ext value
  rw [Option.filter_eq_some_iff]
  constructor
  · intro found
    obtain ⟨member, holds⟩ := List.mem_filter.mp (mem_of_find? found)
    exact ⟨find?_of_mem h member, holds⟩
  · rintro ⟨found, holds⟩
    exact find?_of_mem kept (List.mem_filter.mpr ⟨mem_of_find? found, holds⟩)

/-- An entry whose name is behind all others goes to the end. -/
theorem insert_of_forall_lt {name : String} {value : α} {entries : List (String × α)}
    (behind : ∀ key ∈ entries.map (·.1), key < name) :
    insert name value entries = entries ++ [(name, value)] := by
  induction entries with
  | nil => rfl
  | cons entry rest ih =>
      obtain ⟨key, old⟩ := entry
      have lt : key < name := behind key (by simp)
      have notLt : ¬ name < key := fun gt => String.lt_irrefl _ (String.lt_trans lt gt)
      have ne : name ≠ key := fun eq => String.lt_irrefl _ (eq ▸ lt)
      rw [insert, if_neg notLt, if_neg ne, ih fun other member => behind other (by simp_all)]
      rfl

theorem foldl_insert_of_sorted (items : List (String × α)) :
    ∀ entries : List (String × α), Sorted (entries ++ items) →
      items.foldl (fun entries item => insert item.1 item.2 entries) entries =
        entries ++ items := by
  induction items with
  | nil => simp
  | cons item rest ih =>
      intro entries h
      have behind : ∀ key ∈ entries.map (·.1), key < item.1 := by
        intro key member
        simp only [Sorted, List.map_append, List.pairwise_append] at h
        exact h.2.2 key member item.1 (by simp)
      rw [List.foldl_cons, insert_of_forall_lt behind]
      simpa using ih (entries ++ [item]) (by simpa using h)

/-- Entries that are in order stay as they are. -/
theorem ofList_of_sorted {entries : List (String × α)} (h : Sorted entries) :
    ofList entries = entries := by
  rw [ofList, foldl_insert_of_sorted entries [] (by simpa using h), List.nil_append]

/-- Entries in order are known from what is found in them. -/
theorem Sorted.eq_of_find? {entries others : List (String × α)} (h : Sorted entries)
    (h' : Sorted others) (same : ∀ name, find? name entries = find? name others) :
    entries = others := by
  induction entries generalizing others with
  | nil =>
      cases others with
      | nil => rfl
      | cons other rest => simpa [find?] using same other.1
  | cons entry rest ih =>
      obtain ⟨key, value⟩ := entry
      cases others with
      | nil => simpa [find?] using same key
      | cons other more =>
          obtain ⟨otherKey, otherValue⟩ := other
          have behind := (show Sorted ([] ++ (key, value) :: rest) from h).around.2
          have behind' := (show Sorted ([] ++ (otherKey, otherValue) :: more) from h').around.2
          have here : (key, value) ∈ (otherKey, otherValue) :: more :=
            mem_of_find? ((same key).symm.trans (if_pos rfl))
          have here' : (otherKey, otherValue) ∈ (key, value) :: rest :=
            mem_of_find? ((same otherKey).trans (if_pos rfl))
          -- Of two first entries with different names each would be behind the other.
          have eq : (otherKey, otherValue) = (key, value) := by
            rcases List.mem_cons.mp here with eq | later
            · exact eq.symm
            · rcases List.mem_cons.mp here' with eq | later'
              · exact eq
              · exact absurd (String.lt_trans (behind' _ later) (behind _ later'))
                  (String.lt_irrefl _)
          cases eq
          have others : ∀ name, find? name rest = find? name more := by
            intro name
            have front := same name
            simp only [find?] at front
            split at front
            · next own =>
                have absent := (List.nodup_cons.mp h.nodup).1
                have absent' := (List.nodup_cons.mp h'.nodup).1
                rw [← own, find?_eq_none_iff.mpr absent, find?_eq_none_iff.mpr absent']
            · exact front
          rw [ih (List.pairwise_cons.mp h).2 (List.pairwise_cons.mp h').2 others]

theorem Sorted.eq_of_mem_iff {entries others : List (String × α)} (h : Sorted entries)
    (h' : Sorted others) (same : ∀ entry, entry ∈ entries ↔ entry ∈ others) : entries = others := by
  refine h.eq_of_find? h' fun name => ?_
  ext value
  rw [find?_eq_some_iff h.nodup, find?_eq_some_iff h'.nodup, same]

end Assoc

structure Dict (α : Type) where
  entries : List (String × α)
  sorted : Assoc.Sorted entries
deriving DecidableEq

namespace Dict

variable {α β : Type}

def empty : Dict α := ⟨[], by simp [Assoc.Sorted]⟩

instance : EmptyCollection (Dict α) := ⟨empty⟩

instance : Inhabited (Dict α) := ⟨empty⟩

def get? (dict : Dict α) (name : String) : Option α := Assoc.find? name dict.entries

def contains (dict : Dict α) (name : String) : Bool := (dict.get? name).isSome

/-- Bind a name, replacing its previous binding. -/
def insert (dict : Dict α) (name : String) (value : α) : Dict α :=
  ⟨Assoc.insert name value dict.entries, Assoc.sorted_insert dict.sorted⟩

@[simp] theorem get?_insert (dict : Dict α) (name key : String) (value : α) :
    (dict.insert name value).get? key = if name = key then some value else dict.get? key :=
  Assoc.find?_insert name key value dict.entries

/-- Dictionaries that answer every look-up alike are the same. -/
theorem ext_get? {dict other : Dict α} (same : ∀ name, dict.get? name = other.get? name) :
    dict = other := by
  obtain ⟨entries, sorted⟩ := dict
  obtain ⟨others, sorted'⟩ := other
  cases sorted.eq_of_find? sorted' same
  rfl

/-- The last of several items with one name counts. -/
def ofList (items : List (String × α)) : Dict α := ⟨Assoc.ofList items, Assoc.sorted_ofList items⟩

theorem get?_ofList (items : List (String × α)) (name : String) :
    (ofList items).get? name = Assoc.find? name items.reverse :=
  Assoc.find?_ofList name items

theorem ofList_of_sorted {entries : List (String × α)} (h : Assoc.Sorted entries) :
    ofList entries = ⟨entries, h⟩ := by
  simp only [ofList, Assoc.ofList_of_sorted h]

@[simp] theorem ofList_entries (dict : Dict α) : ofList dict.entries = dict :=
  ofList_of_sorted dict.sorted

def size (dict : Dict α) : Nat := dict.entries.length

def isEmpty (dict : Dict α) : Bool := dict.entries.isEmpty

def names (dict : Dict α) : List String := dict.entries.map (·.1)

theorem contains_iff {dict : Dict α} {name : String} :
    dict.contains name = true ↔ ∃ value, dict.get? name = some value :=
  Option.isSome_iff_exists

theorem get?_eq_none_iff {dict : Dict α} {name : String} :
    dict.get? name = none ↔ name ∉ dict.names :=
  Assoc.find?_eq_none_iff

theorem isEmpty_iff {dict : Dict α} : dict.isEmpty = true ↔ dict.size = 0 := by
  rw [isEmpty, size, List.isEmpty_iff, List.length_eq_zero_iff]

theorem nodup_names (dict : Dict α) : dict.names.Nodup := dict.sorted.nodup

theorem length_names (dict : Dict α) : dict.names.length = dict.size := List.length_map _

def map (f : α → β) (dict : Dict α) : Dict β :=
  ⟨dict.entries.map fun entry => (entry.1, f entry.2),
    Assoc.sorted_map (fun entry => f entry.2) dict.sorted⟩

end Dict

end EndpointResolution
