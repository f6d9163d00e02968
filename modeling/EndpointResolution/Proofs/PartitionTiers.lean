import EndpointResolution.Partition.Standard

/-!
Which partition of a table a region belongs to. The first partition that lists the region decides,
with what it overrides for it; where none does, the first one whose pattern the region matches; and
where none does that either, the first default partition. So a partition at the end of a table
counts only for regions that nothing before it decides as well as it does.
-/

namespace EndpointResolution

/-- What is set replaces what is there, and nothing else does. -/
def Replaces {α : Type} (set : Option α) (own new : α) : Prop :=
  (∀ a, set = some a → new = a) ∧ (set = none → new = own)

/-- The outputs are a partition's own ones but for what the region overrides. -/
structure PartitionOutputs.OverriddenBy (outputs own : PartitionOutputs) (region : RegionOverride) :
    Prop where
  name : outputs.name = own.name
  dnsSuffix : Replaces region.dnsSuffix own.dnsSuffix outputs.dnsSuffix
  dualStackDnsSuffix :
    Replaces region.dualStackDnsSuffix own.dualStackDnsSuffix outputs.dualStackDnsSuffix
  supportsFIPS : Replaces region.supportsFIPS own.supportsFIPS outputs.supportsFIPS
  supportsDualStack :
    Replaces region.supportsDualStack own.supportsDualStack outputs.supportsDualStack
  implicitGlobalRegion : outputs.implicitGlobalRegion = own.implicitGlobalRegion

theorem replaces_iff {α : Type} {set : Option α} {own new : α} :
    Replaces set own new ↔ new = set.getD own := by
  cases set <;> simp [Replaces]

theorem PartitionOutputs.overriddenBy_iff {outputs own : PartitionOutputs}
    {region : RegionOverride} :
    outputs.OverriddenBy own region ↔ outputs = own.override region := by
  constructor
  · intro overridden
    cases outputs
    simp only [override, mk.injEq]
    exact ⟨overridden.name, replaces_iff.mp overridden.dnsSuffix,
      replaces_iff.mp overridden.dualStackDnsSuffix, replaces_iff.mp overridden.supportsFIPS,
      replaces_iff.mp overridden.supportsDualStack, overridden.implicitGlobalRegion⟩
  · rintro rfl
    exact ⟨rfl, replaces_iff.mpr rfl, replaces_iff.mpr rfl, replaces_iff.mpr rfl,
      replaces_iff.mpr rfl, rfl⟩

namespace Partition

def Lists (region : String) (partition : Partition) : Prop :=
  ∃ set, partition.regions.get? region = some set

def Matches (occursIn : Pattern → String → Bool) (region : String) (partition : Partition) : Prop :=
  occursIn partition.regionPattern region = true

def IsDefault (partition : Partition) : Prop := partition.id = "aws"

def NoneWith (holds : Partition → Prop) (table : List Partition) : Prop :=
  ∀ partition ∈ table, ¬ holds partition

/-- No partition in front of this one is of the kind. -/
def FirstWith (holds : Partition → Prop) (table : List Partition) (partition : Partition) : Prop :=
  ∃ earlier later, table = earlier ++ partition :: later ∧ holds partition ∧ NoneWith holds earlier

/-- What a table has for a region: a tier has a say where those above it have none. -/
inductive Answers (occursIn : Pattern → String → Bool) (table : List Partition) (region : String) :
    PartitionOutputs → Prop
  | listed {partition : Partition} {set : RegionOverride} {outputs : PartitionOutputs}
      (first : FirstWith (Lists region) table partition)
      (own : partition.regions.get? region = some set)
      (overridden : outputs.OverriddenBy partition.outputs set) :
      Answers occursIn table region outputs
  | matched {partition : Partition} (unlisted : NoneWith (Lists region) table)
      (first : FirstWith (Matches occursIn region) table partition) :
      Answers occursIn table region partition.outputs
  | default {partition : Partition} (unlisted : NoneWith (Lists region) table)
      (unmatched : NoneWith (Matches occursIn region) table)
      (first : FirstWith IsDefault table partition) :
      Answers occursIn table region partition.outputs

variable {occursIn : Pattern → String → Bool} {table : List Partition} {region : String}

theorem listed?_eq_none_iff {partition : Partition} :
    partition.listed? region = none ↔ ¬ partition.Lists region := by
  rw [listed?, Option.map_eq_none_iff, Lists, ← Option.isSome_iff_exists,
    Option.not_isSome_iff_eq_none]

theorem findSome?_listed?_eq_none_iff :
    table.findSome? (·.listed? region) = none ↔ NoneWith (Lists region) table := by
  simp only [List.findSome?_eq_none_iff, listed?_eq_none_iff, NoneWith]

theorem findSome?_listed?_eq_some_iff {outputs : PartitionOutputs} :
    table.findSome? (·.listed? region) = some outputs ↔ ∃ partition set,
      FirstWith (Lists region) table partition ∧ partition.regions.get? region = some set ∧
        outputs.OverriddenBy partition.outputs set := by
  simp only [List.findSome?_eq_some_iff, listed?_eq_none_iff, FirstWith,
    PartitionOutputs.overriddenBy_iff]
  constructor
  · rintro ⟨earlier, partition, later, whole, here, none⟩
    obtain ⟨set, own, rfl⟩ := Option.map_eq_some_iff.mp here
    exact ⟨partition, set, ⟨earlier, later, whole, ⟨set, own⟩, none⟩, own, rfl⟩
  · rintro ⟨partition, set, ⟨earlier, later, whole, -, none⟩, own, rfl⟩
    exact ⟨earlier, partition, later, whole, by rw [listed?, own, Option.map_some], none⟩

section

variable {test : Partition → Bool} {holds : Partition → Prop}
  (tests : ∀ partition, test partition = true ↔ holds partition)

include tests

theorem find?_eq_none_iff_noneWith : table.find? test = none ↔ NoneWith holds table := by
  simp only [List.find?_eq_none, tests, NoneWith]

theorem find?_eq_some_iff_firstWith {partition : Partition} :
    table.find? test = some partition ↔ FirstWith holds table partition := by
  simp only [List.find?_eq_some_iff_append, Bool.not_eq_true', Bool.eq_false_iff, ne_eq, tests,
    FirstWith, NoneWith]
  constructor
  · rintro ⟨here, earlier, later, whole, none⟩
    exact ⟨earlier, later, whole, here, none⟩
  · rintro ⟨earlier, later, whole, here, none⟩
    exact ⟨here, earlier, later, whole, none⟩

end

theorem tests_matches (partition : Partition) :
    occursIn partition.regionPattern region = true ↔ partition.Matches occursIn region :=
  Iff.rfl

theorem tests_isDefault (partition : Partition) :
    decide (partition.id = defaultId) = true ↔ partition.IsDefault :=
  decide_eq_true_iff

theorem unlistedWith?_eq_none_iff : unlistedWith? occursIn table region = none ↔
    NoneWith (Matches occursIn region) table ∧ NoneWith IsDefault table := by
  rw [unlistedWith?, Option.or_eq_none_iff, find?_eq_none_iff_noneWith tests_matches,
    find?_eq_none_iff_noneWith tests_isDefault]

theorem unlistedWith?_eq_some_iff {partition : Partition} :
    unlistedWith? occursIn table region = some partition ↔
      FirstWith (Matches occursIn region) table partition ∨
        NoneWith (Matches occursIn region) table ∧ FirstWith IsDefault table partition := by
  rw [unlistedWith?, Option.or_eq_some_iff, find?_eq_none_iff_noneWith tests_matches,
    find?_eq_some_iff_firstWith tests_matches, find?_eq_some_iff_firstWith tests_isDefault]

theorem resolveWith?_eq_none_iff : resolveWith? occursIn table region = none ↔
    NoneWith (Lists region) table ∧ NoneWith (Matches occursIn region) table ∧
      NoneWith IsDefault table := by
  rw [resolveWith?, Option.or_eq_none_iff, Option.map_eq_none_iff, findSome?_listed?_eq_none_iff,
    unlistedWith?_eq_none_iff]

theorem resolveWith?_eq_some_iff {outputs : PartitionOutputs} :
    resolveWith? occursIn table region = some outputs ↔ Answers occursIn table region outputs := by
  rw [resolveWith?, Option.or_eq_some_iff, Option.map_eq_some_iff, findSome?_listed?_eq_none_iff,
    findSome?_listed?_eq_some_iff]
  simp only [unlistedWith?_eq_some_iff]
  constructor
  · rintro (⟨partition, set, first, own, overridden⟩ | ⟨unlisted, partition, decides, rfl⟩)
    · exact .listed first own overridden
    · rcases decides with first | ⟨unmatched, first⟩
      · exact .matched unlisted first
      · exact .default unlisted unmatched first
  · intro answers
    cases answers with
    | listed first own overridden => exact .inl ⟨_, _, first, own, overridden⟩
    | matched unlisted first => exact .inr ⟨unlisted, _, .inl first, rfl⟩
    | default unlisted unmatched first => exact .inr ⟨unlisted, _, .inr ⟨unmatched, first⟩, rfl⟩

/-- A choice changes with its first part, or with the second one where the first is empty. -/
theorem or_ne_or {α : Type} {a a' b b' : Option α} (changed : a'.or b' ≠ a.or b) :
    a' ≠ a ∨ a = none ∧ b' ≠ b := by
  by_cases same : a' = a
  · subst same
    cases a' with
    | none => exact .inr ⟨rfl, changed⟩
    | some _ => exact absurd rfl changed
  · exact .inl same

/-- What is added at the end is found only if nothing is found before. -/
theorem findSome?_concat_ne {α β : Type} {f : α → Option β} {items : List α} {added : α}
    (changed : (items ++ [added]).findSome? f ≠ items.findSome? f) :
    items.findSome? f = none ∧ f added ≠ none := by
  rw [List.findSome?_append, List.findSome?_singleton] at changed
  cases found : items.findSome? f with
  | some _ => exact absurd (by rw [found]; rfl) changed
  | none => exact ⟨rfl, by simpa [found] using changed⟩

theorem find?_concat_ne {α : Type} {test : α → Bool} {items : List α} {added : α}
    (changed : (items ++ [added]).find? test ≠ items.find? test) :
    items.find? test = none ∧ test added = true := by
  rw [← List.findSome?_guard, ← List.findSome?_guard] at changed
  obtain ⟨none, own⟩ := findSome?_concat_ne changed
  rw [List.findSome?_guard] at none
  exact ⟨none, by simpa using own⟩

/-- A partition at the end of a table changes nothing for a region that the table decides in the
tier of the partition or in one above it. -/
theorem undecided_of_resolveWith?_append_ne {added : Partition}
    (changed : resolveWith? occursIn (table ++ [added]) region ≠
      resolveWith? occursIn table region) :
    NoneWith (Lists region) table ∧ (added.Lists region ∨
      NoneWith (Matches occursIn region) table ∧ (added.Matches occursIn region ∨
        NoneWith IsDefault table ∧ added.IsDefault)) := by
  rcases or_ne_or changed with listed | ⟨unlisted, changed⟩
  · obtain ⟨none, own⟩ := findSome?_concat_ne listed
    rw [ne_eq, listed?_eq_none_iff, Classical.not_not] at own
    exact ⟨findSome?_listed?_eq_none_iff.mp none, .inl own⟩
  · refine ⟨findSome?_listed?_eq_none_iff.mp unlisted, .inr ?_⟩
    have other : unlistedWith? occursIn (table ++ [added]) region ≠
        unlistedWith? occursIn table region := fun same => changed (by rw [same])
    rcases or_ne_or other with matched | ⟨unmatched, default⟩
    · obtain ⟨none, own⟩ := find?_concat_ne matched
      exact ⟨(find?_eq_none_iff_noneWith tests_matches).mp none, .inl own⟩
    · obtain ⟨none, own⟩ := find?_concat_ne default
      refine ⟨(find?_eq_none_iff_noneWith tests_matches).mp unmatched, .inr ⟨?_, ?_⟩⟩
      · exact (find?_eq_none_iff_noneWith tests_isDefault).mp none
      · exact (tests_isDefault added).mp own

/-- The first hit is the same in any order if there is one hit at most. -/
theorem findSome?_eq_of_perm {α β : Type} {f : α → Option β} {items others : List α}
    (same : items.Perm others) (unique : items.Pairwise fun a b => f a = none ∨ f b = none) :
    items.findSome? f = others.findSome? f := by
  induction same with
  | nil => rfl
  | cons item _ ih =>
      rw [List.findSome?_cons, List.findSome?_cons, ih (List.pairwise_cons.mp unique).2]
  | swap first second rest =>
      simp only [List.pairwise_cons, List.mem_cons, forall_eq_or_imp] at unique
      simp only [List.findSome?_cons]
      rcases unique.1.1 with none | none
      · simp only [none]
      · simp only [none]
  | trans front _ ih ih' =>
      have unique' := (front.pairwise_iff fun either => either.symm).mp unique
      rw [ih unique, ih' unique']

theorem find?_eq_of_perm {α : Type} {test : α → Bool} {items others : List α}
    (same : items.Perm others) (unique : items.Pairwise fun a b => ¬ (test a ∧ test b)) :
    items.find? test = others.find? test := by
  rw [← List.findSome?_guard, ← List.findSome?_guard]
  refine findSome?_eq_of_perm same (unique.imp fun {a b} apart => ?_)
  simp only [Option.guard_eq_none_iff]
  cases own : test a with
  | false => exact .inl rfl
  | true => exact .inr (by simpa [own] using apart)

/-- No region is for both of the partitions. -/
structure Apart (first second : Partition) : Prop where
  listed (region : String) : ¬ (first.Lists region ∧ second.Lists region)
  matched (region : String) :
    ¬ (first.Matches Pattern.occursIn region ∧ second.Matches Pattern.occursIn region)
  listedFirst (region : String) :
    ¬ (first.Lists region ∧ second.Matches Pattern.occursIn region)
  listedSecond (region : String) :
    ¬ (second.Lists region ∧ first.Matches Pattern.occursIn region)
  default : ¬ (first.IsDefault ∧ second.IsDefault)

theorem Apart.symm {first second : Partition} (h : Apart first second) : Apart second first where
  listed region both := h.listed region both.symm
  matched region both := h.matched region both.symm
  listedFirst := h.listedSecond
  listedSecond := h.listedFirst
  default both := h.default both.symm

/-- Where partitions are apart from each other, their order does not matter. -/
theorem resolve?_eq_of_perm {others : List Partition} (same : table.Perm others)
    (apart : table.Pairwise Apart) : resolve? table region = resolve? others region := by
  have listed : table.findSome? (·.listed? region) = others.findSome? (·.listed? region) := by
    refine findSome?_eq_of_perm same (apart.imp fun {first second} h => ?_)
    rw [listed?_eq_none_iff, listed?_eq_none_iff]
    exact Classical.not_and_iff_not_or_not.mp (h.listed region)
  have matched : (table.find? fun partition => partition.regionPattern.occursIn region) =
      others.find? fun partition => partition.regionPattern.occursIn region :=
    find?_eq_of_perm same (apart.imp fun h => h.matched region)
  have default : table.find? (·.id = defaultId) = others.find? (·.id = defaultId) := by
    refine find?_eq_of_perm same (apart.imp fun {first second} h => ?_)
    rw [tests_isDefault, tests_isDefault]
    exact h.default
  rw [resolve?, resolve?, resolveWith?, resolveWith?, unlistedWith?, unlistedWith?, listed, matched,
    default]

/-- A table has no answer for a region just if it neither lists nor matches it and has no default
partition. Otherwise the first partition that lists the region answers, with its outputs but for
what the region overrides; else the first one that matches it, with its own outputs; else the first
default one. A partition at the end of the table changes the answer only if it lists the region and
no other does, or matches it and no other lists or matches it, or is a default partition and nothing
else applies. All of this holds whatever the patterns match. -/
theorem resolve?_by_tiers (occursIn : Pattern → String → Bool) (table : List Partition)
    (region : String) :
    resolve? table region = resolveWith? Pattern.occursIn table region ∧
    (resolveWith? occursIn table region = none ↔ NoneWith (Lists region) table ∧
      NoneWith (Matches occursIn region) table ∧ NoneWith IsDefault table) ∧
    (∀ outputs, resolveWith? occursIn table region = some outputs ↔
      Answers occursIn table region outputs) ∧
    (∀ added, resolveWith? occursIn (table ++ [added]) region ≠
        resolveWith? occursIn table region →
      NoneWith (Lists region) table ∧ (added.Lists region ∨
        NoneWith (Matches occursIn region) table ∧ (added.Matches occursIn region ∨
          NoneWith IsDefault table ∧ added.IsDefault))) :=
  ⟨rfl, resolveWith?_eq_none_iff, fun _ => resolveWith?_eq_some_iff,
    fun _ => undecided_of_resolveWith?_append_ne⟩

/-- The first partition matches any region, and one behind it lists one and overrides an output. -/
theorem resolve?_by_tiers_of_listed_behind :
    let other : Partition :=
      { awsIsoB with regions := .ofList [("us-new-1", { supportsDualStack := some true })] }
    resolveWith? (fun _ _ => true) ([awsIsoB] ++ [other]) "us-new-1" ≠
      resolveWith? (fun _ _ => true) [awsIsoB] "us-new-1" ∧
    NoneWith (Lists "us-new-1") [awsIsoB] ∧
    Answers (fun _ _ => true) ([awsIsoB] ++ [other]) "us-new-1"
      { awsIsoB.outputs with supportsDualStack := true } := by
  intro other
  have changed : resolveWith? (fun _ _ => true) ([awsIsoB] ++ [other]) "us-new-1" ≠
      resolveWith? (fun _ _ => true) [awsIsoB] "us-new-1" := by decide +kernel
  obtain ⟨-, -, -, undecided⟩ := resolve?_by_tiers (fun _ _ => true) [awsIsoB] "us-new-1"
  obtain ⟨-, -, answers, -⟩ := resolve?_by_tiers (fun _ _ => true) ([awsIsoB] ++ [other]) "us-new-1"
  exact ⟨changed, (undecided other changed).1, (answers _).mp (by decide +kernel)⟩

end Partition

end EndpointResolution
