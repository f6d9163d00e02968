import EndpointResolution.Proofs.FunctionResults
import EndpointResolution.Proofs.PartitionTiers
import EndpointResolution.Proofs.PatternMatching
import Mathlib.Data.List.Pairwise

/-!
The standard partitions. Regions are named by an area, a place and a number, and the place and the
number hold no hyphen. So the area of a region is known from its name, and since no two partitions
share an area, none matches or lists a region that another one matches or lists. Hence the order of
the partitions does not matter. Every region has an answer, which is a record.
-/

namespace EndpointResolution

namespace Partition

/-- The region is named by one of the areas, a place and a number. -/
def NamedAfter (areas : List String) (region : List Char) : Prop :=
  ∃ area ∈ areas, ∃ place number,
    region = area.toList ++ '-' :: (place ++ '-' :: number) ∧
    place ≠ [] ∧ (∀ c ∈ place, Character.isWord c = true) ∧
    number ≠ [] ∧ ∀ c ∈ number, Character.isDecimalDigit c = true

/-- The name of a region without the last two of the parts that hyphens divide. -/
def areaOf? (region : List Char) : Option (List Char) := do
  let (_, front) ← Text.cut? '-' region.reverse
  let (_, area) ← Text.cut? '-' front
  return area.reverse

theorem spans_areaPatterns {areas : List String} {p q : Place} :
    (Pattern.sequence (areaPatterns areas)).Spans p q ↔
      ∃ area ∈ areas, p.Passes area.toList q := by
  cases areas with
  | nil => simp [areaPatterns, Pattern.spans_oneOf]
  | cons area rest =>
      cases rest with
      | nil =>
          have letters := @Pattern.spans_text p q area
          rw [Pattern.text] at letters
          simpa [areaPatterns] using letters
      | cons next rest => simp [areaPatterns, Pattern.spans_oneOf, Pattern.spans_text]

theorem occursIn_regional_iff {areas : List String} {region : String} :
    (regional areas).occursIn region = true ↔ NamedAfter areas region.toList := by
  have anchored := @Pattern.occursIn_anchored_iff
    (areaPatterns areas ++ [.literal '-', .many1 .word, .literal '-', .many1 .digit]) region
  rw [List.append_assoc] at anchored
  refine anchored.trans ?_
  simp only [Pattern.spans_sequence_append, Pattern.spans_sequence_cons,
    Pattern.spans_sequence_nil, spans_areaPatterns, Pattern.spans_literal, Pattern.spans_many1,
    CharSet.contains]
  constructor
  · rintro ⟨_, ⟨area, present, front⟩, _, hyphen, _, ⟨place, some, word, here⟩, _, hyphen', _,
      ⟨number, some', digits, there⟩, rfl⟩
    refine ⟨area, present, place, number, ?_, some, word, some', digits⟩
    rw [← Place.passes_start_stop_iff]
    exact front.append (hyphen.append (here.append (hyphen'.append there)))
  · rintro ⟨area, present, place, number, whole, some, word, some', digits⟩
    obtain ⟨_, front, back⟩ := Place.passes_append_iff.mp (Place.passes_start_stop_iff.mpr whole)
    obtain ⟨_, hyphen, back⟩ := Place.passes_cons_iff.mp back
    obtain ⟨_, here, back⟩ := Place.passes_append_iff.mp back
    obtain ⟨_, hyphen', there⟩ := Place.passes_cons_iff.mp back
    exact ⟨_, ⟨area, present, front⟩, _, hyphen, _, ⟨place, some, word, here⟩, _, hyphen', _,
      ⟨number, some', digits, there⟩, rfl⟩

theorem areaOf?_append {area place number : List Char} (plain : '-' ∉ place)
    (plain' : '-' ∉ number) : areaOf? (area ++ '-' :: (place ++ '-' :: number)) = some area := by
  have back : (area ++ '-' :: (place ++ '-' :: number)).reverse =
      number.reverse ++ '-' :: (place.reverse ++ '-' :: area.reverse) := by simp
  rw [areaOf?, back, Text.cut?_append (by simpa using plain')]
  simp [Text.cut?_append (show '-' ∉ place.reverse by simpa using plain)]

/-- A hyphen belongs neither to words nor to numbers, so the area can be told from the name. -/
theorem NamedAfter.areaOf? {areas : List String} {region : List Char}
    (h : NamedAfter areas region) : ∃ area ∈ areas, areaOf? region = some area.toList := by
  obtain ⟨area, member, place, number, rfl, -, word, -, digits⟩ := h
  refine ⟨area, member, areaOf?_append ?_ ?_⟩
  · exact fun hyphen => absurd (word '-' hyphen) (by decide)
  · exact fun hyphen => absurd (digits '-' hyphen) (by decide)

theorem lists_iff {partition : Partition} {regions : List String}
    (own : partition.regions = listing regions) {region : String} :
    partition.Lists region ↔ region ∈ regions := by
  have none : partition.regions.get? region = none ↔ region ∉ regions := by
    rw [own, listing, Dict.get?_ofList, Assoc.find?_eq_none_iff]
    simp
  rw [Lists, ← Option.isSome_iff_exists, Option.isSome_iff_ne_none, ne_eq, none, Classical.not_not]

theorem matches_iff {partition : Partition} {areas : List String}
    (own : partition.regionPattern = regional areas) {region : String} :
    partition.Matches Pattern.occursIn region ↔ NamedAfter areas region.toList := by
  rw [Matches, own, occursIn_regional_iff]

/-- None of the regions is named by one of the areas. -/
def Unnamed (regions areas : List String) : Prop :=
  ∀ region ∈ regions, ∀ area ∈ areas, areaOf? region.toList ≠ some area.toList

instance (regions areas : List String) : Decidable (Unnamed regions areas) :=
  inferInstanceAs (Decidable (∀ region ∈ regions, ∀ area ∈ areas,
    areaOf? region.toList ≠ some area.toList))

theorem Unnamed.not_namedAfter {regions areas : List String} (h : Unnamed regions areas)
    {region : String} (member : region ∈ regions) : ¬ NamedAfter areas region.toList := by
  intro named
  obtain ⟨area, present, own⟩ := named.areaOf?
  exact h region member area present own

theorem Apart.of_areas {first second : Partition} {areas others regions more : List String}
    (pattern : first.regionPattern = regional areas)
    (pattern' : second.regionPattern = regional others)
    (lists : first.regions = listing regions) (lists' : second.regions = listing more)
    (areasApart : ∀ area ∈ areas, area ∉ others) (regionsApart : ∀ region ∈ regions, region ∉ more)
    (unnamed : Unnamed regions others) (unnamed' : Unnamed more areas)
    (default : ¬ (first.id = "aws" ∧ second.id = "aws")) : Apart first second where
  listed region := by
    rw [lists_iff lists, lists_iff lists']
    exact fun both => regionsApart region both.1 both.2
  matched region := by
    rw [matches_iff pattern, matches_iff pattern']
    rintro ⟨named, named'⟩
    obtain ⟨area, member, own⟩ := named.areaOf?
    obtain ⟨area', member', own'⟩ := named'.areaOf?
    -- both areas are the one that the name has in front of its last two hyphens
    have same : area = area' := String.toList_injective (Option.some.inj (own.symm.trans own'))
    exact areasApart area member (same ▸ member')
  listedFirst region := by
    rw [lists_iff lists, matches_iff pattern']
    exact fun both => unnamed.not_namedAfter both.1 both.2
  listedSecond region := by
    rw [lists_iff lists', matches_iff pattern]
    exact fun both => unnamed'.not_namedAfter both.1 both.2
  default := default

theorem pairwise_apart_standard : standard.Pairwise Apart := by
  simp only [standard, List.pairwise_cons, List.forall_mem_cons, List.not_mem_nil,
    false_imp_iff, implies_true, List.Pairwise.nil, and_true]
  refine ⟨⟨?_, ?_, ?_, ?_⟩, ⟨?_, ?_, ?_⟩, ⟨?_, ?_⟩, ?_⟩
  all_goals
    exact .of_areas rfl rfl rfl rfl (by decide) (by decide) (by decide +kernel)
      (by decide +kernel) (by decide)

/-- There is a default partition, so that every region has an answer. -/
theorem exists_resolve?_standard (region : String) :
    ∃ outputs, resolve? standard region = some outputs := by
  rw [← Option.ne_none_iff_exists', resolve?, ne_eq, resolveWith?_eq_none_iff]
  rintro ⟨-, -, none⟩
  exact none aws List.mem_cons_self rfl

end Partition

/-- A lookup of a field gives a value of its type. -/
theorem Value.RecordOf.apply_getAttr {types : List (String × ParameterType)} {value : Value}
    (record : value.RecordOf types) (distinct : (types.map (·.1)).Nodup) {name : String}
    {type : ParameterType} (member : (name, type) ∈ types)
    (named : AttributePath.IsKey name.toList) : ∃ found,
      Function.apply .getAttr [value, .string name] = .ok found ∧ type.Conforms found := by
  obtain ⟨fields, rfl, -, typed⟩ := record
  have conforms := typed name
  rw [Assoc.find?_of_mem distinct member] at conforms
  cases present : Assoc.find? name fields with
  | none =>
      rw [present] at conforms
      cases conforms
  | some found =>
      rw [present] at conforms
      cases conforms with
      | some own => exact ⟨found, Function.apply_getAttr_field named present, own⟩

theorem PartitionOutputs.isKey_of_mem_fieldTypes :
    ∀ field ∈ fieldTypes, AttributePath.IsKey field.1.toList := by decide

namespace Partition

/-- Every region but the empty text has a record for an answer, whose fields are of their types. The
answer is the same in any order of the standard partitions, for no region is listed by two of them,
matches the patterns of two, or is listed by one and matches the pattern of another. -/
theorem standard_answers_in_any_order (region : String) :
    (region ≠ "" → ∃ outputs, resolve? standard region = some outputs ∧
      Function.apply .partition [.string region] = .ok outputs.toValue ∧
      outputs.toValue.kind = .record ∧
      ∀ field ∈ PartitionOutputs.fieldTypes, ∃ found,
        Function.apply .getAttr [outputs.toValue, .string field.1] = .ok found ∧
          field.2.Conforms found) ∧
    (∀ table, table.Perm standard → resolve? table region = resolve? standard region) ∧
    (∀ first ∈ standard, ∀ second ∈ standard, first ≠ second →
      ¬ (first.Lists region ∧ second.Lists region) ∧
      ¬ (first.Matches Pattern.occursIn region ∧ second.Matches Pattern.occursIn region) ∧
      ¬ (first.Lists region ∧ second.Matches Pattern.occursIn region)) := by
  refine ⟨fun given => ?_, fun table same => ?_, fun first member second member' other => ?_⟩
  · obtain ⟨outputs, answer⟩ := exists_resolve?_standard region
    have record := outputs.recordOf_toValue
    refine ⟨outputs, answer, ?_, rfl, ?_⟩
    · have applied : Function.apply .partition [.string region] = Function.partitionOf region := rfl
      rw [applied, Function.partitionOf_eq_ok, if_neg given, answer, Value.ofOption]
    · rintro ⟨name, type⟩ member
      have named := PartitionOutputs.isKey_of_mem_fieldTypes _ member
      exact record.apply_getAttr (by decide) member named
  · exact (resolve?_eq_of_perm same.symm pairwise_apart_standard).symm
  · have symmetric : Std.Symm Apart := ⟨fun _ _ => Apart.symm⟩
    have apart := pairwise_apart_standard.forall member member' other
    exact ⟨apart.listed region, apart.matched region, apart.listedFirst region⟩

/-- No partition lists the region, and the names of two partitions' areas begin alike. -/
theorem standard_answers_in_any_order_of_unlisted :
    (∃ outputs, Function.apply .partition [.string "us-gov-new-9"] =
      .ok (PartitionOutputs.toValue outputs)) ∧
    resolve? standard.reverse "us-gov-new-9" = resolve? standard "us-gov-new-9" ∧
    ¬ (aws.Matches Pattern.occursIn "us-gov-new-9" ∧
      awsUsGov.Matches Pattern.occursIn "us-gov-new-9") := by
  obtain ⟨answers, ordered, apart⟩ := standard_answers_in_any_order "us-gov-new-9"
  obtain ⟨outputs, -, applied, -⟩ := answers (by decide)
  have other : aws ≠ awsUsGov := fun same => absurd (congrArg Partition.id same) (by decide)
  have apart' := apart aws List.mem_cons_self awsUsGov (by simp [standard]) other
  exact ⟨⟨outputs, applied⟩, ordered _ standard.reverse_perm, apart'.2.1⟩

end Partition

end EndpointResolution
