import Mathlib.Data.Option.Basic
import EndpointResolution.Arn

/-!
The grammar of resource names. A text is read as a name just if it is made up of the parts of the
name: fields between colons, and behind them segments between slashes, or between colons where no
slash is. A name tells the text that it is read from, but for the separator of its segments.
-/

namespace EndpointResolution.Arn

/-- Two or more segments, none with a slash in it. -/
def BySlash (segments : List String) : Prop :=
  2 ≤ segments.length ∧ ∀ segment ∈ segments, '/' ∉ segment.toList

/-- One or more segments, not an empty one alone, none with a slash or a colon in it. -/
def ByColon (segments : List String) : Prop :=
  segments ≠ [] ∧ segments ≠ [""] ∧
    ∀ segment ∈ segments, '/' ∉ segment.toList ∧ ':' ∉ segment.toList

/-- There is no colon in a field in front of the resource; region and account may be empty. -/
structure FieldsValid (arn : Arn) : Prop where
  partition : arn.partition ≠ "" ∧ ':' ∉ arn.partition.toList
  service : arn.service ≠ "" ∧ ':' ∉ arn.service.toList
  region : ':' ∉ arn.region.toList
  accountId : ':' ∉ arn.accountId.toList

/-- The fields as a text, with a resource behind them. -/
def textWith (arn : Arn) (resource : String) : String :=
  "arn:" ++ arn.partition ++ ":" ++ arn.service ++ ":" ++ arn.region ++ ":" ++ arn.accountId ++
    ":" ++ resource

/-- The text is made up of the parts of the name. -/
def Spells (text : String) (arn : Arn) : Prop :=
  arn.FieldsValid ∧
    (BySlash arn.resource ∧ text = arn.textWith ("/".intercalate arn.resource) ∨
      ByColon arn.resource ∧ text = arn.textWith (":".intercalate arn.resource))

theorem mem_intercalate_iff {separator c : Char} {segments : List String} :
    c ∈ List.intercalate [separator] (segments.map String.toList) ↔
      (∃ segment ∈ segments, c ∈ segment.toList) ∨ (c = separator ∧ 2 ≤ segments.length) := by
  rw [Text.mem_intercalate_iff, List.length_map]
  simp only [List.mem_map, exists_exists_and_eq_and]

/-- Segments are told apart again where their separator is the one to look for. -/
theorem segments_intercalate {character : Char} {own : List String} (some : own ≠ [])
    (whole : ∀ segment ∈ own, character ∉ segment.toList)
    (looked : separator (List.intercalate [character] (own.map String.toList)) = character) :
    segments (List.intercalate [character] (own.map String.toList)) = own := by
  have split : (List.intercalate [character] (own.map String.toList)).splitOn character =
      own.map String.toList :=
    List.splitOn_intercalate character (by simpa using whole) (by simpa using some)
  rw [segments, looked, split, List.map_map]
  simp [Function.comp_def]

theorem intercalate_segments (resource : List Char) :
    List.intercalate [separator resource] ((segments resource).map String.toList) = resource := by
  rw [segments, List.map_map]
  simp [Function.comp_def, List.intercalate_splitOn]

theorem separator_not_mem_segment {resource : List Char} {segment : String}
    (member : segment ∈ segments resource) : separator resource ∉ segment.toList := by
  obtain ⟨part, present, rfl⟩ := List.mem_map.mp member
  simpa using Text.not_mem_of_mem_splitOn present

/-- What the segments of a resource may be, and how it is written with them. -/
theorem segments_eq_iff {resource : String} {own : List String} :
    resource ≠ "" ∧ segments resource.toList = own ↔
      BySlash own ∧ resource = "/".intercalate own ∨
        ByColon own ∧ resource = ":".intercalate own := by
  simp only [ne_eq, String.ext_iff, String.toList_intercalate]
  constructor
  · rintro ⟨nonempty, rfl⟩
    have written := intercalate_segments resource.toList
    have whole := @separator_not_mem_segment resource.toList
    by_cases slash : '/' ∈ resource.toList
    · have looked : separator resource.toList = '/' := if_pos slash
      rw [looked] at written whole
      refine .inl ⟨⟨?_, fun _ => whole⟩, written.symm⟩
      -- No segment has the slash, so it separates two of them.
      rw [← written, mem_intercalate_iff] at slash
      rcases slash with ⟨segment, member, inside⟩ | ⟨-, several⟩
      · exact absurd inside (whole member)
      · exact several
    · have looked : separator resource.toList = ':' := if_neg slash
      rw [looked] at written whole
      refine .inr ⟨⟨?_, ?_, fun segment member => ⟨?_, whole member⟩⟩, written.symm⟩
      · simp [segments]
      · intro alone
        rw [alone] at written
        exact nonempty written.symm
      · intro inside
        exact slash (written ▸ mem_intercalate_iff.mpr (.inl ⟨segment, member, inside⟩))
  · rintro (⟨⟨several, whole⟩, written⟩ | ⟨⟨some, nonempty, whole⟩, written⟩)
    · have slash : '/' ∈ resource.toList := written ▸ mem_intercalate_iff.mpr (.inr ⟨rfl, several⟩)
      have some : own ≠ [] := List.ne_nil_of_length_pos (Nat.zero_lt_of_lt several)
      rw [written] at slash ⊢
      exact ⟨List.ne_nil_of_mem slash, segments_intercalate some whole (if_pos slash)⟩
    · have noSlash : '/' ∉ resource.toList := by
        rw [written]
        intro slash
        rcases mem_intercalate_iff.mp slash with ⟨segment, member, inside⟩ | ⟨eq, -⟩
        · exact (whole segment member).1 inside
        · cases eq
      rw [written] at noSlash ⊢
      have same := segments_intercalate some (fun segment member => (whole segment member).2)
        (if_neg noSlash)
      refine ⟨fun empty => nonempty ?_, same⟩
      rw [← same]
      exact congrArg segments empty

theorem toList_textWith (arn : Arn) (resource : String) :
    (arn.textWith resource).toList = ['a', 'r', 'n'] ++ ':' :: (arn.partition.toList ++ ':' ::
      (arn.service.toList ++ ':' :: (arn.region.toList ++ ':' :: (arn.accountId.toList ++ ':' ::
        resource.toList)))) := by
  simp [textWith]

theorem parse?_textWith {arn : Arn} (valid : arn.FieldsValid) {resource : String}
    (nonempty : resource ≠ "") : parse? (arn.textWith resource) =
      some { arn with resource := segments resource.toList } := by
  obtain ⟨⟨hp, p⟩, ⟨hs, s⟩, r, a⟩ := valid
  have tag : ':' ∉ ['a', 'r', 'n'] := by decide
  simp only [parse?, toList_textWith, Text.cut?_append tag, Text.cut?_append p, Text.cut?_append s,
    Text.cut?_append r, Text.cut?_append a, Option.bind_eq_bind, Option.bind_some]
  simp [hp, hs, nonempty, guard]

/-- What is read is cut out of the text at its first five colons. -/
theorem exists_textWith_of_parse? {text : String} {arn : Arn} (read : parse? text = some arn) :
    arn.FieldsValid ∧ ∃ resource, text = arn.textWith resource ∧ resource ≠ "" ∧
      segments resource.toList = arn.resource := by
  simp only [parse?, bind, Option.bind_eq_some_iff, Option.guard_eq_some', Text.cut?_eq_some_iff,
    Prod.exists] at read
  obtain ⟨tag, rest, ⟨whole, -⟩, -, rfl, partition, rest, ⟨rfl, p⟩, service, rest, ⟨rfl, s⟩, region,
    rest, ⟨rfl, r⟩, accountId, resource, ⟨rfl, a⟩, -, ⟨hp, hs, nonempty⟩, made⟩ := read
  cases made
  refine ⟨⟨⟨by simpa using hp, by simpa using p⟩, ⟨by simpa using hs, by simpa using s⟩,
    by simpa using r, by simpa using a⟩, String.ofList resource, ?_, by simpa using nonempty,
    by simp⟩
  rw [String.ext_iff, whole, toList_textWith]
  simp

theorem spells_iff {text : String} {arn : Arn} :
    Spells text arn ↔ arn.FieldsValid ∧ ∃ resource, text = arn.textWith resource ∧
      resource ≠ "" ∧ segments resource.toList = arn.resource := by
  rw [Spells, and_congr_right_iff]
  intro _
  simp only [segments_eq_iff]
  constructor
  · rintro (⟨slash, rfl⟩ | ⟨colon, rfl⟩)
    · exact ⟨_, rfl, .inl ⟨slash, rfl⟩⟩
    · exact ⟨_, rfl, .inr ⟨colon, rfl⟩⟩
  · rintro ⟨resource, rfl, ⟨slash, rfl⟩ | ⟨colon, rfl⟩⟩
    · exact .inl ⟨slash, rfl⟩
    · exact .inr ⟨colon, rfl⟩

/-- A text is read as a name just if it is spelled as one, and is no name if it is spelled as none:
the fields in front of the resource are those between the first colons, and the resource has its
segments between slashes, or between colons if there is no slash. -/
theorem parse?_grammar (text : String) :
    (∀ arn, parse? text = some arn ↔ Spells text arn) ∧
      (parse? text = none ↔ ∀ arn, ¬ Spells text arn) := by
  have reads (arn : Arn) : parse? text = some arn ↔ Spells text arn := by
    rw [spells_iff]
    constructor
    · exact exists_textWith_of_parse?
    · rintro ⟨valid, resource, rfl, nonempty, same⟩
      rw [parse?_textWith valid nonempty, same]
  refine ⟨reads, ?_⟩
  simp only [Option.eq_none_iff_forall_ne_some, ne_eq, reads]

-- The colon does not separate where there is a slash, and what is between two slashes is kept.
example : parse? "arn:aws:s3:::a:b//c" = some ⟨"aws", "s3", "", "", ["a:b", "", "c"]⟩ := by decide

end EndpointResolution.Arn
