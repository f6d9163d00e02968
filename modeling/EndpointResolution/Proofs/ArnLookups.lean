import EndpointResolution.Proofs.ArnGrammar
import EndpointResolution.Proofs.FunctionResults

/-!
Lookups in resource names. The record that a text is parsed to has the parts of the name under their
names and its segments by position, and past the last segment there is absence, which is no failure.
The segments, joined again, are the resource of the text.
-/

namespace EndpointResolution

namespace Arn

/-- The path to a segment of the resource, whose position is written in decimal. -/
def segmentPath (position : String) : String := "resourceId" ++ "[" ++ position ++ "]"

/-- The fields of the record of a name. -/
structure FieldsOf (arn : Arn) (fields : List (String × Value)) : Prop where
  partition : Assoc.find? "partition" fields = some (.string arn.partition)
  service : Assoc.find? "service" fields = some (.string arn.service)
  region : Assoc.find? "region" fields = some (.string arn.region)
  accountId : Assoc.find? "accountId" fields = some (.string arn.accountId)
  resourceId : Assoc.find? "resourceId" fields = some (.array (arn.resource.map .string))

theorem exists_fieldsOf_toValue (arn : Arn) :
    ∃ fields, arn.toValue = .record fields ∧ arn.FieldsOf fields := by
  refine ⟨_, rfl, ?_, ?_, ?_, ?_, ?_⟩
  all_goals
    rw [Assoc.find?_ofList]
    rfl

end Arn

namespace Function

/-- A text that is no resource name is parsed to absence. From any other one there are lookups of
its parts and of its segments, and none of a segment fails, whether there is such a segment or not
and however its position is written; the segments are what the slashes of the resource divide, or
its colons. -/
theorem apply_parseArn_lookups (text : String) :
    (apply .parseArn [.string text] = .ok .none ↔ Arn.parse? text = none) ∧
    ∀ arn, Arn.parse? text = some arn → ∃ value, apply .parseArn [.string text] = .ok value ∧
      apply .getAttr [value, .string "partition"] = .ok (.string arn.partition) ∧
      apply .getAttr [value, .string "service"] = .ok (.string arn.service) ∧
      apply .getAttr [value, .string "region"] = .ok (.string arn.region) ∧
      apply .getAttr [value, .string "accountId"] = .ok (.string arn.accountId) ∧
      (∀ i < AttributePath.positionBound, AttributePath.Numeral (toString i).toList i) ∧
      (∀ i numeral, AttributePath.Numeral numeral.toList i →
        (∀ inside : i < arn.resource.length,
          apply .getAttr [value, .string (Arn.segmentPath numeral)] =
            .ok (.string arn.resource[i])) ∧
        (arn.resource.length ≤ i →
          apply .getAttr [value, .string (Arn.segmentPath numeral)] = .ok .none)) ∧
      arn.FieldsValid ∧ ∃ resource, text = arn.textWith resource ∧
        (resource = "/".intercalate arn.resource ∨ resource = ":".intercalate arn.resource) := by
  have computed : apply .parseArn [.string text] =
    .ok (.ofOption Arn.toValue (Arn.parse? text)) := rfl
  constructor
  · rw [computed]
    cases Arn.parse? text with
    | none => simp [Value.ofOption]
    | some arn => simp [Value.ofOption, Arn.toValue, Value.ofFields]
  · intro arn read
    obtain ⟨valid, resource, whole, nonempty, segments⟩ := Arn.exists_textWith_of_parse? read
    obtain ⟨fields, record, own⟩ := arn.exists_fieldsOf_toValue
    have items {i : Nat} {numeral : String} (position : AttributePath.Numeral numeral.toList i) :
        apply .getAttr [.record fields, .string (Arn.segmentPath numeral)] =
          .ok ((arn.resource[i]?.map Value.string).getD .none) := by
      rw [Arn.segmentPath, apply_getAttr_item (by decide) own.resourceId position,
        List.getElem?_map]
    refine ⟨.record fields, ?_, apply_getAttr_field (by decide) own.partition,
      apply_getAttr_field (by decide) own.service, apply_getAttr_field (by decide) own.region,
      apply_getAttr_field (by decide) own.accountId, fun _ => AttributePath.numeral_toString,
      fun i numeral position => ⟨fun inside => ?_, fun past => ?_⟩, valid, resource, whole, ?_⟩
    · rw [computed, read, ← record]
      rfl
    · rw [items position, List.getElem?_eq_getElem inside]
      rfl
    · rw [items position, List.getElem?_eq_none past]
      rfl
    · rcases Arn.segments_eq_iff.mp ⟨nonempty, segments⟩ with ⟨-, joined⟩ | ⟨-, joined⟩
      · exact .inl joined
      · exact .inr joined

/-- A name with a colon inside of a segment, and positions behind its last segment. -/
theorem apply_parseArn_lookups_past_end :
    ∃ value, apply .parseArn [.string "arn:aws:s3:::outpost/op-01:bucket"] = .ok value ∧
      apply .getAttr [value, .string "region"] = .ok (.string "") ∧
      apply .getAttr [value, .string "resourceId[1]"] = .ok (.string "op-01:bucket") ∧
      apply .getAttr [value, .string "resourceId[2]"] = .ok .none ∧
      apply .getAttr [value, .string "resourceId[007]"] = .ok .none := by
  have read : Arn.parse? "arn:aws:s3:::outpost/op-01:bucket" =
    some ⟨"aws", "s3", "", "", ["outpost", "op-01:bucket"]⟩ := by decide
  have seven : AttributePath.Numeral "007".toList 7 :=
    AttributePath.position?_eq_some_iff.mp (by decide)
  obtain ⟨value, parsed, -, -, region, -, written, segments, -⟩ :=
    (apply_parseArn_lookups _).2 _ read
  exact ⟨value, parsed, region, (segments 1 _ (written 1 (by decide))).1 (by decide),
    (segments 2 _ (written 2 (by decide))).2 (by decide), (segments 7 _ seven).2 (by decide)⟩

end Function

end EndpointResolution
