import Reshape.Model.Transformer
import Reshape.Proofs.Model.Typing
import Reshape.Proofs.Transformer.Failure
import Reshape.Proofs.Transformer.RoundTrip
import Reshape.Proofs.Transformer.Typing

/-!
# Transformations of instances are transformations of records

What is transformed for an instance is its record, and the record that comes of it is
well typed, so that it is always the record of an instance.  Hence an instance is
transformed to what its record is transformed to, and fails with the same error.
-/

namespace Reshape.ModelTransformer

variable {source destination model : Model}
  {transformer : ModelTransformer source destination} {row : Option source.Instance}
  {out : destination.Instance} {record : Record} {error : TransformError}

/-! ## By way of records -/

theorem transformOption_eq_bind :
    transformer.transformOption row =
      transformer.onRecords.transform (row.map (·.toRecord)) >>=
        Model.Instance.ofRecord destination :=
  Traced.result_bind _ _

/-- The record that a transformation gives is that of an instance. -/
theorem exists_ofRecord_of_transform
    (h : transformer.onRecords.transform (row.map (·.toRecord)) = .ok record) :
    ∃ out, Model.Instance.ofRecord destination record = .ok out ∧ out.toRecord = record := by
  refine Model.Instance.exists_ofRecord (Transformer.schema_of_transform h)
    (Transformer.wellTyped_of_transform ?_ h)
  intro record hrecord
  obtain ⟨held, -, rfl⟩ := Option.map_eq_some_iff.mp hrecord
  exact held.wellTyped_toRecord

theorem transformOption_eq_ok_iff :
    transformer.transformOption row = .ok out ↔
      transformer.onRecords.transform (row.map (·.toRecord)) = .ok out.toRecord := by
  rw [transformOption_eq_bind, Sequence.bind_eq_ok_iff]
  constructor
  · rintro ⟨record, hrecord, hout⟩
    obtain ⟨held, hheld, rfl⟩ := exists_ofRecord_of_transform hrecord
    cases hheld.symm.trans hout
    exact hrecord
  · intro h
    exact ⟨_, h, out.ofRecord_toRecord⟩

theorem transformOption_eq_error_iff :
    transformer.transformOption row = .error error ↔
      transformer.onRecords.transform (row.map (·.toRecord)) = .error error := by
  rw [transformOption_eq_bind, Sequence.bind_eq_error_iff]
  refine or_iff_left ?_
  rintro ⟨record, hrecord, herror⟩
  obtain ⟨held, hheld, -⟩ := exists_ofRecord_of_transform hrecord
  rw [hheld] at herror
  cases herror

/-! ## When a transformation succeeds -/

theorem exists_transformOption
    (h : transformer.onRecords.transform (row.map (·.toRecord)) = .ok record) :
    ∃ out, transformer.transformOption row = .ok out ∧ out.toRecord = record := by
  obtain ⟨out, -, rfl⟩ := exists_ofRecord_of_transform h
  exact ⟨out, transformOption_eq_ok_iff.mpr h, rfl⟩

theorem exists_transform_of_permissive
    (hpolicy : transformer.mapping.policy = .permissive) (row : source.Instance) :
    ∃ out, transformer.transform row = .ok out := by
  have htransform : transformer.onRecords.transform ((some row).map (·.toRecord)) = _ :=
    Transformer.transform_of_permissive hpolicy rfl row.wellTyped_toRecord.complete
  obtain ⟨out, hout, -⟩ := exists_transformOption htransform
  exact ⟨out, hout⟩

theorem rejects_of_transform {row : source.Instance}
    (h : transformer.transform row = .error error) :
    transformer.mapping.policy = .strict ∧ transformer.onRecords.Rejects error :=
  Transformer.rejects_of_transform rfl row.wellTyped_toRecord.complete
    (transformOption_eq_error_iff.mp h)

theorem transform_same (policy : Policy) (row : model.Instance) :
    (⟨{ policy }⟩ : ModelTransformer model model).transform row = .ok row :=
  transformOption_eq_ok_iff.mpr
    (Transformer.transform_same model.distinct policy rfl row.wellTyped_toRecord.complete)

/-! ## Instances and records -/

theorem transform_as_record :
    (∀ (source destination : Model) (transformer : ModelTransformer source destination),
      (∀ row out, transformer.transform row = .ok out ↔
        transformer.onRecords.transform (some row.toRecord) = .ok out.toRecord) ∧
      (∀ row error, transformer.transform row = .error error ↔
        transformer.onRecords.transform (some row.toRecord) = .error error) ∧
      (∀ (row : Option source.Instance) record,
        transformer.onRecords.transform (row.map (·.toRecord)) = .ok record →
        ∃ out, Model.Instance.ofRecord destination record = .ok out ∧
          out.toRecord = record) ∧
      (transformer.mapping.policy = .permissive →
        ∀ row, ∃ out, transformer.transform row = .ok out) ∧
      (∃ out, transformer.transformOption none = .ok out ∧
        out.toRecord = Record.zeroed destination.schema) ∧
      ∀ row error, transformer.transform row = .error error →
        transformer.mapping.policy = .strict ∧ transformer.onRecords.Rejects error) ∧
    ∀ (model : Model) (policy : Policy) (row : model.Instance),
      (⟨{ policy }⟩ : ModelTransformer model model).transform row = .ok row := by
  refine ⟨fun source destination transformer => ⟨?_, ?_, ?_, ?_, ?_, ?_⟩, ?_⟩
  · exact fun row out => transformOption_eq_ok_iff
  · exact fun row error => transformOption_eq_error_iff
  · exact fun row record => exists_ofRecord_of_transform
  · exact exists_transform_of_permissive
  · exact exists_transformOption (Transformer.transform_none _)
  · exact fun row error => rejects_of_transform
  · exact fun model => transform_same

/-- The number wraps, the absent item is rendered, and the string has no coercion, for which
the strict policy rejects the row. -/
theorem transform_as_record_narrowed :
    let left : Model :=
      ⟨⟨"Row", [⟨"n", .int .i64, []⟩, ⟨"tags", .option (.list (.option .string)), []⟩,
        ⟨"note", .string, []⟩]⟩, by decide, by decide⟩
    let right : Model :=
      ⟨⟨"Cell", [⟨"n", .int .u8, []⟩, ⟨"tags", .json, []⟩,
        ⟨"note", .option .bool, []⟩]⟩, by decide, by decide⟩
    let transformer : ModelTransformer left right := {}
    let strict := transformer.withPolicy .strict
    let row : left.Instance := (⟨300, by decide⟩, some [none, some "a"], "b", ())
    let out : right.Instance := (⟨44, by decide⟩, .array [.null, .string "a"], none, ())
    let cause : TransformError := .coercionFailed "Cell" "note" .string (.option .bool)
    transformer.transform row = .ok out ∧
      transformer.onRecords.transform (some row.toRecord) = .ok out.toRecord ∧
      strict.transform row = .error cause ∧ strict.mapping.policy = .strict ∧
      strict.onRecords.Rejects cause := by
  intro left right transformer strict row out cause
  obtain ⟨hmodels, -⟩ := transform_as_record
  obtain ⟨hok, -, -, -, -, -⟩ := hmodels left right transformer
  obtain ⟨-, herror, -, -, -, hrejects⟩ := hmodels left right strict
  have hrecord : transformer.onRecords.transform (some row.toRecord) = .ok out.toRecord := by
    with_unfolding_all rfl
  have hcause : strict.transform row = .error cause :=
    (herror row cause).mpr (by with_unfolding_all rfl)
  exact ⟨(hok row out).mpr hrecord, hrecord, hcause, hrejects row cause hcause⟩

end Reshape.ModelTransformer
