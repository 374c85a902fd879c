import Reshape.Proofs.Schema.Lookup
import Reshape.Proofs.Sequence
import Reshape.Proofs.Typing.Basic
import Reshape.Transformer

/-!
# What a transformation returns

The result of a transformation, told by the outcomes of the destination fields: a
record with the value of each field, or the error of the first field, in
declaration order, whose outcome is one.
-/

namespace Reshape

namespace Transformer

variable {transformer : Transformer} {record : Record} {values : List Value}
  {field : Field}

def filled (transformer : Transformer) (values : List Value) (field : Field) : Value :=
  (transformer.outcome values field).assigned?.getD (Value.zero field.type)

def fieldError? (transformer : Transformer) (values : List Value) (field : Field) :
    Option TransformError :=
  (transformer.outcome values field).error? transformer field

theorem result_fillField :
    (transformer.fillField values field).result =
      match transformer.fieldError? values field with
      | some error => .error error
      | none => .ok (transformer.filled values field) := rfl

theorem result_fillField_eq_ok_iff {value : Value} :
    (transformer.fillField values field).result = .ok value ↔
      transformer.fieldError? values field = none ∧
        value = transformer.filled values field := by
  rw [result_fillField]
  cases transformer.fieldError? values field with
  | none => simp [eq_comm]
  | some error => simp

theorem result_fillField_eq_error_iff {error : TransformError} :
    (transformer.fillField values field).result = .error error ↔
      transformer.fieldError? values field = some error := by
  rw [result_fillField]
  cases transformer.fieldError? values field with
  | none => simp
  | some other => simp

/-! ## Whole records -/

theorem transform_none (transformer : Transformer) :
    transformer.transform none = .ok (Record.zeroed transformer.destination) := rfl

theorem transform_of_schema (h : record.schema = transformer.source) :
    transformer.transform (some record) =
      (transformer.destination.fields.mapM fun field =>
        (transformer.fillField record.values field).result).map fun values =>
          ⟨transformer.destination, values⟩ := by
  simp only [transform, run, Record.hasSchema_iff.mpr h, if_true, Traced.result_map,
    Traced.result_forEach]

theorem transform_of_other_schema (h : record.schema ≠ transformer.source) :
    transformer.transform (some record) =
      .error (.schemaMismatch transformer.source.name record.schema.name) := by
  have hschema : record.hasSchema transformer.source = false := by
    rw [← Bool.not_eq_true, Record.hasSchema_iff]
    exact h
  simp [transform, run, hschema]

theorem transform_eq_ok_iff {out : Record} :
    transformer.transform (some record) = .ok out ↔
      record.schema = transformer.source ∧
        (∀ field ∈ transformer.destination.fields,
          transformer.fieldError? record.values field = none) ∧
        out = ⟨transformer.destination,
          transformer.destination.fields.map (transformer.filled record.values)⟩ := by
  by_cases hschema : record.schema = transformer.source
  · rw [transform_of_schema hschema,
      Sequence.map_mapM_eq_ok_iff_map fun _ _ _ => result_fillField_eq_ok_iff]
    simp [hschema]
  · rw [transform_of_other_schema hschema]
    simp [hschema]

theorem transform_eq_error_iff {error : TransformError} :
    transformer.transform (some record) = .error error ↔
      (record.schema ≠ transformer.source ∧
          error = .schemaMismatch transformer.source.name record.schema.name) ∨
        (record.schema = transformer.source ∧
          ∃ before field after,
            transformer.destination.fields = before ++ field :: after ∧
              (∀ earlier ∈ before,
                transformer.fieldError? record.values earlier = none) ∧
              transformer.fieldError? record.values field = some error) := by
  by_cases hschema : record.schema = transformer.source
  · rw [transform_of_schema hschema, Sequence.map_eq_error_iff,
      Sequence.mapM_eq_error_iff]
    simp [result_fillField_eq_ok_iff, result_fillField_eq_error_iff, hschema]
  · rw [transform_of_other_schema hschema]
    simp [hschema, eq_comm]

end Transformer

end Reshape
