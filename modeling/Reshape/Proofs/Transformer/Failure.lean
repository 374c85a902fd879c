import Reshape.Proofs.Transformer.Policy
import Reshape.Proofs.Typing.Json

/-!
# Why transformations fail

A transformation stops at a field that has a fault, if its policy is strict, or for which
the source record has no value at the place that was found.  The latter cannot arise:
whatever a record is made by gives it one value for each field.
-/

namespace Reshape

/-! ## How records are made -/

/--
A record that a sequence of the operations on records ends in.  New values have to be one
for each field.
-/
inductive Record.Made : Record → Prop where
  | zeroed (schema : Schema) : Made (zeroed schema)
  | ofValues {schema : Schema} {values : List Value} {record : Record} :
      ofValues schema values = .ok record → Made record
  | ofJson {schema : Schema} {json : Json} {record : Record} :
      ofJson schema json = .ok record → Made record
  | transform {transformer : Transformer} {source : Option Record} {record : Record} :
      (∀ held, source = some held → Made held) →
      transformer.transform source = .ok record → Made record
  | withValues {record : Record} {values : List Value} :
      Made record → values.length = record.schema.fields.length →
      Made (record.withValues values)

private theorem Record.complete_of_ofValues {schema : Schema} {values : List Value}
    {record : Record} (h : ofValues schema values = .ok record) : record.Complete := by
  unfold ofValues at h
  split at h
  · rename_i hlength
    cases h
    exact hlength
  · cases h

theorem Transformer.complete_of_transform {transformer : Transformer}
    {source : Option Record} {out : Record} (h : transformer.transform source = .ok out) :
    out.Complete := by
  cases source with
  | none =>
      cases h
      exact (Record.zeroed_wellTyped _).complete
  | some record =>
      obtain ⟨-, -, rfl⟩ := transform_eq_ok_iff.mp h
      exact List.length_map _

theorem Record.Made.complete {record : Record} (h : record.Made) : record.Complete := by
  cases h with
  | zeroed schema => exact (zeroed_wellTyped schema).complete
  | ofValues hvalues => exact complete_of_ofValues hvalues
  | ofJson hjson => exact (wellTyped_of_ofJson hjson).complete
  | transform _ htransform => exact Transformer.complete_of_transform htransform
  | withValues _ hlength => exact hlength

namespace Transformer

variable {transformer : Transformer} {record : Record} {values : List Value}
  {field : Field} {error : TransformError}

/-! ## Errors of fields -/

/-- Why a transformation stops at `field`. -/
inductive Stops (transformer : Transformer) (values : List Value) (field : Field) :
    TransformError → Prop where
  | fault {error : TransformError} :
      transformer.mapping.policy = .strict → transformer.Fault values field error →
      Stops transformer values field error
  | valueless (found : FieldMatch) :
      transformer.sourceField? field = some found → values[found.index]? = none →
      Stops transformer values field
        (.missingValue transformer.source.name found.field.name)

private theorem error?_unresolved_eq_some_iff {lookup : String} :
    (Outcome.unresolved lookup).error? transformer field = some error ↔
      transformer.mapping.policy = .strict ∧
        error = .unresolvedField transformer.destination.name field.name := by
  unfold Outcome.error?
  cases transformer.mapping.policy <;> simp [eq_comm]

private theorem error?_skipped_eq_some_iff {found : FieldMatch} :
    (Outcome.resolved found .skipped).error? transformer field = some error ↔
      transformer.mapping.policy = .strict ∧
        error = .coercionFailed transformer.destination.name field.name
          found.field.type field.type := by
  unfold Outcome.error?
  cases transformer.mapping.policy <;> simp [eq_comm]

theorem stops_of_fieldError? (h : transformer.fieldError? values field = some error) :
    transformer.Stops values field error := by
  unfold fieldError? at h
  cases hskipped : transformer.mapping.isSkipped field.name with
  | true =>
      rw [outcome_of_skipped hskipped] at h
      cases h
  | false =>
      cases hfound : transformer.sourceField? field with
      | none =>
          rw [outcome_of_unresolved hskipped hfound, error?_unresolved_eq_some_iff] at h
          obtain ⟨hpolicy, rfl⟩ := h
          exact .fault hpolicy (.unresolved hskipped hfound)
      | some found =>
          cases hvalue : values[found.index]? with
          | none =>
              rw [outcome_of_valueless hskipped hfound hvalue] at h
              cases h
              exact .valueless found hfound hvalue
          | some value =>
              rw [outcome_of_resolved hskipped hfound hvalue] at h
              cases hcoercion : value.coerce found.field.type field.type with
              | assigned _ | absent =>
                  rw [hcoercion] at h
                  cases h
              | skipped =>
                  rw [hcoercion, error?_skipped_eq_some_iff] at h
                  obtain ⟨hpolicy, rfl⟩ := h
                  exact .fault hpolicy (.uncoercible found value hskipped hfound hvalue hcoercion)

/-! ## Errors of transformations -/

/-- The errors of a transformation that a strict policy alone gives. -/
inductive Rejects (transformer : Transformer) : TransformError → Prop where
  | unresolvedField {field : Field} :
      field ∈ transformer.destination.fields →
      Rejects transformer (.unresolvedField transformer.destination.name field.name)
  | coercionFailed {field : Field} (source : FieldType) :
      field ∈ transformer.destination.fields →
      Rejects transformer
        (.coercionFailed transformer.destination.name field.name source field.type)

private theorem Fault.rejects (h : transformer.Fault values field error)
    (hfield : field ∈ transformer.destination.fields) : transformer.Rejects error := by
  cases h with
  | unresolved _ _ => exact .unresolvedField hfield
  | uncoercible _ _ _ _ _ _ => exact .coercionFailed _ hfield

theorem rejects_of_transform (hschema : record.schema = transformer.source)
    (hcomplete : record.Complete)
    (h : transformer.transform (some record) = .error error) :
    transformer.mapping.policy = .strict ∧ transformer.Rejects error := by
  rcases transform_eq_error_iff.mp h with
    ⟨hother, -⟩ | ⟨-, before, field, after, hfields, -, herror⟩
  · exact absurd hschema hother
  · have hfield : field ∈ transformer.destination.fields := by simp [hfields]
    cases stops_of_fieldError? herror with
    | fault hpolicy hfault => exact ⟨hpolicy, hfault.rejects hfield⟩
    | valueless found hfound hvalue =>
        obtain ⟨value, hheld⟩ :=
          hcomplete.getElem? (hschema ▸ getElem?_of_sourceField? hfound)
        rw [hvalue] at hheld
        cases hheld

/-- A field that has a source field under the table is never reported as unresolved. -/
theorem transform_ne_unresolvedField {name : String}
    (hfound : ∀ field ∈ transformer.destination.fields, field.name = name →
      ∃ found, transformer.sourceField? field = some found) (owner : String) :
    transformer.transform (some record) ≠ .error (.unresolvedField owner name) := by
  intro h
  rcases transform_eq_error_iff.mp h with
    ⟨-, hmismatch⟩ | ⟨-, before, field, after, hfields, -, herror⟩
  · cases hmismatch
  · cases stops_of_fieldError? herror with
    | fault _ hfault =>
        cases hfault with
        | unresolved _ hnone =>
            obtain ⟨found, hsome⟩ := hfound field (by simp [hfields]) rfl
            cases hsome.symm.trans hnone

theorem transform_ne_missingValue (hcomplete : record.Complete) (name field : String) :
    transformer.transform (some record) ≠ .error (.missingValue name field) := by
  intro h
  by_cases hschema : record.schema = transformer.source
  · obtain ⟨-, hmissing⟩ := rejects_of_transform hschema hcomplete h
    cases hmissing
  · rw [transform_of_other_schema hschema] at h
    cases h

theorem transform_eq_schemaMismatch_iff (hcomplete : record.Complete)
    {expected found : String} :
    transformer.transform (some record) = .error (.schemaMismatch expected found) ↔
      record.schema ≠ transformer.source ∧
        expected = transformer.source.name ∧ found = record.schema.name := by
  by_cases hschema : record.schema = transformer.source
  · simp only [hschema, ne_eq, not_true_eq_false, false_and, iff_false]
    intro h
    obtain ⟨-, hrejects⟩ := rejects_of_transform hschema hcomplete h
    cases hrejects
  · rw [transform_of_other_schema hschema]
    simp [hschema, eq_comm]

end Transformer

end Reshape
