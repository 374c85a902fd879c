import Reshape.Proofs.Record.Pointwise
import Reshape.Proofs.Registry.Run
import Reshape.Proofs.Transformer.Failure

/-!
# Why a registry does not transform an input

Whatever maps a registry is made of, it refuses an input because it does not know the
names, because an object is not a record of the source schema, or because a strict
policy rejects the record.  Only the errors of an array name the place of an element.
-/

namespace Reshape

/-! ## Objects -/

/-- Why JSON is not a record of `schema`. -/
inductive Record.Misfit (schema : Schema) (json : Json) : TransformError → Prop where
  | notAnObject :
      (∀ members, json ≠ .object members) →
      Misfit schema json (.notAnObject schema.name json.kind)
  | value {members : List (String × Json)} {field : Field} {held : Json}
      {cause : ValueError} :
      json = .object members → field ∈ schema.visible →
      members.lookup field.jsonKey = some held → Value.ofJson field.type held = .error cause →
      Misfit schema json (.value field.name cause)

private theorem Record.misfit_of_ofJson {schema : Schema} {json : Json} {error : TransformError}
    (h : ofJson schema json = .error error) : Misfit schema json error := by
  cases json with
  | object members =>
      obtain ⟨before, field, after, cause, hfields, -, ⟨held, hheld, hcause⟩, rfl⟩ :=
        ofJson_object_eq_error_iff.mp h
      obtain ⟨hkept, hlookup⟩ := Field.held?_eq_some_iff.mp hheld
      have hvisible : field ∈ schema.visible := by
        simp [Schema.visible, hfields, hkept]
      exact .value rfl hvisible hlookup hcause
  | null | bool _ | number _ | string _ | array _ =>
      cases h
      exact .notAnObject (by simp)

/-- Why a transformer does not carry an object over. -/
inductive Transformer.Refuses (transformer : Transformer) (json : Json) :
    TransformError → Prop where
  | misfit {error : TransformError} :
      Record.Misfit transformer.source json error → Refuses transformer json error
  | rejected {error : TransformError} :
      transformer.mapping.policy = .strict → transformer.Rejects error →
      Refuses transformer json error

namespace Registry

variable {transformer : Transformer} {registry : Registry} {source destination : String}
  {input : Json} {error : TransformError}

private theorem refuses_of_runObject {json : Json}
    (h : (runObject transformer json).result = .error error) :
    transformer.Refuses json error := by
  rcases result_runObject_eq_error_iff.mp h with hread | ⟨record, hrecord, htransform⟩
  · exact .misfit (Record.misfit_of_ofJson hread)
  · obtain ⟨hpolicy, hrejects⟩ :=
      Transformer.rejects_of_transform (Record.schema_of_ofJson hrecord)
        (Record.wellTyped_of_ofJson hrecord).complete htransform
    exact .rejected hpolicy hrejects

/-! ## Inputs -/

/-- Why a registry does not transform an input. -/
inductive Refusal (registry : Registry) (source destination : String) (input : Json) :
    TransformError → Prop where
  | config {cause : ConfigError} :
      registry.transformer source destination = .error cause →
      Refusal registry source destination input (.config cause)
  | object {transformer : Transformer} {error : TransformError} :
      registry.transformer source destination = .ok transformer →
      (∀ items, input ≠ .array items) → transformer.Refuses input error →
      Refusal registry source destination input error
  | element {transformer : Transformer} {before after : List Json} {item : Json}
      {cause : TransformError} :
      registry.transformer source destination = .ok transformer →
      input = .array (before ++ item :: after) → transformer.Refuses item cause →
      Refusal registry source destination input (.batchElement before.length cause)

private theorem refusal_of_transformJson
    (h : registry.transformJson source destination input = .error error) :
    registry.Refusal source destination input error := by
  unfold transformJson run at h
  cases hknown : registry.transformer source destination with
  | error cause =>
      rw [hknown] at h
      cases h
      exact .config hknown
  | ok transformer =>
      rw [hknown] at h
      cases input with
      | array items =>
          simp only [runInput, Traced.result_map, Sequence.map_eq_error_iff] at h
          obtain ⟨before, item, after, cause, rfl, -, hitem, rfl⟩ :=
            Transformer.result_runBatch_eq_error_iff.mp h
          exact .element hknown rfl (refuses_of_runObject hitem)
      | null => cases h
      | object _ | bool _ | number _ | string _ =>
          exact .object hknown (by simp) (refuses_of_runObject h)

theorem internal_errors_unreachable :
    (∀ record : Record, record.Made → record.Complete) ∧
    (∀ (transformer : Transformer) (record : Record), record.Made →
      (∀ expected found,
        transformer.transform (some record) = .error (.schemaMismatch expected found) ↔
          record.schema ≠ transformer.source ∧
            expected = transformer.source.name ∧ found = record.schema.name) ∧
      (∀ error, record.schema = transformer.source →
        transformer.transform (some record) = .error error →
          transformer.mapping.policy = .strict ∧ transformer.Rejects error) ∧
      ∀ name field,
        transformer.transform (some record) ≠ .error (.missingValue name field)) ∧
    ∀ (registry : Registry) (source destination : String) (input : Json)
      (error : TransformError),
      registry.transformJson source destination input = .error error →
        registry.Refusal source destination input error := by
  refine ⟨fun record => Record.Made.complete, ?_, ?_⟩
  · intro transformer record hmade
    refine ⟨fun expected found => ?_, fun error hschema => ?_, ?_⟩
    · exact Transformer.transform_eq_schemaMismatch_iff hmade.complete
    · exact Transformer.rejects_of_transform hschema hmade.complete
    · exact Transformer.transform_ne_missingValue hmade.complete
  · intro registry source destination input error
    exact refusal_of_transformJson

/-- A registry that no configuration gives, with a record of a value of another type. -/
theorem internal_errors_unreachable_mistyped :
    let row : Schema := ⟨"Row", [⟨"id", .int .i64, []⟩]⟩
    let cell : Schema := ⟨"Cell", [⟨"id", .uuid, []⟩]⟩
    let transformer : Transformer := ⟨row, cell, { policy := .strict }⟩
    let record := (Record.zeroed row).withValues [.bool true]
    let registry : Registry := ⟨∅, (∅ : Std.ExtHashMap (String × String) Transformer).insert
      ("left", "right") transformer⟩
    let cause : TransformError := .coercionFailed "Cell" "id" (.int .i64) .uuid
    record.Made ∧ record.Complete ∧
      transformer.transform (some record) = .error cause ∧ transformer.Rejects cause ∧
      (∀ name field,
        transformer.transform (some record) ≠ .error (.missingValue name field)) ∧
      registry.transformJson "left" "right" (.array [.object []]) =
        .error (.batchElement 0 cause) ∧
      registry.Refusal "left" "right" (.array [.object []]) (.batchElement 0 cause) := by
  intro row cell transformer record registry cause
  obtain ⟨hcomplete, htransform, htransformJson⟩ := internal_errors_unreachable
  have hmade : record.Made := .withValues (.zeroed row) rfl
  obtain ⟨-, hrejects, hpresent⟩ := htransform transformer record hmade
  have hcause : transformer.transform (some record) = .error cause := by
    with_unfolding_all rfl
  have hknown : registry.transformer "left" "right" = .ok transformer := by
    simp [registry, Registry.transformer]
  have hjson : registry.transformJson "left" "right" (.array [.object []]) =
      .error (.batchElement 0 cause) := by
    rw [transformJson, run, hknown]
    with_unfolding_all rfl
  exact ⟨hmade, hcomplete record hmade, hcause, (hrejects cause rfl hcause).2, hpresent,
    hjson, htransformJson _ _ _ _ _ hjson⟩

end Registry

end Reshape
