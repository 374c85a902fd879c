import Reshape.Proofs.Schema.Lookup
import Reshape.Proofs.Typing.Coercion
import Reshape.Transformer

/-!
# What comes of a destination field

A field is left out, or has no source field, or is coerced from the value of the field
that its lookup finds.  A record with a value for each of its fields has one for the
field found.
-/

namespace Reshape.Transformer

variable {transformer : Transformer} {values : List Value} {field : Field}

def sourceField? (transformer : Transformer) (field : Field) : Option FieldMatch :=
  transformer.source.resolve? (transformer.mapping.sourceName field.name)

theorem outcome_of_skipped (h : transformer.mapping.isSkipped field.name = true) :
    transformer.outcome values field = .leftOut := by
  simp [outcome, h]

theorem outcome_of_unresolved (hkept : transformer.mapping.isSkipped field.name = false)
    (h : transformer.sourceField? field = none) :
    transformer.outcome values field =
      .unresolved (transformer.mapping.sourceName field.name) := by
  unfold sourceField? at h
  simp [outcome, hkept, h]

theorem outcome_of_valueless (hkept : transformer.mapping.isSkipped field.name = false)
    {found : FieldMatch} (hfound : transformer.sourceField? field = some found)
    (hvalue : values[found.index]? = none) :
    transformer.outcome values field = .valueless found := by
  unfold sourceField? at hfound
  simp [outcome, hkept, hfound, hvalue]

theorem outcome_of_resolved (hkept : transformer.mapping.isSkipped field.name = false)
    {found : FieldMatch} (hfound : transformer.sourceField? field = some found)
    {value : Value} (hvalue : values[found.index]? = some value) :
    transformer.outcome values field =
      .resolved found (value.coerce found.field.type field.type) := by
  unfold sourceField? at hfound
  simp [outcome, hkept, hfound, hvalue]

theorem getElem?_of_sourceField? {found : FieldMatch}
    (h : transformer.sourceField? field = some found) :
    transformer.source.fields[found.index]? = some found.field :=
  Schema.getElem?_of_resolve? h

/-- The three things that may come of a field where the source record is complete. -/
theorem outcome_cases {record : Record} (hschema : record.schema = transformer.source)
    (hcomplete : record.Complete) (field : Field) :
    (transformer.mapping.isSkipped field.name = true ∧
        transformer.outcome record.values field = .leftOut) ∨
      (transformer.mapping.isSkipped field.name = false ∧
        transformer.sourceField? field = none ∧
        transformer.outcome record.values field =
          .unresolved (transformer.mapping.sourceName field.name)) ∨
      (transformer.mapping.isSkipped field.name = false ∧
        ∃ found value, transformer.sourceField? field = some found ∧
          record.values[found.index]? = some value ∧
          transformer.outcome record.values field =
            .resolved found (value.coerce found.field.type field.type)) := by
  cases hskipped : transformer.mapping.isSkipped field.name with
  | true => exact .inl ⟨rfl, outcome_of_skipped hskipped⟩
  | false =>
      cases hfound : transformer.sourceField? field with
      | none => exact .inr (.inl ⟨rfl, rfl, outcome_of_unresolved hskipped hfound⟩)
      | some found =>
          obtain ⟨value, hvalue⟩ :=
            hcomplete.getElem? (hschema ▸ getElem?_of_sourceField? hfound)
          exact .inr (.inr ⟨rfl, found, value, rfl, hvalue,
            outcome_of_resolved hskipped hfound hvalue⟩)

end Reshape.Transformer
