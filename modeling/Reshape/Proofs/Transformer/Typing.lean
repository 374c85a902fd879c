import Reshape.Proofs.Transformer.Outcome
import Reshape.Proofs.Transformer.Run

/-!
# Transformations keep records well typed

What a transformer makes of a well-typed record is a well-typed record of the
destination schema.
-/

namespace Reshape.Transformer

variable {transformer : Transformer} {record out : Record}

private theorem assigned?_hasType (hrecord : record.WellTyped)
    (hschema : record.schema = transformer.source) {field : Field} {value : Value}
    (h : (transformer.outcome record.values field).assigned? = some value) :
    value.HasType field.type := by
  rcases outcome_cases hschema hrecord.complete field with
    ⟨-, houtcome⟩ | ⟨-, -, houtcome⟩ | ⟨-, found, source, hfound, hsource, houtcome⟩
  · rw [houtcome] at h
    cases h
  · rw [houtcome] at h
    cases h
  · rw [houtcome] at h
    have hfield : record.schema.fields[found.index]? = some found.field :=
      hschema ▸ getElem?_of_sourceField? hfound
    cases hcoercion : source.coerce found.field.type field.type with
    | assigned result =>
        rw [hcoercion] at h
        cases h
        exact (hrecord.hasType hfield hsource).coerce hcoercion
    | absent | skipped =>
        rw [hcoercion] at h
        cases h

theorem filled_hasType (hrecord : record.WellTyped)
    (hschema : record.schema = transformer.source) (field : Field) :
    (transformer.filled record.values field).HasType field.type := by
  unfold filled
  cases h : (transformer.outcome record.values field).assigned? with
  | none => exact Value.zero_hasType field.type
  | some value => exact assigned?_hasType hrecord hschema h

theorem schema_of_transform {source : Option Record}
    (h : transformer.transform source = .ok out) :
    out.schema = transformer.destination := by
  cases source with
  | none =>
      cases h
      rfl
  | some record =>
      obtain ⟨-, -, rfl⟩ := transform_eq_ok_iff.mp h
      rfl

/-- Where there is a record to transform, it has to be well typed. -/
theorem wellTyped_of_transform {source : Option Record}
    (hsource : ∀ record, source = some record → record.WellTyped)
    (h : transformer.transform source = .ok out) : out.WellTyped := by
  cases source with
  | none =>
      cases h
      exact Record.zeroed_wellTyped _
  | some record =>
      obtain ⟨hschema, -, rfl⟩ := transform_eq_ok_iff.mp h
      exact Record.wellTyped_map fun field _ =>
        filled_hasType (hsource record rfl) hschema field

end Reshape.Transformer
