import Reshape.Proofs.Coercion.Octets

/-!
# What the types say of a coercion

Only text that is read as a UUID or as a timestamp can turn out not to be one.  Between
any other two types a coercion skips every value of the source type or none of them.
-/

namespace Reshape

/-! ## Types -/

namespace FieldType

/-- The conversions that can fail for a value of the source type. -/
inductive ReadsText : FieldType → FieldType → Prop where
  | uuid : ReadsText .string .uuid
  | timestamp : ReadsText .string .timestamp

def CoercibleTo (source target : FieldType) : Prop :=
  ∃ rule : Coercion.Rule, rule.applies source target = true

private theorem isNumeric_of_convertible {source target : FieldType}
    (h : source.convertible target = true) (htarget : target.isNumeric = true) :
    source.isNumeric = true := by
  cases hsource : source.isNumeric with
  | true => rfl
  | false =>
      cases target <;> simp [isNumeric] at htarget <;>
        cases source <;> simp [convertible, hsource] at h

theorem convertible_iff {source target : FieldType} (htarget : target.isNumeric = false) :
    source.convertible target = true ↔
      target = .json ∨ source.ReadsText target ∨ target.ReadsText source ∨
        (source = .string ∧ target = .list (.int .u8)) ∨
        (source = .list (.int .u8) ∧ target = .string) := by
  constructor
  · intro h
    simp only [convertible, htarget, Bool.and_false, Bool.false_eq_true, if_false] at h
    split at h
    · exact .inl rfl
    · exact .inr (.inl .uuid)
    · exact .inr (.inr (.inl .uuid))
    · exact .inr (.inl .timestamp)
    · exact .inr (.inr (.inl .timestamp))
    · exact .inr (.inr (.inr (.inl ⟨rfl, by simpa using h⟩)))
    · exact .inr (.inr (.inr (.inr ⟨by simpa using h, rfl⟩)))
    · cases h
  · rintro (rfl | ⟨⟨⟩⟩ | ⟨⟨⟩⟩ | ⟨rfl, rfl⟩ | ⟨rfl, rfl⟩)
    · cases source <;> rfl
    all_goals rfl

end FieldType

/-! ## Conversions -/

private theorem Quantity.exists_toValue? (quantity : Quantity) {target : FieldType}
    (h : target.isNumeric = true) : ∃ value, quantity.toValue? target = some value := by
  cases target with
  | int _ | f32 | f64 => exact ⟨_, rfl⟩
  | bool | string | uuid | timestamp | json | list _ | option _ => cases h

namespace Value

private theorem HasType.exists_quantity {value : Value} {type : FieldType}
    (hvalue : value.HasType type) (h : type.isNumeric = true) :
    ∃ quantity, Quantity.ofValue? value = some quantity := by
  cases hvalue with
  | int _ _ | f32 _ | f64 _ => exact ⟨_, rfl⟩
  | bool _ | string _ | uuid _ | timestamp _ | json _ | list _ | absent _ | present _ =>
      cases h

/-- The table of the types agrees with the table of the values. -/
theorem HasType.exists_convert? {value : Value} {source target : FieldType}
    (hvalue : value.HasType source) (hconvertible : source.convertible target = true)
    (hreads : ¬source.ReadsText target) : ∃ result, value.convert? target = some result := by
  unfold convert?
  cases htarget : target.isNumeric with
  | true =>
      have hsource := FieldType.isNumeric_of_convertible hconvertible htarget
      obtain ⟨quantity, hquantity⟩ := hvalue.exists_quantity hsource
      obtain ⟨result, hresult⟩ := quantity.exists_toValue? htarget
      exact ⟨result, by simp [hquantity, hresult]⟩
  | false =>
      simp only [Bool.false_eq_true, if_false]
      rcases (FieldType.convertible_iff htarget).mp hconvertible with
        rfl | htext | ⟨⟨⟩⟩ | ⟨rfl, rfl⟩ | ⟨rfl, rfl⟩
      · exact ⟨.json value.toJson, rfl⟩
      · exact absurd htext hreads
      · cases hvalue with
        | uuid => exact ⟨_, rfl⟩
      · cases hvalue with
        | timestamp => exact ⟨_, rfl⟩
      · cases hvalue with
        | string => exact ⟨_, rfl⟩
      · obtain ⟨octets, rfl⟩ := hvalue.exists_ofOctets
        exact ⟨_, convert?_ofOctets octets⟩

/-! ## Coercions -/

private theorem HasType.apply_rule_ne_skipped {value : Value} {source target : FieldType}
    {rule : Coercion.Rule} (hvalue : value.HasType source)
    (happlies : rule.applies source target = true) (hreads : ¬source.ReadsText target) :
    rule.apply value target ≠ .skipped := by
  cases rule with
  | copy | wrap => simp [Coercion.Rule.apply]
  | convert =>
      obtain ⟨result, hresult⟩ := hvalue.exists_convert? happlies hreads
      simp [Coercion.Rule.apply, hresult]
  | unwrap => cases hnull : value.isNull <;> simp [Coercion.Rule.apply, hnull]

theorem exists_coerce_eq_apply {source target : FieldType} (value : Value)
    (h : source.CoercibleTo target) :
    ∃ rule : Coercion.Rule, rule.applies source target = true ∧
      value.coerce source target = rule.apply value target := by
  obtain ⟨rule, happlies⟩ := h
  have hmem : rule ∈ Coercion.Rule.inOrder := by cases rule <;> decide
  cases hfirst : Coercion.Rule.inOrder.find? (·.applies source target) with
  | none => exact absurd happlies (List.find?_eq_none.mp hfirst rule hmem)
  | some first =>
      have hfirst_applies := List.find?_some hfirst
      exact ⟨first, hfirst_applies, by rw [coerce, hfirst]⟩

theorem HasType.coerce_eq_skipped_iff {value : Value} {source target : FieldType}
    (hvalue : value.HasType source) (hreads : ¬source.ReadsText target) :
    value.coerce source target = .skipped ↔ ¬source.CoercibleTo target := by
  constructor
  · intro hskipped hcoercible
    obtain ⟨rule, happlies, hrule⟩ := exists_coerce_eq_apply value hcoercible
    exact hvalue.apply_rule_ne_skipped happlies hreads (hrule ▸ hskipped)
  · intro hnone
    rcases coerce_eq_skipped_or_apply value source target with
      hskipped | ⟨rule, happlies, -⟩
    · exact hskipped
    · exact absurd ⟨rule, happlies⟩ hnone

end Value

end Reshape
