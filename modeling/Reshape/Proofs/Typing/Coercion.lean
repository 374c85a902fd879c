import Reshape.Coercion
import Reshape.Proofs.Typing.Basic

/-!
# Coercions keep values well typed

Whichever rule coerces a value of the source type, what it assigns belongs to the
target type.
-/

namespace Reshape

/-! ## Conversions -/

private theorem Quantity.hasType_of_toValue? {quantity : Quantity} {target : FieldType}
    {value : Value} (h : quantity.toValue? target = some value) :
    value.HasType target := by
  cases target <;> simp only [toValue?] at h <;> cases h <;> constructor

private theorem FieldType.item_of_convertible_list {source item : FieldType}
    (h : source.convertible (.list item) = true) : item = .int .u8 := by
  cases source <;> simp [convertible, isNumeric] at h
  exact h

namespace Value

theorem ofOctet_hasType (octet : UInt8) : (ofOctet octet).HasType (.int .u8) :=
  .int .u8 _

theorem hasType_of_convert? {value result : Value} {source target : FieldType}
    (happlies : source.convertible target = true)
    (h : value.convert? target = some result) : result.HasType target := by
  unfold convert? at h
  split at h
  · obtain ⟨quantity, -, hquantity⟩ := Option.bind_eq_some_iff.mp h
    exact Quantity.hasType_of_toValue? hquantity
  · split at h
    · cases h
      exact .json _
    · obtain ⟨parsed, -, rfl⟩ := Option.map_eq_some_iff.mp h
      exact .uuid parsed
    · cases h
      exact .string _
    · obtain ⟨parsed, -, rfl⟩ := Option.map_eq_some_iff.mp h
      exact .timestamp parsed
    · cases h
      exact .string _
    · cases h
      obtain rfl := FieldType.item_of_convertible_list happlies
      refine .list fun octet hoctet => ?_
      obtain ⟨code, -, rfl⟩ := List.mem_map.mp hoctet
      exact ofOctet_hasType code
    · obtain ⟨octets, -, rfl⟩ := Option.map_eq_some_iff.mp h
      exact .string _
    · cases h

end Value

/-! ## Rules -/

namespace Coercion.Rule

variable {source target : FieldType}

theorem applies_copy_iff : copy.applies source target = true ↔ source = target := by
  simp [applies]

theorem applies_unwrap_iff :
    unwrap.applies source target = true ↔ source = .option target := by
  simp [applies]

theorem applies_wrap_iff : wrap.applies source target = true ↔ target = .option source := by
  simp [applies]

theorem apply_convert_eq_assigned_iff {value result : Value} :
    convert.apply value target = .assigned result ↔ value.convert? target = some result := by
  rw [apply]
  cases value.convert? target with
  | none => simp
  | some converted => simp

end Coercion.Rule

namespace Value

theorem HasType.apply_rule {value result : Value} {source target : FieldType}
    {rule : Coercion.Rule} (hvalue : value.HasType source)
    (happlies : rule.applies source target = true)
    (h : rule.apply value target = .assigned result) : result.HasType target := by
  cases rule with
  | copy =>
      obtain rfl := Coercion.Rule.applies_copy_iff.mp happlies
      cases h
      exact hvalue
  | convert =>
      exact hasType_of_convert? happlies (Coercion.Rule.apply_convert_eq_assigned_iff.mp h)
  | unwrap =>
      obtain rfl := Coercion.Rule.applies_unwrap_iff.mp happlies
      simp only [Coercion.Rule.apply] at h
      split at h
      · cases h
      · rename_i hnull
        cases h
        rcases HasType.option_iff.mp hvalue with rfl | hvalue
        · exact absurd rfl hnull
        · exact hvalue
  | wrap =>
      obtain rfl := Coercion.Rule.applies_wrap_iff.mp happlies
      cases h
      exact .present hvalue

/-- A coercion that does not skip the value is the work of a rule that applies. -/
theorem coerce_eq_skipped_or_apply (value : Value) (source target : FieldType) :
    value.coerce source target = .skipped ∨
      ∃ rule : Coercion.Rule, rule.applies source target = true ∧
        value.coerce source target = rule.apply value target := by
  unfold coerce
  cases h : Coercion.Rule.inOrder.find? (·.applies source target) with
  | none => exact .inl rfl
  | some rule =>
      have happlies := List.find?_some h
      exact .inr ⟨rule, happlies, rfl⟩

/-- Only a value that keeps its type is copied where it could be converted. -/
theorem coerce_of_convertible (value : Value) {source target : FieldType}
    (hne : source ≠ target) (h : source.convertible target = true) :
    value.coerce source target = Coercion.Rule.convert.apply value target := by
  simp [coerce, Coercion.Rule.inOrder, Coercion.Rule.applies, hne, h]

theorem HasType.coerce {value result : Value} {source target : FieldType}
    (hvalue : value.HasType source)
    (h : value.coerce source target = .assigned result) : result.HasType target := by
  rcases coerce_eq_skipped_or_apply value source target with
    hskipped | ⟨rule, happlies, hrule⟩
  · rw [hskipped] at h
    cases h
  · exact hvalue.apply_rule happlies (hrule ▸ h)

end Value

end Reshape
