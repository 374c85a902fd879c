import Reshape.Proofs.Coercion.Rendering
import Reshape.Proofs.Floating.Exact
import Reshape.Proofs.Transformer.Outcome
import Reshape.Proofs.Transformer.Run

/-!
# Rules that apply together

More than one rule of coercion applies only to a number or JSON that keeps its type, which
can be copied and converted, and to optional JSON that becomes JSON, which can be converted
and unwrapped.  There the conversion leaves the same value as the other rule, so that it
does not matter which of the two comes first.
-/

namespace Reshape

/-! ## Numbers that keep their type -/

namespace Value

variable {value : Value} {type : FieldType}

private theorem HasType.convert?_numeric (hvalue : value.HasType type)
    (hnumeric : type.isNumeric = true) : value.convert? type = some value := by
  cases hvalue with
  | int type number =>
      show some (Value.int type (type.wrap number.val)) = _
      rw [IntType.wrap_of_holds]
  | f32 number =>
      show some (Value.f32 ((number.convert .double).convert .single)) = _
      rw [Floating.convert_double_single]
  | f64 number =>
      show some (Value.f64 (number.convert .double)) = _
      rw [Floating.convert_same]
  | bool _ | string _ | uuid _ | timestamp _ | json _ | list _ | absent _ | present _ =>
      cases hnumeric

end Value

/-! ## Overlaps -/

namespace FieldType

/-- The pairs of types to which more than one rule applies. -/
inductive Overlaps : FieldType → FieldType → Prop where
  | numeric {type : FieldType} : type.isNumeric = true → Overlaps type type
  | json : Overlaps .json .json
  | optionalJson : Overlaps (.option .json) .json

private theorem overlaps_of_convertible_self {type : FieldType} (h : type.convertible type = true) :
    type.Overlaps type := by
  cases hnumeric : type.isNumeric with
  | true => exact .numeric hnumeric
  | false =>
      rcases (convertible_iff hnumeric).mp h with rfl | ⟨⟨⟩⟩ | ⟨⟨⟩⟩ | ⟨rfl, h⟩ | ⟨rfl, h⟩
      · exact .json
      all_goals cases h

end FieldType

namespace Coercion.Rule

open FieldType

variable {source target : FieldType} {first second rule : Rule}

/-- The rules that are no conversions ask for different depths of options. -/
private theorem eq_of_applies (hfirst : first.applies source target = true)
    (hsecond : second.applies source target = true) (hfirst_ne : first ≠ .convert)
    (hsecond_ne : second ≠ .convert) : first = second := by
  cases first with
  | convert => exact absurd rfl hfirst_ne
  | copy =>
      obtain rfl := applies_copy_iff.mp hfirst
      cases second with
      | copy => rfl
      | convert => exact absurd rfl hsecond_ne
      | unwrap => exact absurd (applies_unwrap_iff.mp hsecond) source.ne_option
      | wrap => exact absurd (applies_wrap_iff.mp hsecond) source.ne_option
  | unwrap =>
      obtain rfl := applies_unwrap_iff.mp hfirst
      cases second with
      | copy => exact absurd (applies_copy_iff.mp hsecond).symm target.ne_option
      | convert => exact absurd rfl hsecond_ne
      | unwrap => rfl
      | wrap => exact absurd (applies_wrap_iff.mp hsecond) target.ne_option_option
  | wrap =>
      obtain rfl := applies_wrap_iff.mp hfirst
      cases second with
      | copy => exact absurd (applies_copy_iff.mp hsecond) source.ne_option
      | convert => exact absurd rfl hsecond_ne
      | unwrap => exact absurd (applies_unwrap_iff.mp hsecond) source.ne_option_option
      | wrap => rfl

private theorem overlaps_of_convertible (hconvertible : source.convertible target = true)
    (happlies : rule.applies source target = true) (hne : rule ≠ .convert) :
    source.Overlaps target := by
  cases rule with
  | copy =>
      obtain rfl := applies_copy_iff.mp happlies
      exact overlaps_of_convertible_self hconvertible
  | convert => exact absurd rfl hne
  | unwrap =>
      obtain rfl := applies_unwrap_iff.mp happlies
      by_cases htarget : target = .json
      · subst htarget
        exact .optionalJson
      · rw [option_convertible htarget] at hconvertible
        cases hconvertible
  | wrap =>
      obtain rfl := applies_wrap_iff.mp happlies
      rw [convertible_option] at hconvertible
      cases hconvertible

theorem exists_overlap_iff :
    (∃ first second : Rule, first ≠ second ∧ first.applies source target = true ∧
      second.applies source target = true) ↔ source.Overlaps target := by
  constructor
  · rintro ⟨first, second, hne, hfirst, hsecond⟩
    by_cases hconvert : first = .convert
    · subst hconvert
      exact overlaps_of_convertible hfirst hsecond hne.symm
    · by_cases hother : second = .convert
      · subst hother
        exact overlaps_of_convertible hsecond hfirst hne
      · exact absurd (eq_of_applies hfirst hsecond hconvert hother) hne
  · rintro (hnumeric | _ | _)
    · exact ⟨.copy, .convert, by decide, applies_copy_iff.mpr rfl,
        by simp [applies, convertible, hnumeric]⟩
    · exact ⟨.copy, .convert, by decide, rfl, rfl⟩
    · exact ⟨.convert, .unwrap, by decide, rfl, rfl⟩

end Coercion.Rule

/-! ## Final values -/

namespace Coercion

/-- What a coercion leaves in the destination field, unless it fails. -/
def finalValue? (target : FieldType) : Coercion → Option Value
  | .assigned value => some value
  | .absent => some (Value.zero target)
  | .skipped => none

end Coercion

namespace Value

open Coercion

variable {value result : Value} {type source target : FieldType} {rule : Rule}

private theorem finalValue?_of_convert?_self (hconvert : value.convert? type = some value)
    (happlies : rule.applies type type = true) :
    (rule.apply value type).finalValue? type = some value := by
  cases rule with
  | copy | wrap => rfl
  | convert =>
      rw [Rule.apply, hconvert]
      rfl
  | unwrap => exact absurd (Rule.applies_unwrap_iff.mp happlies) type.ne_option

private theorem HasType.finalValue?_optionalJson (hvalue : value.HasType (.option .json))
    (happlies : rule.applies (.option .json) .json = true) :
    (rule.apply value .json).finalValue? .json = some (.json value.toJson) := by
  cases rule with
  | copy | wrap => cases happlies
  | convert => rfl
  | unwrap =>
      -- The zero value of JSON is what an absent value is converted to.
      cases hvalue with
      | absent => rfl
      | present hjson =>
          cases hjson with
          | json => rfl

theorem HasType.exists_finalValue? (hvalue : value.HasType source)
    (hoverlaps : source.Overlaps target) :
    ∃ result, ∀ rule : Rule, rule.applies source target = true →
      (rule.apply value target).finalValue? target = some result := by
  cases hoverlaps with
  | numeric hnumeric =>
      exact ⟨value, fun _ =>
        finalValue?_of_convert?_self (hvalue.convert?_numeric hnumeric)⟩
  | json =>
      cases hvalue with
      | json json => exact ⟨.json json, fun _ => finalValue?_of_convert?_self rfl⟩
  | optionalJson => exact ⟨.json value.toJson, fun _ => hvalue.finalValue?_optionalJson⟩

end Value

/-! ## Destination fields -/

namespace Transformer

variable {transformer : Transformer} {values : List Value} {field : Field}
  {found : FieldMatch} {value result : Value}

private theorem result_fillField_of_finalValue?
    (hkept : transformer.mapping.isSkipped field.name = false)
    (hfound : transformer.sourceField? field = some found)
    (hvalue : values[found.index]? = some value)
    (hfinal : (value.coerce found.field.type field.type).finalValue? field.type =
      some result) :
    (transformer.fillField values field).result = .ok result := by
  rw [result_fillField_eq_ok_iff, fieldError?, filled, outcome_of_resolved hkept hfound hvalue]
  cases hcoercion : value.coerce found.field.type field.type with
  | assigned _ | absent =>
      rw [hcoercion] at hfinal
      cases hfinal
      exact ⟨rfl, rfl⟩
  | skipped =>
      rw [hcoercion] at hfinal
      cases hfinal

end Transformer

namespace Coercion

theorem overlapping_rules_agree {value : Value} {source target : FieldType}
    {first second : Rule} (hvalue : value.HasType source)
    (hfirst : first.applies source target = true)
    (hsecond : second.applies source target = true) (hne : first ≠ second) :
    ∃ result,
      (∀ rule : Rule, rule.applies source target = true →
        (rule.apply value target).finalValue? target = some result) ∧
      (value.coerce source target).finalValue? target = some result ∧
      ∀ (transformer : Transformer) (values : List Value) (field : Field)
        (found : FieldMatch),
        transformer.mapping.isSkipped field.name = false →
        transformer.sourceField? field = some found → found.field.type = source →
        values[found.index]? = some value → field.type = target →
        (transformer.fillField values field).result = .ok result := by
  have hoverlaps := Rule.exists_overlap_iff.mp ⟨first, second, hne, hfirst, hsecond⟩
  obtain ⟨result, hresult⟩ := hvalue.exists_finalValue? hoverlaps
  have hcoerce : (value.coerce source target).finalValue? target = some result := by
    obtain ⟨rule, happlies, hrule⟩ := Value.exists_coerce_eq_apply value ⟨first, hfirst⟩
    rw [hrule, hresult rule happlies]
  refine ⟨result, hresult, hcoerce, ?_⟩
  rintro transformer values field found hkept hfound rfl hheld rfl
  exact Transformer.result_fillField_of_finalValue? hkept hfound hheld hcoerce

/-- Optional JSON that is absent is converted to `null` and unwrapped to nothing. -/
theorem overlapping_rules_agree_absent :
    Value.null.HasType (.option .json) ∧
      Rule.convert.applies (.option .json) .json = true ∧
      Rule.unwrap.applies (.option .json) .json = true ∧ Rule.convert ≠ Rule.unwrap ∧
      Rule.convert.apply .null .json = .assigned (.json .null) ∧
      Rule.unwrap.apply .null .json = .absent ∧
      (Rule.unwrap.apply .null .json).finalValue? .json =
        (Rule.convert.apply .null .json).finalValue? .json := by
  have habsent : Value.null.HasType (.option .json) := .absent .json
  have hne : Rule.convert ≠ Rule.unwrap := by decide
  obtain ⟨result, hresult, -, -⟩ := overlapping_rules_agree habsent
    (rfl : Rule.convert.applies (.option .json) .json = true)
    (rfl : Rule.unwrap.applies (.option .json) .json = true) hne
  refine ⟨habsent, rfl, rfl, hne, rfl, rfl, ?_⟩
  rw [hresult .unwrap rfl, hresult .convert rfl]

end Coercion

end Reshape
