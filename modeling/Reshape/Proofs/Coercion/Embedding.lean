import Reshape.Proofs.Typing.Coercion

/-!
# Coercions that lose nothing

A type is embedded in itself, in an option of it, and, between integers, in a type
that is at least as wide, whatever their signs.  A value coerced to a type that its own
is embedded in can be coerced back, where an absent option comes back as absent.
-/

namespace Reshape

/-! ## Integers -/

namespace IntType

theorem residue_of_holds {type : IntType} {number : Int} (h : type.Holds number) :
    type.residue number = number := by
  obtain ⟨hlow, hhigh⟩ := h
  rw [highest_eq] at hhigh
  rw [residue, Int.emod_eq_of_lt (by omega) (by omega)]
  omega

private theorem residue_add_mul (type : IntType) (number factor : Int) :
    type.residue (number + factor * 2 ^ type.width) = type.residue number := by
  have hshift : number + factor * 2 ^ type.width - type.lowest =
      number - type.lowest + factor * 2 ^ type.width := by omega
  rw [residue, residue, hshift, Int.add_mul_emod_self_right]

theorem exists_residue_eq (type : IntType) (number : Int) :
    ∃ factor : Int, type.residue number = number + factor * 2 ^ type.width := by
  refine ⟨-((number - type.lowest) / 2 ^ type.width), ?_⟩
  have hdivision := Int.emod_add_mul_ediv (number - type.lowest) (2 ^ type.width)
  rw [residue, Int.neg_mul, Int.mul_comm _ (2 ^ type.width)]
  omega

theorem residue_residue {narrow wide : IntType} (hwidth : narrow.width ≤ wide.width)
    (number : Int) : narrow.residue (wide.residue number) = narrow.residue number := by
  obtain ⟨factor, hfactor⟩ := wide.exists_residue_eq number
  have hwide : (2 : Int) ^ wide.width =
      2 ^ (wide.width - narrow.width) * 2 ^ narrow.width := by
    rw [← Int.pow_add, Nat.sub_add_cancel hwidth]
  rw [hfactor, hwide, ← Int.mul_assoc, residue_add_mul]

theorem wrap_eq_of_holds {type : IntType} {number : Int} (h : type.Holds number) :
    type.wrap number = ⟨number, h⟩ :=
  Subtype.ext (residue_of_holds h)

theorem wrap_of_holds (type : IntType) (value : type.Carrier) :
    type.wrap value.val = value :=
  wrap_eq_of_holds value.property

theorem wrap_wrap {narrow wide : IntType} (hwidth : narrow.width ≤ wide.width)
    (number : Int) : narrow.wrap (wide.wrap number).val = narrow.wrap number :=
  Subtype.ext (residue_residue hwidth number)

end IntType

/-! ## Types -/

namespace FieldType

/-- The types that values of a type can be coerced to and back. -/
inductive EmbedsIn : FieldType → FieldType → Prop where
  | same (type : FieldType) : EmbedsIn type type
  | widen {narrow wide : IntType} :
      narrow.width ≤ wide.width → EmbedsIn (.int narrow) (.int wide)
  | wrap (type : FieldType) : EmbedsIn type (.option type)

theorem ne_option (type : FieldType) : type ≠ .option type := by
  intro h
  have hsize := congrArg sizeOf h
  simp at hsize

theorem ne_option_option (type : FieldType) : type ≠ .option (.option type) := by
  intro h
  have hsize := congrArg sizeOf h
  simp at hsize
  omega

theorem convertible_option (source item : FieldType) :
    source.convertible (.option item) = false := by
  cases source <;> rfl

theorem option_convertible {item target : FieldType} (h : target ≠ .json) :
    FieldType.convertible (.option item) target = false := by
  cases target <;> first | rfl | exact absurd rfl h

end FieldType

/-! ## Values -/

namespace Value

theorem coerce_same (value : Value) (type : FieldType) :
    value.coerce type type = .assigned value := by
  simp [coerce, Coercion.Rule.inOrder, Coercion.Rule.applies, Coercion.Rule.apply]

theorem coerce_int {source target : IntType} (value : source.Carrier)
    (h : source ≠ target) :
    (Value.int source value).coerce (.int source) (.int target) =
      .assigned (.int target (target.wrap value.val)) := by
  rw [coerce_of_convertible _ (mt FieldType.int.inj h) rfl]
  rfl

theorem coerce_wrap (value : Value) (type : FieldType) :
    value.coerce type (.option type) = .assigned value := by
  simp [coerce, Coercion.Rule.inOrder, Coercion.Rule.applies, Coercion.Rule.apply,
    FieldType.convertible_option, type.ne_option, type.ne_option_option]

theorem coerce_unwrap (value : Value) {type : FieldType} (h : type ≠ .json) :
    value.coerce (.option type) type =
      if value.isNull then .absent else .assigned value := by
  simp [coerce, Coercion.Rule.inOrder, Coercion.Rule.applies, Coercion.Rule.apply,
    FieldType.option_convertible h, type.ne_option.symm]

private theorem coerce_option_json (json : Json) :
    (Value.json json).coerce (.option .json) .json = .assigned (.json json) := rfl

/-- Nothing is assigned on the way back only where the zero value was carried. -/
theorem HasType.coerce_back {value : Value} {source target : FieldType}
    (hvalue : value.HasType source) (hembeds : source.EmbedsIn target) :
    ∃ carried, value.coerce source target = .assigned carried ∧
      (carried.coerce target source = .assigned value ∨
        carried.coerce target source = .absent ∧ value = Value.zero source) := by
  cases hembeds with
  | same => exact ⟨value, coerce_same value source, .inl (coerce_same value source)⟩
  | @widen narrow wide hwidth =>
      cases hvalue with
      | int _ number =>
          by_cases hsame : narrow = wide
          · subst hsame
            exact ⟨_, coerce_same _ _, .inl (coerce_same _ _)⟩
          · refine ⟨_, coerce_int number hsame, .inl ?_⟩
            rw [coerce_int _ (Ne.symm hsame), IntType.wrap_wrap hwidth, IntType.wrap_of_holds]
  | wrap =>
      refine ⟨value, coerce_wrap value source, ?_⟩
      by_cases hjson : source = .json
      · subst hjson
        cases hvalue with
        | json json => exact .inl (coerce_option_json json)
      · rw [coerce_unwrap value hjson]
        cases hnull : value.isNull with
        | false => exact .inl rfl
        | true =>
            obtain rfl := isNull_iff.mp hnull
            obtain ⟨item, rfl⟩ := hvalue.isOption_of_null
            exact .inr ⟨rfl, rfl⟩

end Value

end Reshape
