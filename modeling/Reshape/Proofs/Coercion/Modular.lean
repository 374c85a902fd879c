import Mathlib.Data.Int.ModEq
import Reshape.Proofs.Coercion.Embedding

/-!
# Integers modulo the width of a type

An integer that is coerced to an integer type becomes the only number of that type that is
congruent to it modulo the width.  A number that the type holds stays what it is, and a
type that is at least as wide as another does not change what becomes of an integer there.
-/

namespace Reshape

/-! ## Residues -/

namespace IntType

variable {type : IntType}

theorem residue_modEq (type : IntType) (number : Int) :
    type.residue number ≡ number [ZMOD 2 ^ type.width] := by
  obtain ⟨factor, hfactor⟩ := type.exists_residue_eq number
  rw [hfactor, Int.modEq_iff_dvd]
  exact ⟨-factor, by rw [Int.mul_neg, Int.mul_comm]; omega⟩

private theorem residue_congr {left right : Int} (h : left ≡ right [ZMOD 2 ^ type.width]) :
    type.residue left = type.residue right := by
  have hshift := h.sub_right type.lowest
  rw [residue, residue, hshift.eq]

theorem residue_eq_iff {number held : Int} :
    type.residue number = held ↔
      type.Holds held ∧ held ≡ number [ZMOD 2 ^ type.width] := by
  constructor
  · rintro rfl
    exact ⟨type.holds_residue number, type.residue_modEq number⟩
  · rintro ⟨hholds, hcongruent⟩
    rw [← residue_congr hcongruent, residue_of_holds hholds]

end IntType

/-! ## Coercions -/

namespace Value

theorem coerce_int_eq (source target : IntType) (value : source.Carrier) :
    (Value.int source value).coerce (.int source) (.int target) =
      .assigned (.int target (target.wrap value.val)) := by
  by_cases h : source = target
  · subst h
    rw [coerce_same, IntType.wrap_of_holds]
  · exact coerce_int value h

theorem coerce_int_modular (source target last : IntType) (value : source.Carrier) :
    ∃ result : target.Carrier,
      (Value.int source value).coerce (.int source) (.int target) =
        .assigned (.int target result) ∧
      target.Holds result.val ∧ result.val ≡ value.val [ZMOD 2 ^ target.width] ∧
      (target.Holds value.val → result.val = value.val) ∧
      (source.width ≤ target.width →
        (Value.int target result).coerce (.int target) (.int source) =
          .assigned (.int source value)) ∧
      (last.width ≤ target.width →
        (Value.int target result).coerce (.int target) (.int last) =
          (Value.int source value).coerce (.int source) (.int last)) := by
  obtain ⟨hholds, hcongruent⟩ := IntType.residue_eq_iff.mp (Eq.refl (target.residue value.val))
  refine ⟨target.wrap value.val, coerce_int_eq source target value, hholds, hcongruent,
    IntType.residue_of_holds, ?_, ?_⟩
  · intro hwidth
    rw [coerce_int_eq, IntType.wrap_wrap hwidth, IntType.wrap_of_holds]
  · intro hwidth
    rw [coerce_int_eq, coerce_int_eq, IntType.wrap_wrap hwidth]

/-- The lowest number of a signed type, in the unsigned type of its width and from there. -/
theorem coerce_int_modular_lowest :
    let lowest : IntType.i64.Carrier := ⟨-2 ^ 63, by decide⟩
    ∃ result : IntType.u64.Carrier,
      (Value.int .i64 lowest).coerce (.int .i64) (.int .u64) =
        .assigned (.int .u64 result) ∧
      result.val = 2 ^ 63 ∧
      (Value.int .u64 result).coerce (.int .u64) (.int .i64) =
        .assigned (.int .i64 lowest) ∧
      (Value.int .u64 result).coerce (.int .u64) (.int .i8) =
        .assigned (.int .i8 IntType.i8.zero) := by
  intro lowest
  obtain ⟨result, hresult, hholds, hcongruent, -, hback, hnarrow⟩ :=
    coerce_int_modular .i64 .u64 .i8 lowest
  have hvalue : result.val = 2 ^ 63 :=
    (IntType.residue_eq_iff.mpr ⟨hholds, hcongruent⟩).symm
  exact ⟨result, hresult, hvalue, hback (by decide), (hnarrow (by decide)).trans rfl⟩

end Value

end Reshape
