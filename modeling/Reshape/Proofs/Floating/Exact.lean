import Mathlib.Tactic.Ring
import Reshape.Floating.Rounding

/-!
# Exact rounding

A magnitude that a format has is rounded to its own rank.  Doubling leads from one
magnitude of a format to another, as long as none is too large, so that a number of
single precision is one of double precision as well and comes back unchanged.
-/

namespace Reshape.Floating

private theorem roundHalfEven_mul (quotient : Nat) {denominator : Nat} (h : 0 < denominator) :
    roundHalfEven (quotient * denominator) denominator = quotient := by
  simp [roundHalfEven, Nat.mul_div_cancel quotient h, h]

namespace Format

variable {format : Format} {rank : Nat}

/-! ## Ranks and magnitudes -/

theorem units_of_lt (h : rank < 2 ^ format.fractionBits) : format.units rank = rank := by
  simp [units, h]

theorem units_of_normal (exponent : Nat) {fraction : Nat}
    (h : fraction < 2 ^ format.fractionBits) :
    format.units ((exponent + 1) * 2 ^ format.fractionBits + fraction) =
      (2 ^ format.fractionBits + fraction) * 2 ^ exponent := by
  have himplicit : 0 < 2 ^ format.fractionBits := Nat.two_pow_pos _
  have hnormal : ¬ (exponent + 1) * 2 ^ format.fractionBits + fraction <
      2 ^ format.fractionBits := by
    rw [Nat.succ_mul]
    omega
  have hquotient : ((exponent + 1) * 2 ^ format.fractionBits + fraction) /
      2 ^ format.fractionBits = exponent + 1 := by
    rw [Nat.mul_comm, Nat.mul_add_div himplicit, Nat.div_eq_of_lt h, Nat.add_zero]
  have hrest : ((exponent + 1) * 2 ^ format.fractionBits + fraction) %
      2 ^ format.fractionBits = fraction := by
    rw [Nat.mul_add_mod_self_right, Nat.mod_eq_of_lt h]
  simp only [units, if_neg hnormal, hquotient, hrest, Nat.add_sub_cancel]

/-- Below the first normal rank are the ranks with exponent field zero. -/
theorem rank_cases (format : Format) (rank : Nat) :
    rank < 2 ^ format.fractionBits ∨
      ∃ exponent fraction, fraction < 2 ^ format.fractionBits ∧
        rank = (exponent + 1) * 2 ^ format.fractionBits + fraction := by
  have himplicit : 0 < 2 ^ format.fractionBits := Nat.two_pow_pos _
  rcases Nat.lt_or_ge rank (2 ^ format.fractionBits) with hsmall | hnormal
  · exact .inl hsmall
  · have hexponent : 0 < rank / 2 ^ format.fractionBits := Nat.div_pos hnormal himplicit
    refine .inr ⟨rank / 2 ^ format.fractionBits - 1, rank % 2 ^ format.fractionBits,
      Nat.mod_lt _ himplicit, ?_⟩
    rw [Nat.sub_add_cancel hexponent, Nat.div_add_mod']

private theorem exists_units_double (format : Format) (rank : Nat) :
    ∃ doubled, format.units doubled = 2 * format.units rank := by
  rcases format.rank_cases rank with hsmall | ⟨exponent, fraction, hfraction, rfl⟩
  · rw [units_of_lt hsmall]
    rcases Nat.lt_or_ge (2 * rank) (2 ^ format.fractionBits) with hstill | hnormal
    · exact ⟨2 * rank, units_of_lt hstill⟩
    · have hfraction : 2 * rank - 2 ^ format.fractionBits < 2 ^ format.fractionBits := by
        omega
      refine ⟨_, (units_of_normal 0 hfraction).trans ?_⟩
      omega
  · refine ⟨_, (units_of_normal (exponent + 1) hfraction).trans ?_⟩
    rw [units_of_normal exponent hfraction, Nat.pow_succ]
    ring

private theorem exists_units_mul_two_pow (format : Format) (rank exponent : Nat) :
    ∃ scaled, format.units scaled = format.units rank * 2 ^ exponent := by
  induction exponent with
  | zero => exact ⟨rank, by simp⟩
  | succ exponent ih =>
      obtain ⟨scaled, hscaled⟩ := ih
      obtain ⟨doubled, hdoubled⟩ := format.exists_units_double scaled
      refine ⟨doubled, ?_⟩
      rw [hdoubled, hscaled, Nat.pow_succ]
      ring

/-! ## Rounding a magnitude of the format -/

private theorem log2_normal (exponent : Nat) {fraction : Nat}
    (h : fraction < 2 ^ format.fractionBits) :
    ((2 ^ format.fractionBits + fraction) * 2 ^ exponent).log2 =
      format.fractionBits + exponent := by
  have himplicit : 0 < 2 ^ format.fractionBits := Nat.two_pow_pos _
  have hexponent : 0 < 2 ^ exponent := Nat.two_pow_pos _
  have hnonzero : (2 ^ format.fractionBits + fraction) * 2 ^ exponent ≠ 0 :=
    Nat.ne_of_gt (Nat.mul_pos (by omega) hexponent)
  rw [Nat.log2_eq_iff hnonzero]
  constructor
  · rw [Nat.pow_add]
    exact Nat.mul_le_mul_right _ (Nat.le_add_right _ _)
  · rw [Nat.add_right_comm, Nat.pow_add]
    refine Nat.mul_lt_mul_of_pos_right ?_ hexponent
    rw [Nat.pow_succ]
    omega

theorem nearestRank_units (format : Format) (rank : Nat) {scale : Nat}
    (hscale : 0 < scale) :
    format.nearestRank (format.units rank * scale) scale = rank := by
  simp only [nearestRank, Nat.mul_div_cancel _ hscale]
  rcases format.rank_cases rank with hsmall | ⟨exponent, fraction, hfraction, rfl⟩
  · rw [units_of_lt hsmall]
    have hlog : rank.log2 - format.fractionBits = 0 := by
      rcases Nat.eq_zero_or_pos rank with rfl | hpositive
      · simp
      · have := (Nat.log2_lt (Nat.ne_of_gt hpositive)).mpr hsmall
        omega
    simp [hlog, roundHalfEven_mul rank hscale]
  · rw [units_of_normal exponent hfraction, log2_normal exponent hfraction,
      Nat.add_sub_cancel_left]
    have hshifted : (2 ^ format.fractionBits + fraction) * 2 ^ exponent * scale =
        (2 ^ format.fractionBits + fraction) * (scale * 2 ^ exponent) := by ring
    rw [hshifted, roundHalfEven_mul _ (Nat.mul_pos hscale (Nat.two_pow_pos _))]
    ring

/-! ## The range of a format -/

private theorem units_lt (h : rank < format.topRank) :
    format.units rank < 2 ^ (format.fractionBits + (2 ^ format.exponentBits - 1)) := by
  rw [topRank] at h
  rcases format.rank_cases rank with hsmall | ⟨exponent, fraction, hfraction, rfl⟩
  · rw [units_of_lt hsmall]
    exact Nat.lt_of_lt_of_le hsmall (Nat.pow_le_pow_right (by decide) (by omega))
  · have hexponent : exponent + 1 < 2 ^ format.exponentBits - 1 :=
      Nat.lt_of_mul_lt_mul_right (Nat.lt_of_le_of_lt (Nat.le_add_right _ _) h)
    rw [units_of_normal exponent hfraction]
    calc (2 ^ format.fractionBits + fraction) * 2 ^ exponent
        < 2 ^ (format.fractionBits + 1) * 2 ^ exponent := by
          refine Nat.mul_lt_mul_of_pos_right ?_ (Nat.two_pow_pos _)
          rw [Nat.pow_succ]
          omega
      _ = 2 ^ (format.fractionBits + (exponent + 1)) := by
          rw [← Nat.pow_add, Nat.add_right_comm, Nat.add_assoc]
      _ ≤ 2 ^ (format.fractionBits + (2 ^ format.exponentBits - 1)) :=
          Nat.pow_le_pow_right (by decide) (by omega)

private theorem lt_topRank (h : format.units rank <
    2 ^ (format.fractionBits + (2 ^ format.exponentBits - 2))) :
    rank < format.topRank := by
  have himplicit : 0 < 2 ^ format.fractionBits := Nat.two_pow_pos _
  have htop := format.topRank_pos
  rw [topRank] at htop ⊢
  rcases format.rank_cases rank with hsmall | ⟨exponent, fraction, hfraction, rfl⟩
  · exact Nat.lt_of_lt_of_le hsmall (Nat.le_mul_of_pos_left _ (Nat.pos_of_mul_pos_right htop))
  · rw [units_of_normal exponent hfraction] at h
    have hpower : 2 ^ (format.fractionBits + exponent) <
        2 ^ (format.fractionBits + (2 ^ format.exponentBits - 2)) := by
      refine Nat.lt_of_le_of_lt ?_ h
      rw [Nat.pow_add]
      exact Nat.mul_le_mul_right _ (Nat.le_add_right _ _)
    have hexponent := (Nat.pow_lt_pow_iff_right (by decide)).mp hpower
    calc (exponent + 1) * 2 ^ format.fractionBits + fraction
        < (exponent + 2) * 2 ^ format.fractionBits := by
          rw [Nat.succ_mul (exponent + 1)]
          omega
      _ ≤ (2 ^ format.exponentBits - 1) * 2 ^ format.fractionBits :=
          Nat.mul_le_mul_right _ (by omega)

end Format

/-! ## Conversions -/

/-- A number that the target format has as well is converted to it. -/
theorem convert_finite {source target : Format} {number : Finite source} {held : Finite target}
    (hnegative : held.negative = number.negative)
    (hunits : number.units * 2 ^ target.unitBits = held.units * 2 ^ source.unitBits) :
    (Floating.finite number).convert target = .finite held := by
  obtain ⟨negative, rank, hrank⟩ := held
  obtain rfl : negative = number.negative := hnegative
  have hnearest : target.nearestRank (number.units * 2 ^ target.unitBits)
      (2 ^ source.unitBits) = rank := by
    rw [hunits]
    exact target.nearestRank_units rank (Nat.two_pow_pos _)
  simp only [convert, ofRatio, hnearest, ofRank, dif_pos hrank]

theorem convert_same {format : Format} (number : Floating format) :
    number.convert format = number := by
  cases number with
  | nan | infinite _ => rfl
  | finite number => exact convert_finite rfl rfl

/-! ## Single and double precision -/

private theorem Format.exists_double_units (rank : Nat) (exponent : Nat) :
    ∃ wide, Format.double.units wide = Format.single.units rank * 2 ^ exponent := by
  rcases Format.single.rank_cases rank with hsmall | ⟨shift, fraction, hfraction, rfl⟩
  · obtain ⟨wide, hwide⟩ := Format.double.exists_units_mul_two_pow rank exponent
    refine ⟨wide, ?_⟩
    rw [hwide, units_of_lt hsmall,
      units_of_lt (Nat.lt_trans hsmall (Nat.pow_lt_pow_right (by decide) (by decide)))]
  · have hmagnitude : 2 ^ Format.single.fractionBits + fraction <
        2 ^ Format.double.fractionBits := by
      simp only [Format.single, Format.double] at hfraction ⊢
      omega
    obtain ⟨wide, hwide⟩ := Format.double.exists_units_mul_two_pow
      (2 ^ Format.single.fractionBits + fraction) (shift + exponent)
    refine ⟨wide, ?_⟩
    rw [hwide, units_of_normal shift hfraction, units_of_lt hmagnitude, Nat.pow_add,
      Nat.mul_assoc]

/-- Widening keeps a finite number, and narrowing gives it back. -/
theorem convert_convert_single (number : Finite .single) :
    ∃ wide : Finite .double,
      (Floating.finite number).convert .double = .finite wide ∧
        (Floating.finite wide).convert .single = .finite number := by
  obtain ⟨negative, rank, hrank⟩ := number
  obtain ⟨extra, hextra, hbits⟩ : ∃ extra ≤ 925,
      Format.double.unitBits = extra + Format.single.unitBits :=
    ⟨925, Nat.le_refl _, by decide⟩
  obtain ⟨wide, hwide⟩ := Format.exists_double_units rank extra
  have hbound : wide < Format.double.topRank := by
    refine Format.lt_topRank ?_
    rw [hwide]
    calc Format.single.units rank * 2 ^ extra
        < 2 ^ (Format.single.fractionBits + (2 ^ Format.single.exponentBits - 1)) *
            2 ^ extra :=
          Nat.mul_lt_mul_of_pos_right (Format.units_lt hrank) (Nat.two_pow_pos _)
      _ ≤ 2 ^ (Format.double.fractionBits + (2 ^ Format.double.exponentBits - 2)) := by
          rw [← Nat.pow_add]
          refine Nat.pow_le_pow_right (by decide) (Nat.le_trans ?_ (by decide : 1203 ≤ _))
          exact Nat.add_le_add (by decide : _ ≤ 278) hextra
  have hunits : Format.single.units rank * 2 ^ Format.double.unitBits =
      Format.double.units wide * 2 ^ Format.single.unitBits := by
    rw [hbits, Nat.pow_add, ← Nat.mul_assoc, ← hwide]
  exact ⟨⟨negative, wide, hbound⟩, convert_finite rfl hunits, convert_finite rfl hunits.symm⟩

theorem convert_double_single (number : Single) :
    (number.convert .double).convert .single = number := by
  cases number with
  | nan | infinite _ => rfl
  | finite number =>
      obtain ⟨wide, hwide, hback⟩ := convert_convert_single number
      rw [hwide, hback]

end Reshape.Floating
