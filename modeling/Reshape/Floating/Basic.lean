import Reshape.Power

/-!
# Floating-point numbers

Binary floating-point numbers of an interchange format, with one NaN.  The
magnitudes of a format are numbered upward from zero: the number of a magnitude,
its `rank`, is its encoding, that is the exponent field followed by the fraction
field.  Every magnitude is a multiple of the smallest positive one, the unit, and
`Format.units` says which.
-/

namespace Reshape.Floating

structure Format where
  fractionBits : Nat
  exponentBits : Nat
  exponentBits_pos : 0 < exponentBits := by decide

namespace Format

def single : Format := { fractionBits := 23, exponentBits := 8 }

def double : Format := { fractionBits := 52, exponentBits := 11 }

/-- The rank that stands for infinity; every finite magnitude has a lower one. -/
def topRank (format : Format) : Nat :=
  (2 ^ format.exponentBits - 1) * 2 ^ format.fractionBits

theorem topRank_pos (format : Format) : 0 < format.topRank := by
  have hone : 1 < 2 ^ format.exponentBits :=
    Nat.one_lt_two_pow (Nat.pos_iff_ne_zero.mp format.exponentBits_pos)
  exact Nat.mul_pos (by omega) (Nat.two_pow_pos _)

/-- There are `2 ^ unitBits` units in one. -/
def unitBits (format : Format) : Nat :=
  2 ^ (format.exponentBits - 1) - 2 + format.fractionBits

def units (format : Format) (rank : Nat) : Nat :=
  let implicit := 2 ^ format.fractionBits
  if rank < implicit then rank
  else (implicit + rank % implicit) * 2 ^ (rank / implicit - 1)

end Format

structure Finite (format : Format) where
  negative : Bool
  rank : Nat
  rank_lt : rank < format.topRank
  deriving DecidableEq

namespace Finite

variable {format : Format}

def zero (format : Format) : Finite format := ⟨false, 0, format.topRank_pos⟩

def units (number : Finite format) : Nat := format.units number.rank

/-- Numerical equality: the two zeros are equal. -/
def same (left right : Finite format) : Bool :=
  left == right || left.rank == 0 && right.rank == 0

end Finite

end Floating

inductive Floating (format : Floating.Format) where
  | nan
  | infinite (negative : Bool)
  | finite (number : Floating.Finite format)
  deriving DecidableEq

abbrev Single : Type := Floating .single

abbrev Double : Type := Floating .double

namespace Floating

variable {format : Format}

def zero (format : Format) : Floating format := .finite (.zero format)

/-- Numerical equality: a NaN equals nothing, and the two zeros are equal. -/
def same : Floating format → Floating format → Bool
  | .finite left, .finite right => left.same right
  | .infinite left, .infinite right => left == right
  | _, _ => false

/-! ## Encodings -/

def ofEncoding (format : Format) (code : Nat) : Floating format :=
  let magnitudes := 2 ^ (format.fractionBits + format.exponentBits)
  let negative := code / magnitudes % 2 == 1
  let rank := code % magnitudes
  if h : rank < format.topRank then .finite ⟨negative, rank, h⟩
  else if rank = format.topRank then .infinite negative
  else .nan

/-- The encoding of a number; a NaN, which has many, is given none. -/
def encoding? : Floating format → Option Nat
  | .nan => none
  | .infinite negative => some (signed negative format.topRank)
  | .finite number => some (signed number.negative number.rank)
where
  signed (negative : Bool) (rank : Nat) : Nat :=
    if negative then 2 ^ (format.fractionBits + format.exponentBits) + rank else rank

end Floating

end Reshape
