import Reshape.Floating.Basic

/-!
# Rounding

The floating-point number nearest to an exact one, where a tie goes to the even
rank, and the conversions that follow from it: from integers, between formats,
and back to integers.
-/

namespace Reshape.Floating

/-- The natural number nearest to a quotient; a tie goes to the even one. -/
def roundHalfEven (numerator denominator : Nat) : Nat :=
  let quotient := numerator / denominator
  let excess := 2 * (numerator % denominator)
  if excess < denominator ∨ excess = denominator ∧ quotient % 2 = 0 then quotient
  else quotient + 1

/--
The rank nearest to the magnitude `numerator / denominator`, given in units.  From
rank to rank the magnitude grows by `2 ^ shift` units there.
-/
def Format.nearestRank (format : Format) (numerator denominator : Nat) : Nat :=
  let shift := (numerator / denominator).log2 - format.fractionBits
  shift * 2 ^ format.fractionBits + roundHalfEven numerator (denominator * 2 ^ shift)

variable {format : Format}

def ofRank (negative : Bool) (rank : Nat) : Floating format :=
  if h : rank < format.topRank then .finite ⟨negative, rank, h⟩ else .infinite negative

/-- The number nearest to `numerator / denominator`, negated if `negative` is set. -/
def ofRatio (format : Format) (negative : Bool) (numerator denominator : Nat) :
    Floating format :=
  ofRank negative
    (format.nearestRank (numerator * 2 ^ format.unitBits) denominator)

def ofInt (format : Format) (number : Int) : Floating format :=
  ofRatio format (number < 0) number.natAbs 1

def convert (target : Format) : Floating format → Floating target
  | .nan => .nan
  | .infinite negative => .infinite negative
  | .finite number =>
      ofRatio target number.negative number.units (2 ^ format.unitBits)

def Finite.truncate (number : Finite format) : Int :=
  let magnitude : Int := ↑(number.units / 2 ^ format.unitBits)
  if number.negative then -magnitude else magnitude

end Reshape.Floating
