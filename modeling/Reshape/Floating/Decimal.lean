import Reshape.Floating.Rounding

/-!
# Decimal numerals of floating-point numbers

`ofDecimal` is the number nearest to a decimal one.  `Finite.shortest` goes the
other way: of the decimals that read back to a number it gives one with the fewest
digits, and of those the nearest.
-/

namespace Reshape.Floating

/-- The decimal number `digits * 10 ^ exponent`. -/
structure Decimal where
  digits : Nat
  exponent : Int
  deriving DecidableEq, Repr

namespace Decimal

def length (number : Nat) : Nat := (Nat.toDigits 10 number).length

/--
Decimals of a magnitude from `10 ^ bound` on are infinite in every format of this
library, and those below `10 ^ -bound` are zero.
-/
def bound : Int := 400

end Decimal

variable {format : Format}

/-- The number nearest to `decimal`, negated if `negative` is set. -/
def ofDecimal (format : Format) (negative : Bool) (decimal : Decimal) : Floating format :=
  let size := decimal.exponent + Decimal.length decimal.digits
  if decimal.digits = 0 ∨ size < -Decimal.bound then ofRank negative 0
  else if Decimal.bound < size then .infinite negative
  else if 0 ≤ decimal.exponent then
    ofRatio format negative (decimal.digits * 10 ^ decimal.exponent.toNat) 1
  else ofRatio format negative decimal.digits (10 ^ (-decimal.exponent).toNat)

/-! ## The shortest decimal -/

/-- The exponent of the first digit of `numerator / denominator`, which is positive. -/
def leadingExponent (numerator denominator : Nat) : Int :=
  if denominator ≤ numerator then Decimal.length (numerator / denominator) - 1
  else
    let size := Decimal.length (denominator / numerator)
    if denominator = numerator * 10 ^ (size - 1) then 1 - size else -size

/--
The magnitudes that round to a given one, in half units: those between `low` and
`high`, and these two as well if they are ties that go to the given one.
-/
structure RoundingInterval where
  low : Nat
  high : Nat
  closed : Bool

namespace RoundingInterval

def ofRank (format : Format) (rank : Nat) : RoundingInterval where
  low := format.units (rank - 1) + format.units rank
  high := format.units rank + format.units (rank + 1)
  closed := rank % 2 == 0

def holds (interval : RoundingInterval) (numerator denominator : Nat) : Bool :=
  if interval.closed then
    interval.low * denominator ≤ numerator && numerator ≤ interval.high * denominator
  else interval.low * denominator < numerator && numerator < interval.high * denominator

end RoundingInterval

/--
The decimals below and above a magnitude on the grid of `10 ^ exponent`, if they
round to the magnitude; of two, the nearer, and of two equally near the even one.
-/
def onGrid? (format : Format) (rank : Nat) (exponent : Int) : Option Decimal :=
  let interval := RoundingInterval.ofRank format rank
  -- One step of the grid is `step / scale` units.
  let step := 10 ^ exponent.toNat * 2 ^ format.unitBits
  let scale := 10 ^ (-exponent).toNat
  let below := format.units rank * scale / step
  let rest := format.units rank * scale % step
  let holds (digits : Nat) := interval.holds (2 * digits * step) scale
  match holds below, holds (below + 1) with
  | true, true =>
      if 2 * rest < step ∨ 2 * rest = step ∧ below % 2 = 0 then some ⟨below, exponent⟩
      else some ⟨below + 1, exponent⟩
  | true, false => some ⟨below, exponent⟩
  | false, true => some ⟨below + 1, exponent⟩
  | false, false => none

/-- The first hit on the grids of `10 ^ exponent`, `10 ^ (exponent - 1)` and so on. -/
def firstOnGrid? (format : Format) (rank : Nat) : Nat → Int → Option Decimal
  | 0, _ => none
  | grids + 1, exponent =>
      match onGrid? format rank exponent with
      | some decimal => some decimal
      | none => firstOnGrid? format rank grids (exponent - 1)

/-- More digits than any number of a format of this library needs. -/
def maxDigits : Nat := 20

def Finite.shortest (number : Finite format) : Decimal :=
  if number.rank = 0 then ⟨0, 0⟩
  else
    let exponent := leadingExponent number.units (2 ^ format.unitBits)
    (firstOnGrid? format number.rank maxDigits exponent).getD ⟨0, 0⟩

/-! ## Notation -/

/-- The significant digits of a decimal and the exponent of the first of them. -/
def Decimal.scientific (decimal : Decimal) : List Char × Int :=
  let digits := Nat.toDigits 10 decimal.digits
  let significant := (digits.reverse.dropWhile (· == '0')).reverse
  (if significant = [] then ['0'] else significant,
    decimal.exponent + digits.length - 1)

/-- Digits with a point after the digit of exponent zero. -/
def positional (digits : List Char) (exponent : Int) : List Char :=
  if exponent < 0 then
    ['0', '.'] ++ List.replicate ((-exponent).toNat - 1) '0' ++ digits
  else
    let whole := exponent.toNat + 1
    let fraction := digits.drop whole
    (digits.take whole).rightpad whole '0' ++
      ['.'] ++ (if fraction = [] then ['0'] else fraction)

def withExponent (digits : List Char) (exponent : Int) : List Char :=
  let sign := if exponent < 0 then '-' else '+'
  digits.take 1 ++
    (if digits.length ≤ 1 then [] else '.' :: digits.drop 1) ++
    ['e', sign] ++ Nat.toDigits 10 exponent.natAbs

/--
The text of a finite number: its shortest decimal, positional from `10 ^ -5` up to
`10 ^ 16` and with an exponent elsewhere.
-/
def Finite.text (number : Finite format) : List Char :=
  let (digits, exponent) := number.shortest.scientific
  (if number.negative then ['-'] else []) ++
    (if -5 ≤ exponent ∧ exponent < 16 then positional digits exponent
    else withExponent digits exponent)

end Reshape.Floating
