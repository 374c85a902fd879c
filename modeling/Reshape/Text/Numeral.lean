import Reshape.Power

/-!
# Numerals

Digits in a base of at most sixteen: the value of a digit (letters count in
either case), the value of a row of digits, and numerals of a fixed width, which
read back to the number that they were written for.
-/

namespace Reshape.Text

def digitValue? (base : Nat) (character : Char) : Option Nat :=
  let code := character.toNat
  let value :=
    if 48 ≤ code ∧ code ≤ 57 then code - 48
    else if 97 ≤ code ∧ code ≤ 102 then code - 87
    else if 65 ≤ code ∧ code ≤ 70 then code - 55
    else base
  if value < base then some value else none

def isDigit (character : Char) : Bool := (digitValue? 10 character).isSome

def isHexDigit (character : Char) : Bool := (digitValue? 16 character).isSome

/-- The value of `digits` written after a numeral of value `before`. -/
def readDigitsFrom? (base before : Nat) : List Char → Option Nat
  | [] => some before
  | digit :: digits =>
      match digitValue? base digit with
      | some value => readDigitsFrom? base (base * before + value) digits
      | none => none

def readDigits? (base : Nat) (digits : List Char) : Option Nat :=
  readDigitsFrom? base 0 digits

/-- The last `width` digits of `number`, the lowest last. -/
def padded (base : Nat) : Nat → Nat → List Char
  | 0, _ => []
  | width + 1, number =>
      padded base width (number / base) ++ [Nat.digitChar (number % base)]

theorem length_padded (base width number : Nat) :
    (padded base width number).length = width := by
  induction width generalizing number with
  | zero => rfl
  | succ width ih => simp [padded, ih]

theorem digitValue?_digitChar {base value : Nat} (hbase : base ≤ 16)
    (hvalue : value < base) :
    digitValue? base (Nat.digitChar value) = some value := by
  have hcode : value < 16 := Nat.lt_of_lt_of_le hvalue hbase
  have table : ∀ digit : Fin 16,
      (if digit.val < 10 then 48 + digit.val else 87 + digit.val) =
        (Nat.digitChar digit.val).toNat := by decide
  have hchar : (Nat.digitChar value).toNat =
      if value < 10 then 48 + value else 87 + value :=
    (table ⟨value, hcode⟩).symm
  unfold digitValue?
  rw [hchar]
  grind

private theorem readDigitsFrom?_append (base before : Nat)
    (left right : List Char) :
    readDigitsFrom? base before (left ++ right) =
      (readDigitsFrom? base before left).bind
        (readDigitsFrom? base · right) := by
  induction left generalizing before with
  | nil => rfl
  | cons digit digits ih =>
      simp only [List.cons_append, readDigitsFrom?]
      cases digitValue? base digit with
      | none => rfl
      | some value => exact ih _

theorem readDigits?_padded {base width number : Nat} (hbase : base ≤ 16)
    (hnumber : number < base ^ width) :
    readDigits? base (padded base width number) = some number := by
  induction width generalizing number with
  | zero =>
      have : number = 0 := by simpa using hnumber
      simp [this, padded, readDigits?, readDigitsFrom?]
  | succ width ih =>
      have hpositive : 0 < base := by
        rcases Nat.eq_zero_or_pos base with h | h
        · simp [h] at hnumber
        · exact h
      have hquotient : number / base < base ^ width :=
        Nat.div_lt_of_lt_mul (by rwa [Nat.pow_succ, Nat.mul_comm] at hnumber)
      have hrest := ih hquotient
      simp only [readDigits?] at hrest ⊢
      rw [padded, readDigitsFrom?_append, hrest]
      simp only [Option.bind_some, readDigitsFrom?]
      rw [digitValue?_digitChar hbase (Nat.mod_lt _ hpositive)]
      simp [Nat.div_add_mod]

end Reshape.Text
