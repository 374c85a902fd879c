import Reshape.Power

/-!
# Field types

The types that a field of a record can be declared with: scalars, any JSON value,
lists, and options, which may be absent.
-/

namespace Reshape

/-! ## Integer types -/

inductive IntType where
  | i8 | i16 | i32 | i64
  | u8 | u16 | u32 | u64
  deriving DecidableEq, Repr

namespace IntType

def width : IntType → Nat
  | .i8 | .u8 => 8
  | .i16 | .u16 => 16
  | .i32 | .u32 => 32
  | .i64 | .u64 => 64

def isSigned : IntType → Bool
  | .i8 | .i16 | .i32 | .i64 => true
  | .u8 | .u16 | .u32 | .u64 => false

def lowest (type : IntType) : Int :=
  if type.isSigned then -2 ^ (type.width - 1) else 0

def highest (type : IntType) : Int :=
  if type.isSigned then 2 ^ (type.width - 1) - 1 else 2 ^ type.width - 1

def Holds (type : IntType) (number : Int) : Prop :=
  type.lowest ≤ number ∧ number ≤ type.highest

instance (type : IntType) (number : Int) : Decidable (type.Holds number) :=
  inferInstanceAs (Decidable (_ ∧ _))

abbrev Carrier (type : IntType) : Type := { number : Int // type.Holds number }

theorem holds_zero (type : IntType) : type.Holds 0 := by
  cases type <;> decide

def zero (type : IntType) : type.Carrier := ⟨0, type.holds_zero⟩

/-- The residue of `number` modulo `2 ^ width` that the type holds. -/
def residue (type : IntType) (number : Int) : Int :=
  (number - type.lowest) % 2 ^ type.width + type.lowest

theorem highest_eq (type : IntType) :
    type.highest = type.lowest + 2 ^ type.width - 1 := by
  cases type <;> rfl

theorem holds_residue (type : IntType) (number : Int) :
    type.Holds (type.residue number) := by
  have hpositive : (0 : Int) < 2 ^ type.width := Int.pow_pos (by decide)
  have hlow := Int.emod_nonneg (number - type.lowest) (Int.ne_of_gt hpositive)
  have hhigh := Int.emod_lt_of_pos (number - type.lowest) hpositive
  have hhighest := type.highest_eq
  unfold Holds residue
  omega

theorem lowest_le_highest (type : IntType) : type.lowest ≤ type.highest := by
  cases type <;> decide

def wrap (type : IntType) (number : Int) : type.Carrier :=
  ⟨type.residue number, type.holds_residue number⟩

/-- The closest integer that the type holds. -/
def saturate (type : IntType) (number : Int) : type.Carrier :=
  ⟨max type.lowest (min number type.highest), by
    have := type.lowest_le_highest
    unfold Holds
    omega⟩

def name : IntType → String
  | .i8 => "i8"
  | .i16 => "i16"
  | .i32 => "i32"
  | .i64 => "i64"
  | .u8 => "u8"
  | .u16 => "u16"
  | .u32 => "u32"
  | .u64 => "u64"

end IntType

/-! ## Types of fields -/

inductive FieldType where
  | bool
  | int (type : IntType)
  | f32
  | f64
  | string
  | uuid
  | timestamp
  | json
  | list (item : FieldType)
  | option (item : FieldType)
  deriving DecidableEq, Repr

namespace FieldType

def isInteger : FieldType → Bool
  | .int _ => true
  | _ => false

def isNumeric : FieldType → Bool
  | .int _ | .f32 | .f64 => true
  | _ => false

def isOption : FieldType → Bool
  | .option _ => true
  | _ => false

end FieldType

end Reshape
