import Reshape.FieldType.Text
import Reshape.Floating.Rounding
import Reshape.Timestamp.Text
import Reshape.Value.Basic

/-!
# Values and JSON

`Value.toJson` renders a value: UUIDs and timestamps as strings, floating-point
numbers that are not finite as `null`.  `Value.ofJson` reads a value of a
given type.  An integer is read only from a number held as an integer, and only if
the type holds it.
-/

namespace Reshape

/-! ## Errors -/

/-- Why something does not fit the type that it is read as. -/
inductive ValueError where
  | typeMismatch (expected : FieldType) (found : String)
  | outOfRange (expected : FieldType) (number : Int)
  | badUuid (cause : UuidError)
  | badTimestamp (cause : TimestampError)
  deriving DecidableEq, Repr

def ValueError.message : ValueError → String
  | .typeMismatch expected found =>
      "expected " ++ expected.text ++ ", found " ++ found
  | .outOfRange expected number =>
      toString number ++ " out of range for " ++ expected.text
  | .badUuid cause => "parse " ++ FieldType.uuid.text ++ ": " ++ cause.message
  | .badTimestamp cause =>
      "parse " ++ FieldType.timestamp.text ++ ": " ++ cause.message

theorem IntType.json_range {type : IntType} {number : Int} (h : type.Holds number) :
    -2 ^ 63 ≤ number ∧ number < 2 ^ 64 := by
  obtain ⟨hlow, hhigh⟩ := h
  cases type <;>
    simp only [lowest, highest, width, isSigned] at hlow hhigh <;>
    simp at hlow hhigh ⊢ <;> omega

/-! ## Numbers and JSON -/

def Json.ofDouble : Double → Json
  | .finite value => .number (.float value)
  | _ => .null

def Json.Number.toDouble : Json.Number → Double
  | .integer value _ => Floating.ofInt .double value
  | .float value => .finite value

namespace Value

/-! ## Rendering -/

mutual

def toJson : Value → Json
  | .null => .null
  | .bool value => .bool value
  | .int _ value => .number (.integer value.val (IntType.json_range value.property))
  | .f32 value => .ofDouble (value.convert .double)
  | .f64 value => .ofDouble value
  | .string value => .string value
  | .uuid value => .string value.text
  | .timestamp value => .string value.text
  | .json value => value
  | .list items => .array (toJsonItems items)

def toJsonItems : List Value → List Json
  | [] => []
  | item :: items => toJson item :: toJsonItems items

end

theorem toJsonItems_eq_map (items : List Value) :
    toJsonItems items = items.map toJson := by
  induction items with
  | nil => rfl
  | cons item items ih => simp [toJsonItems, ih]

/-! ## Reading -/

def ofInt (type : IntType) (number : Int) : Except ValueError Value :=
  if h : type.Holds number then .ok (.int type ⟨number, h⟩)
  else .error (.outOfRange (.int type) number)

def ofJson : FieldType → Json → Except ValueError Value
  | .option item, input =>
      match input with
      | .null => .ok .null
      | input => ofJson item input
  | .json, input => .ok (.json input)
  | .bool, .bool value => .ok (.bool value)
  | .int type, .number (.integer value _) => ofInt type value
  | .f32, .number value => .ok (.f32 (value.toDouble.convert .single))
  | .f64, .number value => .ok (.f64 value.toDouble)
  | .string, .string value => .ok (.string value)
  | .uuid, .string value =>
      match Uuid.parse value with
      | .ok parsed => .ok (.uuid parsed)
      | .error cause => .error (.badUuid cause)
  | .timestamp, .string value =>
      match Timestamp.parse value with
      | .ok parsed => .ok (.timestamp parsed)
      | .error cause => .error (.badTimestamp cause)
  | .list item, .array items => (items.mapM (ofJson item)).map .list
  | type, input => .error (.typeMismatch type input.kind)

end Value

end Reshape
