import Reshape.Text.Utf8
import Reshape.Value.Json

/-!
# Coercion

How a value of one field type becomes a value of another.  There are four rules,
and the first that applies to the two types decides: a value of the same type is
copied; numbers convert into each other, strings into octets, UUIDs and
timestamps and back, and everything into JSON; an option is unwrapped; a value is
wrapped into an option.  Where no rule applies, or a conversion fails for the
value, the value is skipped.
-/

namespace Reshape

/-! ## Numbers -/

/-- What a numeric value stands for. -/
inductive Quantity where
  | exact (number : Int)
  | floating (number : Double)

def Quantity.ofValue? : Value → Option Quantity
  | .int _ value => some (.exact value.val)
  | .f32 value => some (.floating (value.convert .double))
  | .f64 value => some (.floating value)
  | _ => none

/-- The integer part of a number as near as the type comes to it; a NaN gives zero. -/
def IntType.ofDouble (type : IntType) : Double → type.Carrier
  | .nan => type.zero
  | .infinite negative => type.saturate (if negative then type.lowest else type.highest)
  | .finite number => type.saturate number.truncate

/-- Integers wrap around, floating-point numbers are truncated and saturate. -/
def IntType.ofQuantity (type : IntType) : Quantity → type.Carrier
  | .exact number => type.wrap number
  | .floating number => type.ofDouble number

def Quantity.toFormat (format : Floating.Format) : Quantity → Floating format
  | .exact number => Floating.ofInt format number
  | .floating number => number.convert format

def Quantity.toValue? (quantity : Quantity) : FieldType → Option Value
  | .int type => some (.int type (type.ofQuantity quantity))
  | .f32 => some (.f32 (quantity.toFormat .single))
  | .f64 => some (.f64 (quantity.toFormat .double))
  | _ => none

/-! ## Conversions -/

/-- Whether a conversion exists between two types; it may fail for single values. -/
def FieldType.convertible (source target : FieldType) : Bool :=
  if source.isNumeric && target.isNumeric then true
  else
    match source, target with
    | _, .json => true
    | .string, .uuid | .uuid, .string => true
    | .string, .timestamp | .timestamp, .string => true
    | .string, .list item | .list item, .string => item == .int .u8
    | _, _ => false

namespace Value

def ofOctet (octet : UInt8) : Value :=
  .int .u8 ⟨octet.toNat, by
    have := octet.toNat_lt
    simp [IntType.Holds, IntType.lowest, IntType.highest, IntType.isSigned,
      IntType.width]
    omega⟩

def toOctet? : Value → Option UInt8
  | .int .u8 value => some (.ofNat value.val.toNat)
  | _ => none

def convert? (value : Value) (target : FieldType) : Option Value :=
  if target.isNumeric then (Quantity.ofValue? value).bind (·.toValue? target)
  else
    match value, target with
    | value, .json => some (.json value.toJson)
    | .string text, .uuid => (Uuid.parse text).toOption.map .uuid
    | .uuid value, .string => some (.string value.text)
    | .string text, .timestamp => (Timestamp.parse text).toOption.map .timestamp
    | .timestamp value, .string => some (.string value.text)
    | .string text, .list _ => some (.list ((Text.Utf8.encode text).map ofOctet))
    | .list items, .string =>
        (items.mapM toOctet?).map fun octets => .string (Text.Utf8.decodeLossy octets)
    | _, _ => none

end Value

/-! ## Rules -/

inductive Coercion where
  | assigned (value : Value)
  /-- The source is an option that is absent, so nothing is assigned. -/
  | absent
  /-- No rule applies, or the conversion fails for the value. -/
  | skipped

namespace Coercion

inductive Rule where
  | copy
  | convert
  | unwrap
  | wrap
  deriving DecidableEq, Repr

namespace Rule

def inOrder : List Rule := [.copy, .convert, .unwrap, .wrap]

def applies (rule : Rule) (source target : FieldType) : Bool :=
  match rule with
  | .copy => source == target
  | .convert => source.convertible target
  | .unwrap => source == .option target
  | .wrap => target == .option source

def apply (rule : Rule) (value : Value) (target : FieldType) : Coercion :=
  match rule with
  | .copy | .wrap => .assigned value
  | .convert =>
      match value.convert? target with
      | some converted => .assigned converted
      | none => .skipped
  | .unwrap => if value.isNull then .absent else .assigned value

end Rule

end Coercion

def Value.coerce (value : Value) (source target : FieldType) : Coercion :=
  match Coercion.Rule.inOrder.find? (·.applies source target) with
  | some rule => rule.apply value target
  | none => .skipped

end Reshape
