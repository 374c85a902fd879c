import Reshape.Record.Basic
import Reshape.Value.Json

/-!
# Models

A model is a schema whose records are also known as instances: rows with a member
of the right type for each field.  Every field type has a type of such members; the
types that a model may declare have no option directly inside an option, whose
absences could not be told apart.  No two fields of a model have the same name.
-/

namespace Reshape

namespace FieldType

/-- The type of the members that a field of this type has in an instance. -/
def Member : FieldType → Type
  | .bool => Bool
  | .int type => type.Carrier
  | .f32 => Single
  | .f64 => Double
  | .string => String
  | .uuid => Uuid
  | .timestamp => Timestamp
  | .json => Json
  | .list item => List item.Member
  | .option item => Option item.Member

/-- Whether no option has another one for its item. -/
def isDeclarable : FieldType → Bool
  | .list item => item.isDeclarable
  | .option item => !item.isOption && item.isDeclarable
  | _ => true

/-! ## Members and values -/

def toValue : (type : FieldType) → type.Member → Value
  | .bool, member => .bool member
  | .int type, member => .int type member
  | .f32, member => .f32 member
  | .f64, member => .f64 member
  | .string, member => .string member
  | .uuid, member => .uuid member
  | .timestamp, member => .timestamp member
  | .json, member => .json member
  | .list item, members => .list (members.map (toValue item))
  | .option _, none => .null
  | .option item, some member => toValue item member

def ofValue : (type : FieldType) → Value → Except ValueError type.Member
  | .bool, .bool member => .ok member
  | .int expected, .int type member =>
      if h : type = expected then .ok (h ▸ member)
      else .error (.typeMismatch (.int expected) type.name)
  | .f32, .f32 member => .ok member
  | .f64, .f64 member => .ok member
  | .string, .string member => .ok member
  | .uuid, .uuid member => .ok member
  | .timestamp, .timestamp member => .ok member
  | .json, .json member => .ok member
  | .list item, .list values => values.mapM (ofValue item)
  | .option _, .null => .ok none
  | .option item, value => (ofValue item value).map some
  | type, value => .error (.typeMismatch type value.kind)

end FieldType

/-! ## Rows -/

/-- A member for each field, in declaration order. -/
def Row : List Field → Type
  | [] => Unit
  | field :: fields => field.type.Member × Row fields

namespace Row

def toValues : (fields : List Field) → Row fields → List Value
  | [], () => []
  | field :: fields, (member, row) => field.type.toValue member :: toValues fields row

/-- The row of the first values; `record` names the record in errors. -/
def ofValues (record : String) :
    (fields : List Field) → List Value → Except TransformError (Row fields)
  | [], _ => .ok ()
  | field :: _, [] => .error (.missingValue record field.name)
  | field :: fields, value :: values =>
      match field.type.ofValue value with
      | .error cause => .error (.value field.name cause)
      | .ok member => (ofValues record fields values).map fun row => (member, row)

end Row

/-! ## Models -/

structure Model where
  schema : Schema
  declarable : ∀ field ∈ schema.fields, field.type.isDeclarable = true
  distinct : schema.DistinctNames := by decide

namespace Model

def Instance (model : Model) : Type := Row model.schema.fields

variable {model : Model}

def Instance.toRecord (row : model.Instance) : Record :=
  (Record.zeroed model.schema).withValues (Row.toValues model.schema.fields row)

def Instance.ofRecord (model : Model) (record : Record) :
    Except TransformError model.Instance :=
  if record.hasSchema model.schema then
    Row.ofValues model.schema.name model.schema.fields record.values
  else .error (.schemaMismatch model.schema.name record.schema.name)

end Model

end Reshape
