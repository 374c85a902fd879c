import Reshape.Schema.Basic
import Reshape.Error
import Reshape.Value.Basic

/-!
# Records

A record is a schema with one value for each of its fields, in declaration order.
-/

namespace Reshape

structure Record where
  schema : Schema
  values : List Value

namespace Record

def zeroed (schema : Schema) : Record :=
  ⟨schema, schema.fields.map fun field => Value.zero field.type⟩

/-- The record of these values, of which there has to be one for each field. -/
def ofValues (schema : Schema) (values : List Value) : Except TransformError Record :=
  if values.length = schema.fields.length then .ok ⟨schema, values⟩
  else
    let field := match schema.fields[values.length]? with
      | some field => field.name
      | none => "#" ++ toString schema.fields.length
    .error (.missingValue schema.name field)

def withValues (record : Record) (values : List Value) : Record :=
  { record with values }

/-- The value of the field with exactly this name. -/
def get? (record : Record) (name : String) : Option Value :=
  (record.schema.indexOf? name).bind (record.values[·]?)

def hasSchema (record : Record) (schema : Schema) : Bool :=
  record.schema == schema

/-- Equality where floating-point numbers are compared as numbers. -/
def same (left right : Record) : Bool :=
  left.hasSchema right.schema && Value.sameItems left.values right.values

end Record

end Reshape
