import Reshape.Record.Basic
import Reshape.Value.Json

/-!
# Records and JSON

A record is an object with one member for each of its fields that is not hidden.
Reading leaves a field at its zero value if it is hidden or its key is missing, and
fails with the first field, in declaration order, whose value does not fit.
-/

namespace Reshape.Record

def readField (members : List (String × Json)) (field : Field) :
    Except TransformError Value :=
  if field.isHidden then .ok (Value.zero field.type)
  else
    match members.lookup field.jsonKey with
    | none => .ok (Value.zero field.type)
    | some json =>
        match Value.ofJson field.type json with
        | .ok value => .ok value
        | .error cause => .error (.value field.name cause)

def ofJson (schema : Schema) : Json → Except TransformError Record
  | .object members =>
      (schema.fields.mapM (readField members)).map fun values => ⟨schema, values⟩
  | json => .error (.notAnObject schema.name json.kind)

def members (record : Record) : List (String × Json) :=
  (record.schema.fields.zip record.values).filterMap fun (field, value) =>
    if field.isHidden then none else some (field.jsonKey, value.toJson)

/-- Of fields that share a key the last one is rendered. -/
def toJson (record : Record) : Json := .ofMembers record.members

end Reshape.Record
