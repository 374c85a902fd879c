import Reshape.FieldType.Basic
import Reshape.Text.Blank

/-!
# Schemas

A schema lists the fields of one kind of record in declaration order.  A field
has a name, a type and tags; the tags `json` and `db` may give it an alias
under which it is known in JSON or in storage.
-/

namespace Reshape

structure Field where
  name : String
  type : FieldType
  tags : List (String × String) := []
  deriving DecidableEq, Repr

namespace Field

/-- The value of the first tag with this key. -/
def tagValue? (field : Field) (key : String) : Option String :=
  field.tags.lookup key

/-- The part of a tag value before the first comma, without blanks at its ends. -/
def aliasText (value : String) : String :=
  String.ofList (Text.trim (value.toList.takeWhile (· != ',')))

/-- The alias that a tag declares; an empty text and a hyphen declare none. -/
def alias? (field : Field) (key : String) : Option String :=
  match field.tagValue? key with
  | none => none
  | some value =>
      let text := aliasText value
      if text = "" ∨ text = "-" then none else some text

def jsonAlias? (field : Field) : Option String := field.alias? "json"

def dbAlias? (field : Field) : Option String := field.alias? "db"

/-- A field whose `json` tag is a hyphen does not appear in JSON. -/
def isHidden (field : Field) : Bool :=
  match field.tagValue? "json" with
  | none => false
  | some value => Text.trim value.toList == ['-']

def jsonKey (field : Field) : String := field.jsonAlias?.getD field.name

end Field

structure Schema where
  name : String
  fields : List Field
  deriving DecidableEq, Repr

namespace Schema

def DistinctNames (schema : Schema) : Prop := (schema.fields.map (·.name)).Nodup

instance (schema : Schema) : Decidable schema.DistinctNames :=
  inferInstanceAs (Decidable (List.Nodup _))

def visible (schema : Schema) : List Field :=
  schema.fields.filter fun field => !field.isHidden

def indexOf? (schema : Schema) (name : String) : Option Nat :=
  schema.fields.findIdx? (·.name == name)

end Schema

end Reshape
