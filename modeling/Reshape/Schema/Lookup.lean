import Reshape.Schema.Basic
import Reshape.Text.Lowercase

/-!
# Field lookup

The field that a name refers to.  A lookup goes through four steps, each of which
compares less strictly or by another name, and takes the first field in
declaration order that matches at the first step where any does.
-/

namespace Reshape

inductive MatchKind where
  | exact
  | caseInsensitive
  | jsonAlias
  | dbAlias
  deriving DecidableEq, Repr

namespace MatchKind

def inOrder : List MatchKind := [.exact, .caseInsensitive, .jsonAlias, .dbAlias]

def name : MatchKind → String
  | .exact => "Exact"
  | .caseInsensitive => "CaseInsensitive"
  | .jsonAlias => "JsonAlias"
  | .dbAlias => "DbAlias"

/-- Whether `name` refers to `field` at this step. -/
def accepts (kind : MatchKind) (name : String) (field : Field) : Bool :=
  match kind with
  | .exact => field.name == name
  | .caseInsensitive => Text.alike field.name name
  | .jsonAlias => field.jsonAlias?.any (Text.alike · name)
  | .dbAlias => field.dbAlias?.any (Text.alike · name)

end MatchKind

/-- A field found by a lookup, its place in the schema, and the step that found it. -/
structure FieldMatch where
  index : Nat
  field : Field
  kind : MatchKind
  deriving DecidableEq, Repr

namespace Schema

/-- The first field accepted at one step, with its place. -/
def firstAccepted? (kind : MatchKind) (name : String) : List Field → Option (Nat × Field)
  | [] => none
  | field :: fields =>
      if kind.accepts name field then some (0, field)
      else (firstAccepted? kind name fields).map fun (index, found) => (index + 1, found)

def resolve? (schema : Schema) (name : String) : Option FieldMatch :=
  MatchKind.inOrder.findSome? fun kind =>
    (firstAccepted? kind name schema.fields).map fun (index, field) =>
      ⟨index, field, kind⟩

end Schema

end Reshape
