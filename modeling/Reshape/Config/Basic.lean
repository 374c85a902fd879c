import Reshape.FieldType.Text
import Reshape.Json.Basic
import Reshape.MappingTable
import Reshape.Schema.Basic

/-!
# Configurations

A configuration declares schemas and mappings between them.  `Config.toJson` writes
it in the form that it is loaded from, with every default written out.
-/

namespace Reshape

/-! ## Declarations -/

structure Config.FieldDecl where
  name : String
  type : FieldType
  tags : NameMap String := ∅

structure Config.SchemaDecl where
  name : String
  fields : List Config.FieldDecl
  comment : Option String := none

structure Config.MappingDecl where
  source : String
  destination : String
  overrides : NameMap String := ∅
  skipped : List String := []
  policy : Policy := .permissive

structure Config where
  schemas : List Config.SchemaDecl := []
  mappings : List Config.MappingDecl := []

namespace Config

/-! ## What is declared -/

def FieldDecl.toField (decl : FieldDecl) : Field :=
  ⟨decl.name, decl.type, decl.tags.toList⟩

def SchemaDecl.toSchema (decl : SchemaDecl) : Schema :=
  ⟨decl.name, decl.fields.map (·.toField)⟩

def MappingDecl.toTable (decl : MappingDecl) : MappingTable :=
  ⟨decl.overrides, .ofList decl.skipped, decl.policy⟩

/-! ## Writing -/

def textMapJson (map : NameMap String) : Json :=
  .ofMembers (map.toList.map fun (key, value) => (key, .string value))

def optionalTextJson : Option String → Json
  | some text => .string text
  | none => .null

def FieldDecl.toJson (decl : FieldDecl) : Json :=
  .ofMembers [
    ("name", .string decl.name),
    ("type", .string decl.type.text),
    ("tags", textMapJson decl.tags)]

def SchemaDecl.toJson (decl : SchemaDecl) : Json :=
  .ofMembers [
    ("name", .string decl.name),
    ("fields", .array (decl.fields.map (·.toJson))),
    ("comment", optionalTextJson decl.comment)]

def MappingDecl.toJson (decl : MappingDecl) : Json :=
  .ofMembers [
    ("source", .string decl.source),
    ("destination", .string decl.destination),
    ("fields", textMapJson decl.overrides),
    ("skip", .array (decl.skipped.map .string)),
    ("policy", .string decl.policy.name)]

def toJson (config : Config) : Json :=
  .ofMembers [
    ("schemas", .array (config.schemas.map (·.toJson))),
    ("mappings", .array (config.mappings.map (·.toJson)))]

end Config

end Reshape
