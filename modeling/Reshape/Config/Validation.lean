import Reshape.Config.Basic
import Reshape.Config.Error
import Reshape.Schema.Lookup

/-!
# Validation

A configuration is valid if its names are unique where they have to be, if the
fields of each schema have keys of their own in JSON, and if its mappings refer
to schemas and fields that exist.  Schemas are checked before mappings, and each of
them in document order.
-/

namespace Reshape.Config

/-- The first item that occurs in `before` or earlier in the list. -/
def firstRepeated? {α : Type} [DecidableEq α] (before : List α) : List α → Option α
  | [] => none
  | item :: items =>
      if item ∈ before then some item else firstRepeated? (item :: before) items

/-! ## Schemas -/

/-- The first field that has the key of an earlier one, after that one. -/
def firstSharedKey? (before : List Field) : List Field → Option (Field × Field)
  | [] => none
  | field :: fields =>
      match before.find? (·.jsonKey == field.jsonKey) with
      | some first => some (first, field)
      | none => firstSharedKey? (field :: before) fields

def checkKeys (schema : Schema) : Except ConfigError Unit :=
  match firstSharedKey? [] schema.visible with
  | some (first, second) =>
      .error (.sharedKey schema.name second.jsonKey first.name second.name)
  | none => .ok ()

def checkSchema (decl : SchemaDecl) : Except ConfigError Unit :=
  match firstRepeated? [] (decl.fields.map (·.name)) with
  | some field => .error (.duplicateField decl.name field)
  | none => checkKeys decl.toSchema

/-- Checks schemas that follow those with the names `before`. -/
def checkSchemas (before : List String) : List SchemaDecl → Except ConfigError Unit
  | [] => .ok ()
  | schema :: schemas =>
      if schema.name ∈ before then .error (.duplicateSchema schema.name)
      else do
        checkSchema schema
        checkSchemas (schema.name :: before) schemas

/-! ## Mappings -/

def checkDestination (destination : Schema) (field : String) : Except ConfigError Unit :=
  if field ∈ destination.fields.map (·.name) then .ok ()
  else .error (.missingReference (.destinationField destination.name field))

def checkOverride (source destination : Schema) (override : String × String) :
    Except ConfigError Unit := do
  checkDestination destination override.1
  match source.resolve? override.2 with
  | some _ => .ok ()
  | none => .error (.missingReference (.sourceField source.name override.2))

def findSchema (schemas : List SchemaDecl) (name : String) :
    Except ConfigError SchemaDecl :=
  match schemas.find? (·.name == name) with
  | some schema => .ok schema
  | none => .error (.missingReference (.schema name))

/-- Checks the overrides of a mapping in the given order and then what it leaves out. -/
def checkFields (source destination : Schema) (overrides : List (String × String))
    (skipped : List String) : Except ConfigError Unit := do
  overrides.forM (checkOverride source destination)
  skipped.forM (checkDestination destination)

/-- Checks mappings that follow those between the pairs `before`. -/
def checkMappings (schemas : List SchemaDecl) (before : List (String × String)) :
    List MappingDecl → Except ConfigError Unit
  | [] => .ok ()
  | mapping :: mappings => do
      let source ← findSchema schemas mapping.source
      let destination ← findSchema schemas mapping.destination
      if (mapping.source, mapping.destination) ∈ before then
        .error (.duplicateMapping mapping.source mapping.destination)
      else
        checkFields source.toSchema destination.toSchema mapping.overrides.toList
          mapping.skipped
        checkMappings schemas ((mapping.source, mapping.destination) :: before) mappings

def validate (config : Config) : Except ConfigError Unit := do
  checkSchemas [] config.schemas
  checkMappings config.schemas [] config.mappings

end Reshape.Config
