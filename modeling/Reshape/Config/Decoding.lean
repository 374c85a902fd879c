import Reshape.Config.Basic
import Reshape.Config.Shape

/-!
# Configurations from text

The shapes of configurations and of mapping tables, and the decoders that follow
from them.
-/

namespace Reshape.Config

open Json

/-! ## Maps and policies -/

def decodeNameMap (draft : Draft) : Except DecodeError (NameMap String) :=
  (decodeTextMap draft).map fun entries => .ofList entries

def policyOfName (name : String) : Except DecodeError Policy :=
  match Policy.ofName? name with
  | some policy => .ok policy
  | none => .error (.unknownPolicy name)

def decodeUnit : Draft → Except DecodeError Unit
  | .null => .ok ()
  | draft => .error (mismatch draft .unit)

/-- A policy is its name, or an object whose only member has that name and the value null. -/
def decodePolicy : Draft → Except DecodeError Policy
  | .string (.ok name) => policyOfName name
  | .string (.error fault) => .error (.malformed fault)
  | .object [] ending =>
      .error (.malformed ((ending.map (·.halt)).getD .expectedValue))
  | .object ((.error fault, _) :: _) _ => .error (.malformed fault)
  | .object ((.ok name, value) :: members) ending => do
      let policy ← policyOfName name
      decodeUnit value
      match members, ending with
      | [], none => .ok policy
      | [], some damage => .error (.malformed damage.halt)
      | _ :: _, _ => .error (.malformed .expectedValue)
  | .cut damage => .error (.malformed damage.halt)
  | _ => .error (.malformed .expectedValue)

/-! ## Schemas -/

structure FieldParts where
  name : Option String := none
  type : Option FieldType := none
  tags : Option (NameMap String) := none

def fieldShape : Shape FieldParts FieldDecl where
  name := "FieldConfig"
  keys := ["name", "type", "tags"]
  start := {}
  put key draft parts :=
    match key with
    | "name" => putOnce key parts.name (decodeText draft)
        fun name => { parts with name := some name }
    | "type" => putOnce key parts.type (decodeFieldType draft)
        fun type => { parts with type := some type }
    | "tags" => putOnce key parts.tags (decodeNameMap draft)
        fun tags => { parts with tags := some tags }
    | _ => none
  finish parts := do
    let some name := parts.name | .error "name"
    let some type := parts.type | .error "type"
    .ok ⟨name, type, parts.tags.getD ∅⟩

structure SchemaParts where
  name : Option String := none
  fields : Option (List FieldDecl) := none
  comment : Option (Option String) := none

def schemaShape : Shape SchemaParts SchemaDecl where
  name := "SchemaConfig"
  keys := ["name", "fields", "comment"]
  start := {}
  put key draft parts :=
    match key with
    | "name" => putOnce key parts.name (decodeText draft)
        fun name => { parts with name := some name }
    | "fields" => putOnce key parts.fields (decodeSequence fieldShape.decode draft)
        fun fields => { parts with fields := some fields }
    | "comment" => putOnce key parts.comment (decodeOptionalText draft)
        fun comment => { parts with comment := some comment }
    | _ => none
  finish parts := do
    let some name := parts.name | .error "name"
    let some fields := parts.fields | .error "fields"
    .ok ⟨name, fields, parts.comment.getD none⟩

/-! ## Mappings -/

structure MappingParts where
  source : Option String := none
  destination : Option String := none
  overrides : Option (NameMap String) := none
  skipped : Option (List String) := none
  policy : Option Policy := none

namespace MappingParts

/-- Reads what a mapping of a configuration and a mapping table have in common. -/
def putTable (key : String) (draft : Draft) (parts : MappingParts) :
    Option (Except DecodeError MappingParts) :=
  match key with
  | "fields" => putOnce key parts.overrides (decodeNameMap draft)
      fun overrides => { parts with overrides := some overrides }
  | "skip" => putOnce key parts.skipped (decodeSequence decodeText draft)
      fun skipped => { parts with skipped := some skipped }
  | "policy" => putOnce key parts.policy (decodePolicy draft)
      fun policy => { parts with policy := some policy }
  | _ => none

def put (key : String) (draft : Draft) (parts : MappingParts) :
    Option (Except DecodeError MappingParts) :=
  match key with
  | "source" => putOnce key parts.source (decodeText draft)
      fun source => { parts with source := some source }
  | "destination" => putOnce key parts.destination (decodeText draft)
      fun destination => { parts with destination := some destination }
  | _ => parts.putTable key draft

end MappingParts

def mappingShape : Shape MappingParts MappingDecl where
  name := "MappingConfig"
  keys := ["source", "destination", "fields", "skip", "policy"]
  start := {}
  put := MappingParts.put
  finish parts := do
    let some source := parts.source | .error "source"
    let some destination := parts.destination | .error "destination"
    .ok ⟨source, destination, parts.overrides.getD ∅, parts.skipped.getD [],
      parts.policy.getD .permissive⟩

def tableShape : Shape MappingParts MappingTable where
  name := "MappingTable"
  keys := ["fields", "skip", "policy"]
  start := {}
  put := MappingParts.putTable
  finish parts :=
    .ok ⟨parts.overrides.getD ∅, .ofList (parts.skipped.getD []),
      parts.policy.getD .permissive⟩

/-! ## Configurations and tables -/

structure ConfigParts where
  schemas : Option (List SchemaDecl) := none
  mappings : Option (List MappingDecl) := none

def configShape : Shape ConfigParts Config where
  name := "FullConfig"
  keys := ["schemas", "mappings"]
  start := {}
  put key draft parts :=
    match key with
    | "schemas" => putOnce key parts.schemas (decodeSequence schemaShape.decode draft)
        fun schemas => { parts with schemas := some schemas }
    | "mappings" => putOnce key parts.mappings (decodeSequence mappingShape.decode draft)
        fun mappings => { parts with mappings := some mappings }
    | _ => none
  finish parts := .ok ⟨parts.schemas.getD [], parts.mappings.getD []⟩

def decodeConfig (text : String) : Except DecodeError Config :=
  decodeDocument configShape.decode text

def decodeTable (text : String) : Except DecodeError MappingTable :=
  decodeDocument tableShape.decode text

end Reshape.Config
