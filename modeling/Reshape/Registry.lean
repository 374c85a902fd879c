import Std.Data.ExtHashMap
import Reshape.Config.Validation
import Reshape.Record.Json
import Reshape.Transformer

/-!
# Registries

A registry holds schemas by name and a transformer for each configured pair of
them.  It is resolved from a valid configuration, and it transforms JSON from one
schema to another.
-/

namespace Reshape

structure Registry where
  schemas : NameMap Schema := ∅
  transformers : Std.ExtHashMap (String × String) Transformer := ∅

namespace Registry

def findSchema (schemas : NameMap Schema) (name : String) : Except ConfigError Schema :=
  match schemas[name]? with
  | some schema => .ok schema
  | none => .error (.missingReference (.schema name))

def schema? (registry : Registry) (name : String) : Option Schema :=
  registry.schemas[name]?

/-- The configured transformer, or one with an empty table between two known schemas. -/
def transformer (registry : Registry) (source destination : String) :
    Except ConfigError Transformer :=
  match registry.transformers[(source, destination)]? with
  | some transformer => .ok transformer
  | none => do
      let source ← findSchema registry.schemas source
      let destination ← findSchema registry.schemas destination
      .ok { source, destination }

/-! ## Resolving a configuration -/

/-- The transformer that a mapping declares, with the pair of names that it is for. -/
def ofMapping (schemas : NameMap Schema) (mapping : Config.MappingDecl) :
    Except ConfigError ((String × String) × Transformer) := do
  let source ← findSchema schemas mapping.source
  let destination ← findSchema schemas mapping.destination
  .ok ((mapping.source, mapping.destination),
    { source, destination, mapping := mapping.toTable })

def ofConfig (config : Config) : Except ConfigError Registry := do
  config.validate
  let schemas : NameMap Schema :=
    .ofList (config.schemas.map fun schema => (schema.name, schema.toSchema))
  let transformers ← config.mappings.mapM (ofMapping schemas)
  .ok { schemas, transformers := .ofList transformers }

/-- Success is told by one event, and a failure by none. -/
def runConfig (config : Config) : Traced ConfigError Registry :=
  match ofConfig config with
  | .ok registry =>
      ⟨[.configResolved registry.schemas.size registry.transformers.size], .ok registry⟩
  | .error error => ⟨[], .error error⟩

/-! ## Transforming JSON -/

def runObject (transformer : Transformer) (json : Json) : Traced TransformError Json :=
  (Traced.ofExcept (Record.ofJson transformer.source json)).bind fun record =>
    (transformer.run (some record)).map (·.toJson)

def runInput (transformer : Transformer) : Json → Traced TransformError Json
  | .array items => (Transformer.runBatch (runObject transformer) items).map .array
  | .null => (transformer.run none).map (·.toJson)
  | json => runObject transformer json

/-- Transforms an object, each object of an array, or null, which gives zero values. -/
def run (registry : Registry) (source destination : String) (input : Json) :
    Traced TransformError Json :=
  match registry.transformer source destination with
  | .error cause => .ofExcept (.error (.config cause))
  | .ok transformer => runInput transformer input

def transformJson (registry : Registry) (source destination : String) (input : Json) :
    Except TransformError Json :=
  (registry.run source destination input).result

end Registry

end Reshape
