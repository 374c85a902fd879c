import Reshape.Config.Validation
import Reshape.Proofs.Schema.Lookup
import Reshape.Proofs.Sequence.Fault

/-!
# What makes a configuration invalid

The faults of a declaration, each with the error that names it, and the validity of a
configuration.  A configuration is valid if none of its declarations has a fault.
-/

namespace Reshape

open Sequence

private theorem Schema.distinctKeys_iff {schema : Schema} :
    schema.DistinctKeys ↔
      ∀ first second : Field, [first, second].Sublist schema.visible →
        first.jsonKey ≠ second.jsonKey := by
  unfold Schema.DistinctKeys List.Nodup
  rw [List.pairwise_map, List.pairwise_iff_forall_sublist]

namespace Config

/-! ## Schemas -/

/-- What is wrong with a schema that follows those in `earlier`. -/
inductive SchemaDecl.Fault (earlier : List SchemaDecl) (schema : SchemaDecl) :
    ConfigError → Prop where
  | repeatedName :
      schema.name ∈ earlier.map (·.name) →
      Fault earlier schema (.duplicateSchema schema.name)
  | repeatedField (field : String) :
      [field, field].Sublist (schema.fields.map (·.name)) →
      Fault earlier schema (.duplicateField schema.name field)
  | sharedKey (first second : Field) :
      [first, second].Sublist schema.toSchema.visible →
      first.jsonKey = second.jsonKey →
      Fault earlier schema
        (.sharedKey schema.name second.jsonKey first.name second.name)

theorem SchemaDecl.names_toSchema (decl : SchemaDecl) :
    decl.toSchema.fields.map (·.name) = decl.fields.map (·.name) := by
  simp [toSchema, FieldDecl.toField]

private theorem SchemaDecl.distinctNames_iff {decl : SchemaDecl} :
    decl.toSchema.DistinctNames ↔
      ∀ field, ¬[field, field].Sublist (decl.fields.map (·.name)) := by
  unfold Schema.DistinctNames
  rw [names_toSchema, List.nodup_iff_sublist]

theorem SchemaDecl.forall_not_fault_iff {earlier : List SchemaDecl}
    {schema : SchemaDecl} :
    (∀ error, ¬schema.Fault earlier error) ↔
      schema.name ∉ earlier.map (·.name) ∧
        schema.toSchema.DistinctNames ∧ schema.toSchema.DistinctKeys := by
  rw [distinctNames_iff, Schema.distinctKeys_iff]
  constructor
  · intro h
    exact ⟨fun hmem => h _ (.repeatedName hmem),
      fun field hfield => h _ (.repeatedField field hfield),
      fun first second hfields hkey => h _ (.sharedKey first second hfields hkey)⟩
  · rintro ⟨hname, hfields, hkeys⟩ error hfault
    cases hfault with
    | repeatedName hmem => exact hname hmem
    | repeatedField field hfield => exact hfields field hfield
    | sharedKey first second hvisible hkey => exact hkeys first second hvisible hkey

/-! ## Mappings -/

/-- The pair of schemas that a mapping is for. -/
def MappingDecl.pair (decl : MappingDecl) : String × String :=
  (decl.source, decl.destination)

/-- What is wrong with a mapping that follows those in `earlier`. -/
inductive MappingDecl.Fault (schemas : List SchemaDecl) (earlier : List MappingDecl)
    (mapping : MappingDecl) : ConfigError → Prop where
  | unknownSource :
      mapping.source ∉ schemas.map (·.name) →
      Fault schemas earlier mapping (.missingReference (.schema mapping.source))
  | unknownDestination :
      mapping.destination ∉ schemas.map (·.name) →
      Fault schemas earlier mapping (.missingReference (.schema mapping.destination))
  | repeatedPair :
      mapping.pair ∈ earlier.map (·.pair) →
      Fault schemas earlier mapping
        (.duplicateMapping mapping.source mapping.destination)
  | unknownField (destination : SchemaDecl) (field : String) :
      destination ∈ schemas → destination.name = mapping.destination →
      field ∈ mapping.overrides ∨ field ∈ mapping.skipped →
      field ∉ destination.fields.map (·.name) →
      Fault schemas earlier mapping
        (.missingReference (.destinationField mapping.destination field))
  | unresolvedSource (source : SchemaDecl) (field name : String) :
      source ∈ schemas → source.name = mapping.source →
      mapping.overrides[field]? = some name → source.toSchema.resolve? name = none →
      Fault schemas earlier mapping
        (.missingReference (.sourceField mapping.source name))

/-- All that a mapping refers to is there. -/
structure MappingDecl.Grounded (schemas : List SchemaDecl) (mapping : MappingDecl) :
    Prop where
  source : mapping.source ∈ schemas.map (·.name)
  destination : mapping.destination ∈ schemas.map (·.name)
  destinationFields : ∀ destination ∈ schemas, destination.name = mapping.destination →
    ∀ field : String, field ∈ mapping.overrides ∨ field ∈ mapping.skipped →
      field ∈ destination.fields.map (·.name)
  sourceFields : ∀ source ∈ schemas, source.name = mapping.source →
    ∀ field name : String, mapping.overrides[field]? = some name →
      ∃ found, source.toSchema.resolve? name = some found

private theorem MappingDecl.forall_not_fault_iff {schemas : List SchemaDecl}
    {earlier : List MappingDecl} {mapping : MappingDecl} :
    (∀ error, ¬mapping.Fault schemas earlier error) ↔
      mapping.pair ∉ earlier.map (·.pair) ∧ mapping.Grounded schemas := by
  constructor
  · intro h
    refine ⟨fun hmem => h _ (.repeatedPair hmem), ?_, ?_, ?_, ?_⟩
    · by_contra hsource
      exact h _ (.unknownSource hsource)
    · by_contra hdestination
      exact h _ (.unknownDestination hdestination)
    · intro destination hmem hname field hfield
      by_contra hunknown
      exact h _ (.unknownField destination field hmem hname hfield hunknown)
    · intro source hmem hname field name hoverride
      rw [← Option.isSome_iff_exists, Option.isSome_iff_ne_none]
      exact fun hnone => h _ (.unresolvedSource source field name hmem hname hoverride hnone)
  · rintro ⟨hpair, hgrounded⟩ error hfault
    cases hfault with
    | unknownSource hsource => exact hsource hgrounded.source
    | unknownDestination hdestination => exact hdestination hgrounded.destination
    | repeatedPair hmem => exact hpair hmem
    | unknownField destination field hmem hname hfield hunknown =>
        exact hunknown (hgrounded.destinationFields destination hmem hname field hfield)
    | unresolvedSource source field name hmem hname hoverride hnone =>
        obtain ⟨found, hfound⟩ :=
          hgrounded.sourceFields source hmem hname field name hoverride
        rw [hnone] at hfound
        cases hfound

/-! ## Configurations -/

structure Valid (config : Config) : Prop where
  schemaNames : (config.schemas.map (·.name)).Nodup
  fieldNames : ∀ schema ∈ config.schemas, schema.toSchema.DistinctNames
  jsonKeys : ∀ schema ∈ config.schemas, schema.toSchema.DistinctKeys
  pairs : (config.mappings.map (·.pair)).Nodup
  references : ∀ mapping ∈ config.mappings, mapping.Grounded config.schemas

theorem valid_iff_faultless {config : Config} :
    config.Valid ↔
      Faultless SchemaDecl.Fault config.schemas ∧
        Faultless (MappingDecl.Fault config.schemas) config.mappings := by
  simp only [Faultless, SchemaDecl.forall_not_fault_iff, MappingDecl.forall_not_fault_iff,
    imp_and, forall_and, ← nodup_map_iff_earlier, forall_prefix_iff]
  constructor
  · intro h
    exact ⟨⟨h.schemaNames, h.fieldNames, h.jsonKeys⟩, h.pairs, h.references⟩
  · rintro ⟨⟨hnames, hfields, hkeys⟩, hpairs, hreferences⟩
    exact ⟨hnames, hfields, hkeys, hpairs, hreferences⟩

end Config

end Reshape
