import Reshape.Proofs.Registry.Resolution
import Reshape.Proofs.Transformer.Failure

/-!
# Registries are faithful to their configurations

Resolving fails where validation does and nowhere else.  The registry that it gives
holds what the configuration declares: its schemas, and one transformer for each of its
mappings.  A pair without a mapping has the empty table.
-/

namespace Reshape

open Config

/-! ## Tables -/

/-- The table has the overrides, the skipped fields and the policy of the mapping. -/
structure Config.MappingDecl.Configures (mapping : MappingDecl) (table : MappingTable) :
    Prop where
  overrides : table.overrides = mapping.overrides
  skipped : ∀ field, table.isSkipped field = true ↔ field ∈ mapping.skipped
  policy : table.policy = mapping.policy

private theorem Config.MappingDecl.configures_toTable (mapping : MappingDecl) :
    mapping.Configures mapping.toTable where
  overrides := rfl
  skipped := by simp [MappingTable.isSkipped, toTable]
  policy := rfl

namespace Registry

variable {config : Config} {registry : Registry} {source destination : String}
  {transformer : Transformer} {mapping : MappingDecl} {field : Field} {cause : ConfigError}

/-! ## Resolving -/

private theorem exists_declared (h : config.Valid) {name : String}
    (hname : name ∈ config.schemas.map (·.name)) :
    ∃ schema, (declared config)[name]? = some schema := by
  obtain ⟨decl, hdecl, rfl⟩ := List.mem_map.mp hname
  exact ⟨decl.toSchema, (declared_eq_some_iff h).mpr ⟨decl, hdecl, rfl, rfl⟩⟩

private theorem exists_ofMapping (h : config.Valid) (hmapping : mapping ∈ config.mappings) :
    ∃ entry, ofMapping (declared config) mapping = .ok entry := by
  have hgrounded := h.references mapping hmapping
  obtain ⟨left, hleft⟩ := exists_declared h hgrounded.source
  obtain ⟨right, hright⟩ := exists_declared h hgrounded.destination
  exact ⟨(mapping.pair, ⟨left, right, mapping.toTable⟩),
    ofMapping_eq_ok_iff.mpr ⟨rfl, hleft, hright, rfl⟩⟩

theorem exists_ofConfig_iff :
    (∃ registry, ofConfig config = .ok registry) ↔ config.validate = .ok () := by
  constructor
  · rintro ⟨registry, h⟩
    exact (ofConfig_eq_ok_iff.mp h).1
  · intro hvalidate
    have hvalid := validate_eq_ok_iff.mp hvalidate
    obtain ⟨transformers, htransformers⟩ := Sequence.exists_mapM_eq_ok_iff.mpr
      fun mapping (hmapping : mapping ∈ config.mappings) => exists_ofMapping hvalid hmapping
    exact ⟨_, ofConfig_eq_ok_iff.mpr ⟨hvalidate, transformers, htransformers, rfl⟩⟩

/-- No mapping of a configuration that passes validation refers to a schema that is
missing, so that only validation makes resolving fail. -/
theorem ofConfig_eq_error_iff :
    ofConfig config = .error cause ↔ config.validate = .error cause := by
  cases hvalidate : config.validate with
  | error error => simp [ofConfig, hvalidate, Sequence.error_bind]
  | ok value =>
      obtain ⟨registry, h⟩ := exists_ofConfig_iff.mpr hvalidate
      simp [h]

/-! ## Transformers -/

theorem transformer_eq_error_iff :
    registry.transformer source destination = .error cause ↔
      registry.transformers[(source, destination)]? = none ∧
        ((registry.schema? source = none ∧
            cause = .missingReference (.schema source)) ∨
          (∃ left, registry.schema? source = some left) ∧
            registry.schema? destination = none ∧
            cause = .missingReference (.schema destination)) := by
  unfold Registry.transformer
  cases registry.transformers[(source, destination)]? with
  | some configured => simp
  | none =>
      simp only [Sequence.bind_eq_error_iff, findSchema_eq_ok_iff, findSchema_eq_error_iff,
        schema?]
      simp

section Resolved

variable (h : ofConfig config = .ok registry)

include h

theorem mem_names_iff {name : String} :
    name ∈ config.schemas.map (·.name) ↔ ∃ schema, registry.schema? name = some schema := by
  simp [schema?_eq_some_iff h]

private theorem names_of_mapping (hmapping : mapping ∈ config.mappings) :
    (∃ left, registry.schema? mapping.source = some left) ∧
      ∃ right, registry.schema? mapping.destination = some right := by
  have hgrounded := (valid_of_ofConfig h).references mapping hmapping
  exact ⟨(mem_names_iff h).mp hgrounded.source, (mem_names_iff h).mp hgrounded.destination⟩

theorem transformers_of_mapping (hmapping : mapping ∈ config.mappings) :
    ∃ transformer, registry.transformers[mapping.pair]? = some transformer ∧
      transformer.mapping = mapping.toTable := by
  obtain ⟨⟨left, hleft⟩, right, hright⟩ := names_of_mapping h hmapping
  exact ⟨⟨left, right, mapping.toTable⟩,
    (transformers_eq_some_iff h).mpr ⟨mapping, hmapping, rfl, hleft, hright, rfl⟩, rfl⟩

private theorem mem_transformers_iff {pair : String × String} :
    pair ∈ registry.transformers ↔ pair ∈ config.mappings.map (·.pair) := by
  rw [Std.ExtHashMap.mem_iff_isSome_getElem?, Option.isSome_iff_exists, List.mem_map]
  constructor
  · rintro ⟨transformer, htransformer⟩
    obtain ⟨mapping, hmapping, hpair, -⟩ := (transformers_eq_some_iff h).mp htransformer
    exact ⟨mapping, hmapping, hpair⟩
  · rintro ⟨mapping, hmapping, rfl⟩
    obtain ⟨transformer, htransformer, -⟩ := transformers_of_mapping h hmapping
    exact ⟨transformer, htransformer⟩

theorem table_of_mapping (hmapping : mapping ∈ config.mappings)
    (htransformer :
      registry.transformer mapping.source mapping.destination = .ok transformer) :
    transformer.mapping = mapping.toTable := by
  obtain ⟨configured, hconfigured, htable⟩ := transformers_of_mapping h hmapping
  rw [MappingDecl.pair] at hconfigured
  rw [Registry.transformer, hconfigured] at htransformer
  cases htransformer
  exact htable

private theorem table_of_unmapped
    (hunmapped : (source, destination) ∉ config.mappings.map (·.pair))
    (htransformer : registry.transformer source destination = .ok transformer) :
    transformer.mapping = {} := by
  obtain ⟨hsource, hdestination⟩ := schemas_of_transformer h htransformer
  have hnone : ∀ mapping ∈ config.mappings, mapping.pair ≠ (source, destination) :=
    fun mapping hmapping hpair => hunmapped (List.mem_map.mpr ⟨mapping, hmapping, hpair⟩)
  have hempty := transformer_of_unmapped h hnone hsource hdestination
  rw [Except.ok.inj (htransformer.symm.trans hempty)]

theorem exists_transformer_iff :
    (∃ transformer, registry.transformer source destination = .ok transformer) ↔
      source ∈ config.schemas.map (·.name) ∧
        destination ∈ config.schemas.map (·.name) := by
  rw [mem_names_iff h, mem_names_iff h]
  constructor
  · rintro ⟨transformer, htransformer⟩
    obtain ⟨hsource, hdestination⟩ := schemas_of_transformer h htransformer
    exact ⟨⟨_, hsource⟩, _, hdestination⟩
  · rintro ⟨⟨left, hleft⟩, right, hright⟩
    cases htransformer : registry.transformer source destination with
    | ok transformer => exact ⟨transformer, rfl⟩
    | error cause =>
        rcases transformer_eq_error_iff.mp htransformer with
          ⟨-, ⟨hsource, -⟩ | ⟨-, hdestination, -⟩⟩
        · rw [hleft] at hsource
          cases hsource
        · rw [hright] at hdestination
          cases hdestination

private theorem transformer_eq_unknown_iff :
    registry.transformer source destination = .error cause ↔
      (source ∉ config.schemas.map (·.name) ∧
          cause = .missingReference (.schema source)) ∨
        (source ∈ config.schemas.map (·.name) ∧
          destination ∉ config.schemas.map (·.name) ∧
          cause = .missingReference (.schema destination)) := by
  have hunknown : ∀ name, registry.schema? name = none ↔
      name ∉ config.schemas.map (·.name) := by
    intro name
    rw [mem_names_iff h, Option.eq_none_iff_forall_ne_some, not_exists]
  rw [transformer_eq_error_iff, hunknown, hunknown, ← mem_names_iff h]
  refine and_iff_right_of_imp fun hnames => ?_
  rw [Option.eq_none_iff_forall_ne_some]
  intro configured hconfigured
  obtain ⟨hsource, hdestination⟩ := (exists_transformer_iff h).mp
    ⟨configured, by rw [Registry.transformer, hconfigured]⟩
  rcases hnames with ⟨hsource', -⟩ | ⟨-, hdestination', -⟩
  · exact hsource' hsource
  · exact hdestination' hdestination

/-! ## Overrides -/

private theorem sourceField?_of_override (hmapping : mapping ∈ config.mappings)
    (htransformer :
      registry.transformer mapping.source mapping.destination = .ok transformer)
    (hfield : field.name ∈ mapping.overrides) :
    ∃ found, transformer.sourceField? field = some found := by
  have hgrounded := (valid_of_ofConfig h).references mapping hmapping
  obtain ⟨hsource, -⟩ := schemas_of_transformer h htransformer
  obtain ⟨decl, hdecl, hname, hschema⟩ := (schema?_eq_some_iff h).mp hsource
  rw [Std.ExtTreeMap.mem_iff_isSome_getElem?, Option.isSome_iff_exists] at hfield
  obtain ⟨name, hoverride⟩ := hfield
  have htable := table_of_mapping h hmapping htransformer
  have hlookup : transformer.mapping.sourceName field.name = name := by
    simp [htable, MappingTable.sourceName, MappingDecl.toTable, hoverride]
  rw [Transformer.sourceField?, hlookup, ← hschema]
  exact hgrounded.sourceFields decl hdecl hname field.name name hoverride

private theorem transform_ne_unresolvedField_of_override (hmapping : mapping ∈ config.mappings)
    (htransformer :
      registry.transformer mapping.source mapping.destination = .ok transformer)
    {name : String} (hname : name ∈ mapping.overrides) (policy : Policy)
    (record : Record) (owner : String) :
    (transformer.withPolicy policy).transform (some record) ≠
      .error (.unresolvedField owner name) := by
  refine Transformer.transform_ne_unresolvedField ?_ owner
  rintro field - rfl
  obtain ⟨found, hfound⟩ := sourceField?_of_override h hmapping htransformer hname
  exact ⟨found, hfound⟩

end Resolved

/-! ## Registries -/

/-- The registry holds what the configuration declares and nothing else. -/
structure Faithful (config : Config) (registry : Registry) : Prop where
  schemas : ∀ name schema, registry.schema? name = some schema ↔
    ∃ decl ∈ config.schemas, decl.name = name ∧ decl.toSchema = schema
  countSchemas : registry.schemas.size = config.schemas.length
  transformers : ∀ pair, pair ∈ registry.transformers ↔
    pair ∈ config.mappings.map (·.pair)
  countTransformers : registry.transformers.size = config.mappings.length
  known : ∀ source destination,
    (∃ transformer, registry.transformer source destination = .ok transformer) ↔
      source ∈ config.schemas.map (·.name) ∧ destination ∈ config.schemas.map (·.name)
  unknown : ∀ source destination cause,
    registry.transformer source destination = .error cause ↔
      (source ∉ config.schemas.map (·.name) ∧
          cause = .missingReference (.schema source)) ∨
        (source ∈ config.schemas.map (·.name) ∧
          destination ∉ config.schemas.map (·.name) ∧
          cause = .missingReference (.schema destination))
  between : ∀ source destination transformer,
    registry.transformer source destination = .ok transformer →
      registry.schema? source = some transformer.source ∧
        registry.schema? destination = some transformer.destination
  mapped : ∀ mapping ∈ config.mappings, ∀ transformer,
    registry.transformer mapping.source mapping.destination = .ok transformer →
      mapping.Configures transformer.mapping
  unmapped : ∀ source destination transformer,
    registry.transformer source destination = .ok transformer →
      (source, destination) ∉ config.mappings.map (·.pair) → transformer.mapping = {}
  /-- What a mapping overrides is never unresolved, whatever the policy. -/
  resolved : ∀ mapping ∈ config.mappings, ∀ transformer,
    registry.transformer mapping.source mapping.destination = .ok transformer →
      ∀ name ∈ mapping.overrides, ∀ policy record owner,
        (transformer.withPolicy policy).transform (some record) ≠
          .error (.unresolvedField owner name)

private theorem counts_of_ofConfig (h : ofConfig config = .ok registry) :
    registry.schemas.size = config.schemas.length ∧
      registry.transformers.size = config.mappings.length := by
  have hvalid := valid_of_ofConfig h
  obtain ⟨-, transformers, htransformers, rfl⟩ := ofConfig_eq_ok_iff.mp h
  have hkeys := keys_of_mapM_ofMapping htransformers
  constructor
  · rw [declared, NameMap.size_ofList (nodup_declarations hvalid), List.length_map]
  · rw [size_ofList_pairs (hkeys ▸ hvalid.pairs),
      ← List.length_map Prod.fst, hkeys, List.length_map]

theorem faithful_of_ofConfig (h : ofConfig config = .ok registry) :
    Faithful config registry where
  schemas _ _ := schema?_eq_some_iff h
  countSchemas := (counts_of_ofConfig h).1
  transformers _ := mem_transformers_iff h
  countTransformers := (counts_of_ofConfig h).2
  known _ _ := exists_transformer_iff h
  unknown _ _ _ := transformer_eq_unknown_iff h
  between _ _ _ := schemas_of_transformer h
  mapped mapping hmapping transformer htransformer := by
    rw [table_of_mapping h hmapping htransformer]
    exact mapping.configures_toTable
  unmapped _ _ _ htransformer hunmapped := table_of_unmapped h hunmapped htransformer
  resolved _ hmapping _ htransformer _ hname :=
    transform_ne_unresolvedField_of_override h hmapping htransformer hname

theorem ofConfig_faithful (config : Config) :
    (∀ cause, ofConfig config = .error cause ↔ config.validate = .error cause) ∧
      ((∃ registry, ofConfig config = .ok registry) ↔ config.validate = .ok ()) ∧
      ∀ registry, ofConfig config = .ok registry → Faithful config registry :=
  ⟨fun _ => ofConfig_eq_error_iff, exists_ofConfig_iff, fun _ => faithful_of_ofConfig⟩

/-- The override goes by an alias; the pair the other way round has no mapping. -/
theorem ofConfig_faithful_aliased :
    let row : SchemaDecl := ⟨"Row", [⟨"ID", .int .i64, .ofList [("json", "id")]⟩], none⟩
    let cell : SchemaDecl := ⟨"Cell", [⟨"key", .string, ∅⟩, ⟨"note", .string, ∅⟩], none⟩
    let mapping : MappingDecl := ⟨"Row", "Cell", .ofList [("key", "id")], ["note"], .strict⟩
    let config : Config := ⟨[row, cell], [mapping]⟩
    (∃ registry transformer reversed, ofConfig config = .ok registry ∧
      registry.schemas.size = 2 ∧ registry.transformers.size = 1 ∧
      registry.schema? "Row" = some row.toSchema ∧
      registry.transformer "Row" "Cell" = .ok transformer ∧
      mapping.Configures transformer.mapping ∧
      (∀ record owner, (transformer.withPolicy .strict).transform (some record) ≠
        .error (.unresolvedField owner "key")) ∧
      registry.transformer "Cell" "Row" = .ok reversed ∧ reversed.mapping = {} ∧
      registry.transformer "Box" "Lid" = .error (.missingReference (.schema "Box"))) ∧
    ofConfig ⟨[row], [mapping]⟩ = .error (.missingReference (.schema "Cell")) := by
  intro row cell mapping config
  obtain ⟨-, hresolves, hfaithful⟩ := ofConfig_faithful config
  obtain ⟨registry, hregistry⟩ := hresolves.mpr (by decide +kernel)
  have hheld := hfaithful registry hregistry
  have hmapping : mapping ∈ config.mappings := by simp [config]
  obtain ⟨transformer, htransformer⟩ :=
    (hheld.known "Row" "Cell").mpr (by simp [config, row, cell])
  obtain ⟨reversed, hreversed⟩ :=
    (hheld.known "Cell" "Row").mpr (by simp [config, row, cell])
  refine ⟨⟨registry, transformer, reversed, hregistry, hheld.countSchemas,
    hheld.countTransformers, ?_, htransformer, ?_, ?_, hreversed, ?_, ?_⟩, ?_⟩
  · exact (hheld.schemas _ _).mpr ⟨row, by simp [config], rfl, rfl⟩
  · exact hheld.mapped mapping hmapping transformer htransformer
  · exact hheld.resolved mapping hmapping transformer htransformer "key"
      (by simp [mapping]) .strict
  · exact hheld.unmapped _ _ _ hreversed (by simp [config, mapping, MappingDecl.pair])
  · exact (hheld.unknown _ _ _).mpr (.inl ⟨by simp [config, row, cell], rfl⟩)
  · exact ((ofConfig_faithful ⟨[row], [mapping]⟩).1 _).mpr (by decide +kernel)

end Registry

end Reshape
