import Reshape.Proofs.Config.Verdict
import Reshape.Proofs.Maps
import Reshape.Registry

/-!
# What a resolved registry holds

The registry of a configuration finds each declared schema under its name and each
configured transformer under its pair of names, and nothing else.  Since a valid
configuration declares no name and no pair twice, no declaration hides another.
-/

namespace Reshape

namespace Registry

/-! ## Resolving -/

theorem findSchema_eq_ok_iff {schemas : NameMap Schema} {name : String}
    {schema : Schema} :
    findSchema schemas name = .ok schema ↔ schemas[name]? = some schema := by
  unfold findSchema
  cases schemas[name]? <;> simp

theorem findSchema_eq_error_iff {schemas : NameMap Schema} {name : String}
    {cause : ConfigError} :
    findSchema schemas name = .error cause ↔
      schemas[name]? = none ∧ cause = .missingReference (.schema name) := by
  unfold findSchema
  cases schemas[name]? <;> simp [eq_comm]

theorem ofMapping_eq_ok_iff {schemas : NameMap Schema} {mapping : Config.MappingDecl}
    {entry : (String × String) × Transformer} :
    ofMapping schemas mapping = .ok entry ↔
      entry.1 = mapping.pair ∧ schemas[mapping.source]? = some entry.2.source ∧
        schemas[mapping.destination]? = some entry.2.destination ∧
        entry.2.mapping = mapping.toTable := by
  obtain ⟨pair, source, destination, table⟩ := entry
  simp only [ofMapping, Sequence.bind_eq_ok_iff, findSchema_eq_ok_iff]
  constructor
  · rintro ⟨_, hsource, _, hdestination, heq⟩
    cases heq
    exact ⟨rfl, hsource, hdestination, rfl⟩
  · rintro ⟨rfl, hsource, hdestination, rfl⟩
    exact ⟨source, hsource, destination, hdestination, rfl⟩

theorem keys_of_mapM_ofMapping {schemas : NameMap Schema}
    {mappings : List Config.MappingDecl} {entries : List ((String × String) × Transformer)}
    (h : mappings.mapM (ofMapping schemas) = .ok entries) :
    entries.map Prod.fst = mappings.map (·.pair) := by
  apply Sequence.eq_map_of_forall₂
  rw [List.forall₂_map_right_iff]
  exact (Sequence.mapM_eq_ok_iff.mp h).imp fun _ _ hentry => (ofMapping_eq_ok_iff.mp hentry).1

def declared (config : Config) : NameMap Schema :=
  .ofList (config.schemas.map fun schema => (schema.name, schema.toSchema))

theorem nodup_declarations {config : Config} (h : config.Valid) :
    ((config.schemas.map fun decl => (decl.name, decl.toSchema)).map Prod.fst).Nodup := by
  simpa [List.map_map, Function.comp_def] using h.schemaNames

theorem declared_eq_some_iff {config : Config} (h : config.Valid) {name : String}
    {schema : Schema} :
    (declared config)[name]? = some schema ↔
      ∃ decl ∈ config.schemas, decl.name = name ∧ decl.toSchema = schema := by
  rw [declared, NameMap.getElem?_ofList_iff (nodup_declarations h), List.mem_map]
  simp

theorem ofConfig_eq_ok_iff {config : Config} {registry : Registry} :
    ofConfig config = .ok registry ↔
      config.validate = .ok () ∧ ∃ transformers,
        config.mappings.mapM (ofMapping (declared config)) = .ok transformers ∧
          registry = ⟨declared config, .ofList transformers⟩ := by
  unfold ofConfig
  rw [Sequence.check_bind_eq_ok_iff]
  refine and_congr Iff.rfl ?_
  rw [Sequence.bind_eq_ok_iff]
  simp [declared, eq_comm]

section Resolved

variable {config : Config} {registry : Registry}

theorem valid_of_ofConfig (h : ofConfig config = .ok registry) : config.Valid :=
  Config.validate_eq_ok_iff.mp (ofConfig_eq_ok_iff.mp h).1

theorem schema?_eq_some_iff (h : ofConfig config = .ok registry) {name : String}
    {schema : Schema} :
    registry.schema? name = some schema ↔
      ∃ decl ∈ config.schemas, decl.name = name ∧ decl.toSchema = schema := by
  have hvalid := valid_of_ofConfig h
  obtain ⟨-, transformers, -, rfl⟩ := ofConfig_eq_ok_iff.mp h
  exact declared_eq_some_iff hvalid

theorem transformers_eq_some_iff (h : ofConfig config = .ok registry)
    {source destination : String} {transformer : Transformer} :
    registry.transformers[(source, destination)]? = some transformer ↔
      ∃ mapping ∈ config.mappings, mapping.pair = (source, destination) ∧
        registry.schema? source = some transformer.source ∧
        registry.schema? destination = some transformer.destination ∧
        transformer.mapping = mapping.toTable := by
  have hpairs := (valid_of_ofConfig h).pairs
  obtain ⟨-, transformers, htransformers, rfl⟩ := ofConfig_eq_ok_iff.mp h
  rw [getElem?_ofList_pairs_iff (keys_of_mapM_ofMapping htransformers ▸ hpairs),
    Sequence.mem_iff_of_mapM htransformers]
  refine exists_congr fun mapping => and_congr_right fun hmapping => ?_
  rw [ofMapping_eq_ok_iff]
  constructor
  · rintro ⟨hpair, hsource, hdestination, htable⟩
    cases hpair
    exact ⟨rfl, hsource, hdestination, htable⟩
  · rintro ⟨hpair, hsource, hdestination, htable⟩
    cases hpair
    exact ⟨rfl, hsource, hdestination, htable⟩

/-- A transformer goes between the schemas of the two names that it is found under. -/
theorem schemas_of_transformer (h : ofConfig config = .ok registry)
    {source destination : String} {transformer : Transformer}
    (htransformer : registry.transformer source destination = .ok transformer) :
    registry.schema? source = some transformer.source ∧
      registry.schema? destination = some transformer.destination := by
  unfold Registry.transformer at htransformer
  split at htransformer
  · rename_i configured hconfigured
    cases htransformer
    obtain ⟨mapping, -, -, hsource, hdestination, -⟩ :=
      (transformers_eq_some_iff h).mp hconfigured
    exact ⟨hsource, hdestination⟩
  · simp only [Sequence.bind_eq_ok_iff, findSchema_eq_ok_iff] at htransformer
    obtain ⟨_, hsource, _, hdestination, heq⟩ := htransformer
    cases heq
    exact ⟨hsource, hdestination⟩

/-- Between two known schemas that no mapping is for, the table is empty. -/
theorem transformer_of_unmapped (h : ofConfig config = .ok registry)
    {source destination : String} {left right : Schema}
    (hunmapped : ∀ mapping ∈ config.mappings, mapping.pair ≠ (source, destination))
    (hsource : registry.schema? source = some left)
    (hdestination : registry.schema? destination = some right) :
    registry.transformer source destination =
      .ok { source := left, destination := right } := by
  have hnone : registry.transformers[(source, destination)]? = none := by
    cases hfound : registry.transformers[(source, destination)]? with
    | none => rfl
    | some transformer =>
        obtain ⟨mapping, hmapping, hpair, -⟩ := (transformers_eq_some_iff h).mp hfound
        exact absurd hpair (hunmapped mapping hmapping)
  unfold Registry.transformer
  rw [hnone, findSchema_eq_ok_iff.mpr hsource, findSchema_eq_ok_iff.mpr hdestination]
  rfl

theorem distinct_of_schema? (h : ofConfig config = .ok registry) {name : String}
    {schema : Schema} (hschema : registry.schema? name = some schema) :
    schema.DistinctNames ∧ schema.DistinctKeys := by
  obtain ⟨decl, hdecl, -, rfl⟩ := (schema?_eq_some_iff h).mp hschema
  have hvalid := valid_of_ofConfig h
  exact ⟨hvalid.fieldNames decl hdecl, hvalid.jsonKeys decl hdecl⟩

end Resolved

end Registry

end Reshape
