import Reshape.Proofs.Registry.Resolution
import Reshape.Proofs.Registry.Run
import Reshape.Proofs.Transformer.Typing

/-!
# Every record of a transformation is well typed

Records are well typed where they begin, as zero values or read from JSON, and
transformers keep them so.  Hence all that a resolved registry reads and renders is
well typed, under the schemas that the two names stand for.
-/

namespace Reshape.Registry

variable {config : Config} {registry : Registry} {source destination : String}
  {input : Json} {record : Record}

theorem Reads.wellTyped (hresolved : ofConfig config = .ok registry)
    {schema : Schema} (hschema : registry.schema? source = some schema)
    (h : registry.Reads source destination input record) :
    record.schema = schema ∧ record.WellTyped := by
  obtain ⟨transformer, htransformer, json, -, hrecord⟩ := h
  obtain ⟨hsource, -⟩ := schemas_of_transformer hresolved htransformer
  cases hschema.symm.trans hsource
  exact ⟨Record.schema_of_ofJson hrecord, Record.wellTyped_of_ofJson hrecord⟩

theorem Renders.wellTyped (hresolved : ofConfig config = .ok registry)
    {schema : Schema} (hschema : registry.schema? destination = some schema)
    (h : registry.Renders source destination input record) :
    record.schema = schema ∧ record.WellTyped := by
  obtain ⟨transformer, htransformer, hrendered⟩ := h
  obtain ⟨-, hdestination⟩ := schemas_of_transformer hresolved htransformer
  cases hschema.symm.trans hdestination
  rcases hrendered with ⟨-, hzeroed⟩ | ⟨json, -, read, hread, hout⟩
  · exact ⟨Transformer.schema_of_transform hzeroed,
      Transformer.wellTyped_of_transform (by simp) hzeroed⟩
  · refine ⟨Transformer.schema_of_transform hout,
      Transformer.wellTyped_of_transform (fun record heq => ?_) hout⟩
    cases heq
    exact Record.wellTyped_of_ofJson hread

theorem records_wellTyped :
    (∀ (transformer : Transformer) (source : Option Record) (out : Record),
      (∀ record, source = some record → record.WellTyped) →
      transformer.transform source = .ok out →
      out.schema = transformer.destination ∧
        out.values.length = transformer.destination.fields.length ∧
        out.WellTyped) ∧
    (∀ schema : Schema, (Record.zeroed schema).WellTyped) ∧
    (∀ (schema : Schema) (json : Json) (record : Record),
      Record.ofJson schema json = .ok record →
      record.schema = schema ∧ record.WellTyped) ∧
    ∀ (config : Config) (registry : Registry), ofConfig config = .ok registry →
      ∀ (source destination : String) (left right : Schema),
        registry.schema? source = some left →
        registry.schema? destination = some right →
        ∀ input : Json,
          (∀ record, registry.Reads source destination input record →
            record.schema = left ∧ record.WellTyped) ∧
          (∀ record, registry.Renders source destination input record →
            record.schema = right ∧ record.WellTyped) ∧
          ∀ output, registry.transformJson source destination input = .ok output →
            ∃ records,
              (∀ record, record ∈ records ↔
                registry.Renders source destination input record) ∧
              (output = .array (records.map (·.toJson)) ∨
                ∃ record, records = [record] ∧ output = record.toJson) := by
  refine ⟨?_, Record.zeroed_wellTyped, ?_, ?_⟩
  · intro transformer source out hsource hout
    have hschema := Transformer.schema_of_transform hout
    have htyped := Transformer.wellTyped_of_transform hsource hout
    exact ⟨hschema, hschema ▸ htyped.complete, htyped⟩
  · intro schema json record hrecord
    exact ⟨Record.schema_of_ofJson hrecord, Record.wellTyped_of_ofJson hrecord⟩
  · intro config registry hresolved source destination left right hleft hright input
    exact ⟨fun record => Reads.wellTyped hresolved hleft,
      fun record => Renders.wellTyped hresolved hright,
      fun output => renders_of_transformJson⟩

theorem records_wellTyped_narrowed :
    let left : Config.SchemaDecl := ⟨"Row", [⟨"n", .int .i32, ∅⟩], none⟩
    let right : Config.SchemaDecl := ⟨"Cell", [⟨"n", .int .u8, ∅⟩], none⟩
    let registry : Registry := ⟨declared ⟨[left, right], []⟩, .ofList []⟩
    let input : Json := .object [("n", .number (.integer 300 (by decide)))]
    let read : Record := ⟨left.toSchema, [.int .i32 ⟨300, by decide⟩]⟩
    let out : Record := ⟨right.toSchema, [.int .u8 ⟨44, by decide⟩]⟩
    ofConfig ⟨[left, right], []⟩ = .ok registry ∧
      registry.schema? "Row" = some left.toSchema ∧
      registry.schema? "Cell" = some right.toSchema ∧
      Record.ofJson left.toSchema input = .ok read ∧
      registry.Renders "Row" "Cell" input out ∧ read.WellTyped ∧ out.WellTyped := by
  intro left right registry input read out
  have hresolved : ofConfig ⟨[left, right], []⟩ = .ok registry :=
    ofConfig_eq_ok_iff.mpr ⟨rfl, [], rfl, rfl⟩
  have hleft : registry.schema? "Row" = some left.toSchema :=
    (schema?_eq_some_iff hresolved).mpr ⟨left, by simp, rfl, rfl⟩
  have hright : registry.schema? "Cell" = some right.toSchema :=
    (schema?_eq_some_iff hresolved).mpr ⟨right, by simp, rfl, rfl⟩
  have hread : Record.ofJson left.toSchema input = .ok read := rfl
  let transformer : Transformer := ⟨left.toSchema, right.toSchema, {}⟩
  have htransformer : registry.transformer "Row" "Cell" = .ok transformer :=
    transformer_of_unmapped hresolved (by simp) hleft hright
  have hout : transformer.transform (some read) = .ok out := by
    with_unfolding_all rfl
  have hrenders : registry.Renders "Row" "Cell" input out :=
    ⟨transformer, htransformer,
      .inr ⟨input, by simp [objects, input], read, hread, hout⟩⟩
  obtain ⟨-, -, hofJson, hregistry⟩ := records_wellTyped
  obtain ⟨-, hrendered, -⟩ := hregistry _ _ hresolved _ _ _ _ hleft hright input
  exact ⟨hresolved, hleft, hright, hread, hrenders, (hofJson _ _ _ hread).2,
    (hrendered out hrenders).2⟩

end Reshape.Registry
