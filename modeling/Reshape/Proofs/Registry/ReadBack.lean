import Reshape.Proofs.Record.ReadBack
import Reshape.Proofs.Registry.Typing
import Reshape.Proofs.Transformer.RoundTrip

/-!
# What a registry reads back of its output

Each record that a registry renders is read back under its schema if it is legible,
and is rendered to the same object.  Where no mapping leads from a schema to itself,
transforming an output under its own schema then gives the output again.
-/

namespace Reshape.Registry

variable {config : Config} {registry : Registry} {source destination : String}
  {schema : Schema} {input output : Json} {emitted : Record}

/-! ## Single records -/

theorem Renders.ofJson_eq_ok_iff (hresolved : ofConfig config = .ok registry)
    (hschema : registry.schema? destination = some schema)
    (h : registry.Renders source destination input emitted) {back : Record} :
    Record.ofJson schema emitted.toJson = .ok back ↔
      emitted.Legible ∧ back = emitted.settled := by
  obtain ⟨rfl, hrecord⟩ := h.wellTyped hresolved hschema
  exact Record.ofJson_toJson_eq_ok_iff (distinct_of_schema? hresolved hschema).2 hrecord

theorem Renders.complete (hresolved : ofConfig config = .ok registry)
    (hschema : registry.schema? destination = some schema)
    (h : registry.Renders source destination input emitted) : emitted.Complete :=
  (h.wellTyped hresolved hschema).2.complete

/-- From a schema to itself a record is carried as it was read. -/
theorem Renders.carries_iff (hresolved : ofConfig config = .ok registry)
    (hschema : registry.schema? destination = some schema)
    (h : registry.Renders source destination input emitted) {out : Record} :
    Transformer.Carries ⟨schema, schema, {}⟩ emitted.toJson out ↔
      emitted.Legible ∧ out = emitted.settled := by
  obtain ⟨hnames, -⟩ := distinct_of_schema? hresolved hschema
  constructor
  · rintro ⟨back, hback, hout⟩
    rw [Transformer.transform_same hnames .permissive (Record.schema_of_ofJson hback)
      (Record.wellTyped_of_ofJson hback).complete] at hout
    cases hout
    exact (h.ofJson_eq_ok_iff hresolved hschema).mp hback
  · intro hsettled
    have hback := (h.ofJson_eq_ok_iff hresolved hschema).mpr hsettled
    exact ⟨out, hback, Transformer.transform_same hnames .permissive
      (Record.schema_of_ofJson hback) (Record.wellTyped_of_ofJson hback).complete⟩

/-! ## Outputs under their own schema -/

private theorem result_runInput_toJson_eq_ok_iff {transformer : Transformer} {record : Record} :
    (runInput transformer record.toJson).result = .ok output ↔
      ∃ out, transformer.Carries record.toJson out ∧ output = out.toJson :=
  result_runObject_eq_ok_iff

private theorem runInput_toJson_same_iff (hresolved : ofConfig config = .ok registry)
    (hschema : registry.schema? destination = some schema)
    (h : registry.Renders source destination input emitted) :
    (runInput ⟨schema, schema, {}⟩ emitted.toJson).result = .ok emitted.toJson ↔
      emitted.Legible := by
  rw [result_runInput_toJson_eq_ok_iff]
  simp only [h.carries_iff hresolved hschema]
  constructor
  · rintro ⟨out, ⟨hlegible, -⟩, -⟩
    exact hlegible
  · intro hlegible
    exact ⟨_, ⟨hlegible, rfl⟩, (h.complete hresolved hschema).toJson_settled.symm⟩

private theorem runInput_array_same_iff (hresolved : ofConfig config = .ok registry)
    (hschema : registry.schema? destination = some schema) {records : List Record}
    (h : ∀ record ∈ records, registry.Renders source destination input record) :
    (runInput ⟨schema, schema, {}⟩ (.array (records.map (·.toJson)))).result =
        .ok (.array (records.map (·.toJson))) ↔
      ∀ record ∈ records, record.Legible := by
  simp only [result_runInput_array_eq_ok_iff, List.forall₂_map_left_iff]
  constructor
  · rintro ⟨outs, houts, -⟩
    exact Sequence.forall_of_forall₂ houts fun record hrecord out hout =>
      (((h record hrecord).carries_iff hresolved hschema).mp hout).1
  · intro hlegible
    refine ⟨records.map (·.settled), ?_, ?_⟩
    · rw [List.forall₂_map_right_iff, List.forall₂_same]
      intro record hrecord
      exact ((h record hrecord).carries_iff hresolved hschema).mpr
        ⟨hlegible record hrecord, rfl⟩
    · rw [List.map_map]
      congr 1
      exact List.map_congr_left fun record hrecord =>
        ((h record hrecord).complete hresolved hschema).toJson_settled.symm

/-! ## Single values -/

/-- A schema whose records have one value. -/
def cell (type : FieldType) : Config.SchemaDecl := ⟨"Cell", [⟨"a", type, ∅⟩], none⟩

def cellRegistry (type : FieldType) : Registry :=
  ⟨declared ⟨[cell type], []⟩, .ofList []⟩

def cellRecord (type : FieldType) (value : Value) : Record :=
  ⟨(cell type).toSchema, [value]⟩

section Cell

variable {type : FieldType} {json : Json} {value : Value}

theorem ofConfig_cell (type : FieldType) :
    ofConfig ⟨[cell type], []⟩ = .ok (cellRegistry type) :=
  ofConfig_eq_ok_iff.mpr ⟨rfl, [], rfl, rfl⟩

theorem schema?_cell (type : FieldType) :
    (cellRegistry type).schema? "Cell" = some (cell type).toSchema :=
  (schema?_eq_some_iff (ofConfig_cell type)).mpr
    ⟨cell type, List.mem_singleton_self _, rfl, rfl⟩

theorem transformer_cell (type : FieldType) :
    (cellRegistry type).transformer "Cell" "Cell" =
      .ok ⟨(cell type).toSchema, (cell type).toSchema, {}⟩ :=
  transformer_of_unmapped (ofConfig_cell type) (by simp) (schema?_cell type)
    (schema?_cell type)

theorem carries_cell (hread : Value.ofJson type json = .ok value) :
    Transformer.Carries ⟨(cell type).toSchema, (cell type).toSchema, {}⟩
      (.object [("a", json)]) (cellRecord type value) := by
  obtain ⟨hnames, -⟩ := distinct_of_schema? (ofConfig_cell type) (schema?_cell type)
  have hrecord : Record.ofJson (cell type).toSchema (.object [("a", json)]) =
      .ok (cellRecord type value) := by
    refine Record.ofJson_eq_ok_iff.mpr ⟨_, [value], rfl, ?_, rfl⟩
    rw [Sequence.mapM_eq_ok_iff]
    exact .cons ((Record.readField_eq_ok_iff rfl rfl).mpr hread) .nil
  exact ⟨_, hrecord, Transformer.transform_same hnames .permissive rfl rfl⟩

theorem transformJson_cell (hread : Value.ofJson type json = .ok value) :
    (cellRegistry type).transformJson "Cell" "Cell" (.object [("a", json)]) =
      .ok (cellRecord type value).toJson :=
  transformJson_eq_ok_iff.mpr ⟨_, transformer_cell type,
    result_runObject_eq_ok_iff.mpr ⟨_, carries_cell hread, rfl⟩⟩

theorem renders_cell_iff (hread : Value.ofJson type json = .ok value) {record : Record} :
    (cellRegistry type).Renders "Cell" "Cell" (.object [("a", json)]) record ↔
      record = cellRecord type value := by
  simp only [Renders, transformer_cell, objects, List.mem_singleton, Except.ok.injEq,
    exists_eq_left', reduceCtorEq, false_and, false_or, exists_eq_left]
  exact ⟨fun hrecord => hrecord.unique (carries_cell hread),
    fun heq => heq ▸ carries_cell hread⟩

theorem legible_cellRecord_iff : (cellRecord type value).Legible ↔ value.Legible type := by
  constructor
  · intro hlegible
    exact hlegible (⟨"a", type, _⟩, value) (List.mem_singleton_self _) rfl
  · intro hlegible entry hentry _
    obtain rfl := List.mem_singleton.mp hentry
    exact hlegible

end Cell

/-- `2 ^ 128`, which single precision does not reach. -/
def huge : Floating.Finite .double := ⟨false, (1023 + 128) * 2 ^ 52, by decide⟩

theorem ofJson_huge :
    Value.ofJson .f32 (.number (.float huge)) = .ok (.f32 (.infinite false)) := by
  have hnarrowed : (Floating.finite huge).convert .single = .infinite false := by
    decide +kernel
  simp [Value.ofJson, Json.Number.toDouble, hnarrowed]

/-! ## All outputs -/

theorem transformJson_readBack (hresolved : ofConfig config = .ok registry)
    (hschema : registry.schema? destination = some schema)
    (htransform : registry.transformJson source destination input = .ok output) :
    (∃ records,
      (∀ record, record ∈ records ↔ registry.Renders source destination input record) ∧
        (output = .array (records.map (·.toJson)) ∨
          ∃ record, records = [record] ∧ output = record.toJson)) ∧
    (∀ members, input = .object members →
      ∃ emitted,
        (∀ record, registry.Renders source destination input record ↔
          record = emitted) ∧
        output = emitted.toJson) ∧
    (∀ emitted, registry.Renders source destination input emitted →
      ((∃ back, Record.ofJson schema emitted.toJson = .ok back) ↔ emitted.Legible) ∧
        ∀ back, Record.ofJson schema emitted.toJson = .ok back →
          back.toJson = emitted.toJson) ∧
    ((∀ mapping ∈ config.mappings, mapping.pair ≠ (destination, destination)) →
      (registry.transformJson destination destination output = .ok output ↔
        ∀ emitted, registry.Renders source destination input emitted →
          emitted.Legible)) := by
  refine ⟨renders_of_transformJson htransform, ?_, ?_, ?_⟩
  · rintro members rfl
    exact renders_iff_of_transformJson_object htransform
  · intro emitted hemitted
    have hback (back : Record) : Record.ofJson schema emitted.toJson = .ok back ↔
        emitted.Legible ∧ back = emitted.settled :=
      hemitted.ofJson_eq_ok_iff hresolved hschema
    simp only [hback, exists_and_left, exists_eq, and_true, and_imp, true_and]
    rintro back - rfl
    exact (hemitted.complete hresolved hschema).toJson_settled
  · intro hunmapped
    have htransformer := transformer_of_unmapped hresolved hunmapped hschema hschema
    have hrun : registry.transformJson destination destination output = .ok output ↔
        (runInput ⟨schema, schema, {}⟩ output).result = .ok output := by
      simp [transformJson_eq_ok_iff, htransformer]
    obtain ⟨records, hrecords, houtput⟩ := renders_of_transformJson htransform
    rw [hrun]
    simp only [← hrecords]
    rcases houtput with rfl | ⟨emitted, rfl, rfl⟩
    · exact runInput_array_same_iff hresolved hschema fun record => (hrecords record).mp
    · have hemitted := (hrecords emitted).mp List.mem_cons_self
      rw [runInput_toJson_same_iff hresolved hschema hemitted]
      simp

theorem transformJson_readBack_absent :
    let output : Json := .object [("a", .null)]
    ofConfig ⟨[cell (.option .f32)], []⟩ = .ok (cellRegistry (.option .f32)) ∧
      (cellRegistry (.option .f32)).transformJson "Cell" "Cell"
          (.object [("a", .number (.float huge))]) = .ok output ∧
      (cellRegistry (.option .f32)).transformJson "Cell" "Cell" output = .ok output := by
  intro output
  have hread : Value.ofJson (.option .f32) (.number (.float huge)) =
      .ok (.f32 (.infinite false)) := ofJson_huge
  have htransform := transformJson_cell hread
  obtain ⟨-, -, -, hsame⟩ :=
    transformJson_readBack (ofConfig_cell _) (schema?_cell _) htransform
  refine ⟨ofConfig_cell _, htransform, (hsame (by simp)).mpr fun emitted hemitted => ?_⟩
  obtain rfl := (renders_cell_iff hread).mp hemitted
  exact legible_cellRecord_iff.mpr (.inl rfl)

/-- What an object is transformed to is always read back and transformed to itself. -/
def ReadsBack (config : Config) : Prop :=
  ∀ (registry : Registry) (source destination : String) (schema : Schema)
    (members : List (String × Json)) (output : Json),
    ofConfig config = .ok registry → registry.schema? destination = some schema →
    registry.transformJson source destination (.object members) = .ok output →
    (∃ back, Record.ofJson schema output = .ok back ∧ back.toJson = output) ∧
      ((∀ mapping ∈ config.mappings, mapping.pair ≠ (destination, destination)) →
        registry.transformJson destination destination output = .ok output)

private theorem not_readsBack_cell {type : FieldType} {json : Json} {value : Value}
    (hread : Value.ofJson type json = .ok value) (hillegible : ¬ value.Legible type) :
    ¬ ReadsBack ⟨[cell type], []⟩ := by
  intro hreadsBack
  obtain ⟨⟨back, hback, -⟩, -⟩ := hreadsBack (cellRegistry type) "Cell" "Cell"
    (cell type).toSchema _ _ (ofConfig_cell type) (schema?_cell type)
    (transformJson_cell hread)
  have hrenders := (renders_cell_iff hread).mpr rfl
  have hlegible := ((hrenders.ofJson_eq_ok_iff (ofConfig_cell type)
    (schema?_cell type)).mp hback).1
  exact hillegible (legible_cellRecord_iff.mp hlegible)

/-- The first hour, in UTC, of the year 10000. -/
def late : Timestamp := ⟨253402304399, 0, by decide, by decide⟩

private theorem ofJson_late :
    Value.ofJson .timestamp (.string "9999-12-31T23:59:59-01:00") =
      .ok (.timestamp late) := by
  have hparsed : Timestamp.parse "9999-12-31T23:59:59-01:00" = .ok late := by
    decide +kernel
  simp [Value.ofJson, hparsed]

theorem not_readsBack : ¬ ReadsBack ⟨[cell .f32], []⟩ ∧ ¬ ReadsBack ⟨[cell .timestamp], []⟩ := by
  constructor
  · refine not_readsBack_cell ofJson_huge ?_
    rintro ⟨number, hnumber⟩
    cases hnumber
  · refine not_readsBack_cell ofJson_late ?_
    rintro ⟨-, hyear⟩
    revert hyear
    decide +kernel

end Reshape.Registry
