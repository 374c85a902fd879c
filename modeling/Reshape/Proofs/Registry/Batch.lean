import Reshape.Model.Transformer
import Reshape.Proofs.Registry.ReadBack

/-!
# Batches of records, instances and JSON

Records, instances and the elements of an array are transformed one by one, up to the
first failure.  An object in an array gives what it gives on its own.  Anything else in
an array is an error there, `null` included, which on its own gives zero values.
-/

namespace Reshape

namespace Registry

variable {registry : Registry} {source destination : String} {transformer : Transformer}

/-- What an element of an array gives; `schema` is the source schema. -/
def runElement (registry : Registry) (source destination : String) (schema : Schema) :
    Json → Traced TransformError Json
  | .object members => registry.run source destination (.object members)
  | json => .ofExcept (.error (.notAnObject schema.name json.kind))

theorem run_of_transformer (h : registry.transformer source destination = .ok transformer)
    (input : Json) :
    registry.run source destination input = runInput transformer input := by
  rw [run, h]

private theorem runElement_eq_runObject
    (h : registry.transformer source destination = .ok transformer) (json : Json) :
    registry.runElement source destination transformer.source json =
      runObject transformer json := by
  cases json with
  | object members => exact run_of_transformer h (.object members)
  | null | bool _ | number _ | string _ | array _ => rfl

private theorem run_array (h : registry.transformer source destination = .ok transformer)
    (items : List Json) :
    registry.run source destination (.array items) =
      (Transformer.runBatch (registry.runElement source destination transformer.source)
        items).map .array := by
  have helements : registry.runElement source destination transformer.source =
      runObject transformer := funext (runElement_eq_runObject h)
  rw [run_of_transformer h, helements]
  rfl

end Registry

open Transformer Registry

theorem Transformer.batch_failFast :
    (∀ (transformer : Transformer) (records : List Record),
      FailFast (fun record => transformer.run (some record)) records
        (transformer.runAll records)) ∧
    (∀ (left right : Model) (transformer : ModelTransformer left right)
      (rows : List left.Instance),
      FailFast (fun row => transformer.runOption (some row)) rows
        (transformer.runAll rows)) ∧
    ∀ (registry : Registry) (source destination : String) (transformer : Transformer),
      registry.transformer source destination = .ok transformer →
      ∀ items : List Json, ∃ batch,
        registry.run source destination (.array items) = batch.map .array ∧
          FailFast (registry.runElement source destination transformer.source) items
            batch := by
  refine ⟨fun transformer records => ?_, fun left right transformer rows => ?_, ?_⟩
  · exact failFast_runBatch _ records
  · exact failFast_runBatch _ rows
  · intro registry source destination transformer h items
    exact ⟨_, run_array h items, failFast_runBatch _ items⟩

/-- The same `null` fails in an array and not on its own, and the last row is not read. -/
theorem Transformer.batch_failFast_null :
    let registry := cellRegistry .bool
    let row : Json := .object [("a", .bool true)]
    registry.transformJson "Cell" "Cell" .null = .ok (.object [("a", .bool false)]) ∧
      registry.transformJson "Cell" "Cell" (.array [row, row]) = .ok (.array [row, row]) ∧
      registry.transformJson "Cell" "Cell" (.array [row, .null, .object [("a", .null)]]) =
        .error (.batchElement 1 (.notAnObject "Cell" "null")) ∧
      (registry.run "Cell" "Cell" (.array [row, .null, row])).events =
        (registry.run "Cell" "Cell" row).events := by
  intro registry row
  have hknown : registry.transformer "Cell" "Cell" = _ := transformer_cell .bool
  have hread : Value.ofJson .bool (.bool true) = .ok (.bool true) := rfl
  have hrow : registry.transformJson "Cell" "Cell" row = .ok row := transformJson_cell hread
  have hnull : registry.transformJson "Cell" "Cell" .null =
      .ok (.object [("a", .bool false)]) := by
    rw [transformJson, run_of_transformer hknown]
    rfl
  obtain ⟨-, -, hregistry⟩ := Transformer.batch_failFast
  have hlaw := hregistry registry "Cell" "Cell" _ hknown
  refine ⟨hnull, ?_, ?_, ?_⟩
  · obtain ⟨batch, hrun, hbatch⟩ := hlaw [row, row]
    have hresult := (hbatch.ok_iff [row, row]).mpr (.cons hrow (.cons hrow .nil))
    rw [transformJson, hrun, Traced.result_map, hresult]
    rfl
  · obtain ⟨batch, hrun, hbatch⟩ := hlaw [row, .null, .object [("a", .null)]]
    have hresult := (hbatch.error_iff _).mpr
      ⟨[row], .null, _, _, rfl, by simpa using ⟨row, hrow⟩, rfl, rfl⟩
    rw [transformJson, hrun, Traced.result_map, hresult]
    rfl
  · obtain ⟨batch, hrun, hbatch⟩ := hlaw [row, .null, row]
    have hresult := (hbatch.error_iff _).mpr
      ⟨[row], .null, _, _, rfl, by simpa using ⟨row, hrow⟩, rfl, rfl⟩
    rw [hrun, Traced.events_map, hbatch.events_of_error _ _ hresult]
    exact List.append_nil _

end Reshape
