import Reshape.Proofs.Record.Visibility
import Reshape.Proofs.Registry.Typing
import Reshape.Proofs.Transformer.Failure

/-!
# Hidden and undeclared data does not interfere

A registry transforms two objects alike if they agree on the keys of the visible source
fields, whatever else they hold and whichever lookup finds a hidden field: such a field
always has its zero value.  What is rendered has the keys of the visible destination
fields and depends on no hidden one.
-/

namespace Reshape.Registry

variable {config : Config} {registry : Registry} {source destination : String}
  {transformer : Transformer} {first second input output : Json}

/-! ## Two inputs -/

theorem runObject_congr (h : transformer.source.Indistinguishable first second) :
    runObject transformer first = runObject transformer second := by
  rw [runObject, runObject, Record.ofJson_congr h]

private theorem runInput_congr (h : transformer.source.Indistinguishable first second) :
    runInput transformer first = runInput transformer second := by
  cases h with
  | same => rfl
  | objects hagree => exact runObject_congr (.objects hagree)

/-- Arrays are transformed alike if they are indistinguishable element by element. -/
private theorem runInput_array_congr {firsts seconds : List Json}
    (h : List.Forall₂ transformer.source.Indistinguishable firsts seconds) :
    runInput transformer (.array firsts) = runInput transformer (.array seconds) := by
  have hruns : firsts.map (runObject transformer) = seconds.map (runObject transformer) := by
    rw [← List.forall₂_eq_eq_eq, List.forall₂_map_left_iff, List.forall₂_map_right_iff]
    exact h.imp fun _ _ => runObject_congr
  have hbatch (items : List Json) :
      Transformer.runBatch (runObject transformer) items =
        Transformer.runBatch id (items.map (runObject transformer)) :=
    (Transformer.runBatch_map id (runObject transformer) items).symm
  rw [runInput, runInput, hbatch, hruns, ← hbatch]

theorem transformJson_congr
    (h : ∀ transformer, registry.transformer source destination = .ok transformer →
      runInput transformer first = runInput transformer second) :
    registry.transformJson source destination first =
      registry.transformJson source destination second := by
  unfold transformJson run
  cases htransformer : registry.transformer source destination with
  | error cause => rfl
  | ok transformer => simp only [h transformer htransformer]

/-! ## Outputs -/

theorem exposes_of_carries (hkeys : transformer.destination.DistinctKeys) {json : Json}
    {out : Record} (h : transformer.Carries json out) :
    transformer.destination.Exposes out.toJson := by
  obtain ⟨record, -, hout⟩ := h
  have hschema := Transformer.schema_of_transform hout
  exact hschema ▸ (Transformer.complete_of_transform hout).exposes_toJson (hschema ▸ hkeys)

private theorem exposes_of_runInput (hkeys : transformer.destination.DistinctKeys)
    (hinput : ∀ items, input ≠ .array items)
    (h : (runInput transformer input).result = .ok output) :
    transformer.destination.Exposes output := by
  rcases result_runInput_eq_ok_iff.mp h with
    ⟨-, rfl⟩ | ⟨_, out, -, hout, rfl⟩ | ⟨items, _, harray, -, -⟩
  · exact (Record.zeroed_wellTyped _).complete.exposes_toJson hkeys
  · exact exposes_of_carries hkeys hout
  · exact absurd harray (hinput items)

private theorem exposes_of_runInput_array (hkeys : transformer.destination.DistinctKeys)
    {items : List Json} (h : (runInput transformer (.array items)).result = .ok output) :
    ∃ outputs, output = .array outputs ∧ outputs.length = items.length ∧
      ∀ item ∈ outputs, transformer.destination.Exposes item := by
  obtain ⟨outs, houts, rfl⟩ := result_runInput_array_eq_ok_iff.mp h
  refine ⟨_, rfl, by rw [List.length_map, houts.length_eq], fun item hitem => ?_⟩
  obtain ⟨out, hout, rfl⟩ := List.mem_map.mp hitem
  obtain ⟨json, -, hcarries⟩ := (Sequence.mem_iff_of_forall₂ houts
    fun _ _ _ => Transformer.Carries.unique).mp hout
  exact exposes_of_carries hkeys hcarries

/-! ## Both -/

theorem hidden_noninterference (hresolved : ofConfig config = .ok registry)
    {left right : Schema} (hleft : registry.schema? source = some left)
    (hright : registry.schema? destination = some right) :
    (∀ first second, left.Indistinguishable first second →
      registry.transformJson source destination first =
        registry.transformJson source destination second) ∧
    (∀ firsts seconds, List.Forall₂ left.Indistinguishable firsts seconds →
      registry.transformJson source destination (.array firsts) =
        registry.transformJson source destination (.array seconds)) ∧
    (∀ input output, registry.transformJson source destination input = .ok output →
      (∀ items, input ≠ .array items) → right.Exposes output) ∧
    (∀ items output,
      registry.transformJson source destination (.array items) = .ok output →
      ∃ outputs, output = .array outputs ∧ outputs.length = items.length ∧
        ∀ item ∈ outputs, right.Exposes item) ∧
    (∀ first second : Record, first.schema = right → first.VisiblyEqual second →
      first.toJson = second.toJson) ∧
    ∀ json record, Record.ofJson left json = .ok record →
      ∀ entry ∈ record.entries, entry.1.isHidden = true →
        entry.2 = Value.zero entry.1.type := by
  obtain ⟨hkeys, hknown⟩ : right.DistinctKeys ∧ ∀ transformer,
      registry.transformer source destination = .ok transformer →
        transformer.source = left ∧ transformer.destination = right := by
    refine ⟨(distinct_of_schema? hresolved hright).2, fun transformer htransformer => ?_⟩
    obtain ⟨hsource, hdestination⟩ := schemas_of_transformer hresolved htransformer
    exact ⟨Option.some.inj (hsource.symm.trans hleft),
      Option.some.inj (hdestination.symm.trans hright)⟩
  refine ⟨?_, ?_, ?_, ?_, ?_, ?_⟩
  · intro first second h
    exact transformJson_congr fun transformer htransformer =>
      runInput_congr ((hknown transformer htransformer).1 ▸ h)
  · intro firsts seconds h
    exact transformJson_congr fun transformer htransformer =>
      runInput_array_congr ((hknown transformer htransformer).1 ▸ h)
  · intro input output h hinput
    obtain ⟨transformer, htransformer, hresult⟩ := transformJson_eq_ok_iff.mp h
    obtain ⟨-, rfl⟩ := hknown transformer htransformer
    exact exposes_of_runInput hkeys hinput hresult
  · intro items output h
    obtain ⟨transformer, htransformer, hresult⟩ := transformJson_eq_ok_iff.mp h
    obtain ⟨-, rfl⟩ := hknown transformer htransformer
    exact exposes_of_runInput_array hkeys hresult
  · exact fun first second _ h => h.toJson_eq
  · exact fun json record h entry => Record.hidden_of_ofJson h

/-- The lookup of `id` finds the hidden field of that name, although the key `id` belongs to
another field; the hidden field of the destination is populated, but not rendered. -/
theorem hidden_noninterference_id :
    let left : Config.SchemaDecl := ⟨"Row", [⟨"id", .int .i64, .ofList [("json", "-")]⟩,
      ⟨"ref", .bool, .ofList [("json", "id")]⟩, ⟨"note", .bool, ∅⟩], none⟩
    let right : Config.SchemaDecl := ⟨"Cell", [⟨"id", .int .i64, ∅⟩, ⟨"ref", .bool, ∅⟩,
      ⟨"note", .bool, .ofList [("json", " - ")]⟩], none⟩
    let registry : Registry := ⟨declared ⟨[left, right], []⟩, .ofList []⟩
    let first : Json :=
      .object [("id", .bool true), ("note", .bool true), ("ref", .bool false)]
    let second : Json := .object [("-", .null), ("id", .bool true), ("note", .bool true)]
    let output : Json :=
      .object [("id", .number (.integer 0 (by decide))), ("ref", .bool true)]
    ofConfig ⟨[left, right], []⟩ = .ok registry ∧
      registry.schema? "Row" = some left.toSchema ∧
      registry.schema? "Cell" = some right.toSchema ∧
      left.toSchema.Indistinguishable first second ∧
      registry.transformJson "Row" "Cell" first = .ok output ∧
      registry.transformJson "Row" "Cell" second = .ok output ∧
      registry.transformJson "Row" "Cell" (.array [first, .null]) =
        registry.transformJson "Row" "Cell" (.array [second, .null]) ∧
      right.toSchema.Exposes output := by
  intro left right registry first second output
  have hresolved : ofConfig ⟨[left, right], []⟩ = .ok registry :=
    ofConfig_eq_ok_iff.mpr ⟨by decide +kernel, [], rfl, rfl⟩
  have hleft : registry.schema? "Row" = some left.toSchema :=
    (schema?_eq_some_iff hresolved).mpr ⟨left, by simp, rfl, rfl⟩
  have hright : registry.schema? "Cell" = some right.toSchema :=
    (schema?_eq_some_iff hresolved).mpr ⟨right, by simp, rfl, rfl⟩
  have hagree : left.toSchema.Indistinguishable first second := by
    have hvisible : left.toSchema.visible.map (·.jsonKey) = ["id", "note"] := by
      decide +kernel
    refine .objects fun field hfield => ?_
    have hkey : field.jsonKey = "id" ∨ field.jsonKey = "note" := by
      simpa [hvisible] using List.mem_map_of_mem (f := (·.jsonKey)) hfield
    rcases hkey with hkey | hkey
    · rw [hkey]
      rfl
    · rw [hkey]
      rfl
  have hfirst : registry.transformJson "Row" "Cell" first = .ok output := by
    have hknown : registry.transformer "Row" "Cell" =
        .ok ⟨left.toSchema, right.toSchema, {}⟩ :=
      transformer_of_unmapped hresolved (by simp) hleft hright
    rw [transformJson, run, hknown]
    with_unfolding_all rfl
  obtain ⟨hobjects, harrays, houtputs, -, -, -⟩ :=
    hidden_noninterference hresolved hleft hright
  refine ⟨hresolved, hleft, hright, hagree, hfirst, ?_, ?_, ?_⟩
  · rw [← hobjects first second hagree, hfirst]
  · exact harrays _ _ (.cons hagree (.cons (.same .null) .nil))
  · exact houtputs first output hfirst (by simp [first])

end Reshape.Registry
