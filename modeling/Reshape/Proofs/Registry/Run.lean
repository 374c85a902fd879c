import Reshape.Proofs.Transformer.Batch
import Reshape.Proofs.Transformer.Run
import Reshape.Proofs.Typing.Json
import Reshape.Registry

/-!
# How a registry transforms JSON

Each object of an input is read as a record of the source schema, transformed, and
rendered.  An array is transformed object by object; null is rendered as the
record of zero values.
-/

namespace Reshape

namespace Transformer

/-- The transformer renders `out` for the object `json`. -/
def Carries (transformer : Transformer) (json : Json) (out : Record) : Prop :=
  ∃ record, Record.ofJson transformer.source json = .ok record ∧
    transformer.transform (some record) = .ok out

theorem Carries.unique {transformer : Transformer} {json : Json} {first second : Record}
    (hfirst : transformer.Carries json first) (hsecond : transformer.Carries json second) :
    first = second := by
  obtain ⟨record, hrecord, hfirst⟩ := hfirst
  obtain ⟨other, hother, hsecond⟩ := hsecond
  cases hrecord.symm.trans hother
  cases hfirst.symm.trans hsecond
  rfl

end Transformer

namespace Registry

variable {transformer : Transformer}

/-! ## What is read and rendered -/

/-- What an input gives to be read as records. -/
def objects : Json → List Json
  | .array items => items
  | .object members => [.object members]
  | _ => []

/-- `record` is read in transforming `input`. -/
def Reads (registry : Registry) (source destination : String) (input : Json)
    (record : Record) : Prop :=
  ∃ transformer, registry.transformer source destination = .ok transformer ∧
    ∃ json ∈ objects input, Record.ofJson transformer.source json = .ok record

/-- `record` is rendered in transforming `input`. -/
def Renders (registry : Registry) (source destination : String) (input : Json)
    (record : Record) : Prop :=
  ∃ transformer, registry.transformer source destination = .ok transformer ∧
    ((input = .null ∧ transformer.transform none = .ok record) ∨
      ∃ json ∈ objects input, transformer.Carries json record)

/-! ## Results -/

theorem result_runObject_eq_ok_iff {json output : Json} :
    (runObject transformer json).result = .ok output ↔
      ∃ out, transformer.Carries json out ∧ output = out.toJson := by
  unfold runObject
  rw [Traced.result_bind, Traced.result_ofExcept, Sequence.bind_eq_ok_iff]
  simp only [Traced.result_map, Sequence.map_eq_ok_iff, Transformer.Carries]
  constructor
  · rintro ⟨record, hrecord, out, hout, rfl⟩
    exact ⟨out, ⟨record, hrecord, hout⟩, rfl⟩
  · rintro ⟨out, ⟨record, hrecord, hout⟩, rfl⟩
    exact ⟨record, hrecord, out, hout, rfl⟩

theorem result_runObject_eq_error_iff {json : Json} {error : TransformError} :
    (runObject transformer json).result = .error error ↔
      Record.ofJson transformer.source json = .error error ∨
        ∃ record, Record.ofJson transformer.source json = .ok record ∧
          transformer.transform (some record) = .error error := by
  unfold runObject
  rw [Traced.result_bind, Traced.result_ofExcept, Sequence.bind_eq_error_iff]
  simp only [Traced.result_map, Sequence.map_eq_error_iff]
  rfl

theorem result_runInput_array_eq_ok_iff {items : List Json} {output : Json} :
    (runInput transformer (.array items)).result = .ok output ↔
      ∃ outs, List.Forall₂ transformer.Carries items outs ∧
        output = .array (outs.map (·.toJson)) := by
  simp only [runInput, Traced.result_map, Sequence.map_eq_ok_iff,
    Transformer.result_runBatch_eq_ok_iff, result_runObject_eq_ok_iff,
    Sequence.forall₂_exists_map_iff]
  constructor
  · rintro ⟨outputs, ⟨outs, houts, rfl⟩, rfl⟩
    exact ⟨outs, houts, rfl⟩
  · rintro ⟨outs, houts, rfl⟩
    exact ⟨_, ⟨outs, houts, rfl⟩, rfl⟩

private theorem not_carries_of_kind {json : Json} {out : Record}
    (h : ∀ members, json ≠ .object members) : ¬ transformer.Carries json out := by
  rintro ⟨record, hrecord, -⟩
  obtain ⟨members, -, hjson, -⟩ := Record.ofJson_eq_ok_iff.mp hrecord
  exact h members hjson

theorem result_runInput_eq_ok_iff {input output : Json} :
    (runInput transformer input).result = .ok output ↔
      (input = .null ∧ output = (Record.zeroed transformer.destination).toJson) ∨
      (∃ members out, input = .object members ∧ transformer.Carries input out ∧
        output = out.toJson) ∨
      (∃ items outs, input = .array items ∧
        List.Forall₂ transformer.Carries items outs ∧
        output = .array (outs.map (·.toJson))) := by
  cases input with
  | null =>
      have hresult : (runInput transformer .null).result =
          .ok (Record.zeroed transformer.destination).toJson := rfl
      simp [hresult, eq_comm]
  | array items => simp [result_runInput_array_eq_ok_iff]
  | object members =>
      have hrun : runInput transformer (.object members) =
          runObject transformer (.object members) := rfl
      simp [hrun, result_runObject_eq_ok_iff]
  | bool value | number value | string value =>
      simp [runInput, result_runObject_eq_ok_iff, not_carries_of_kind]

theorem transformJson_eq_ok_iff {registry : Registry} {source destination : String}
    {input output : Json} :
    registry.transformJson source destination input = .ok output ↔
      ∃ transformer, registry.transformer source destination = .ok transformer ∧
        (runInput transformer input).result = .ok output := by
  unfold transformJson run
  cases registry.transformer source destination with
  | error cause => simp
  | ok transformer => simp

theorem renders_of_transformJson {registry : Registry} {source destination : String}
    {input output : Json}
    (h : registry.transformJson source destination input = .ok output) :
    ∃ records,
      (∀ record, record ∈ records ↔
        registry.Renders source destination input record) ∧
      (output = .array (records.map (·.toJson)) ∨
        ∃ record, records = [record] ∧ output = record.toJson) := by
  obtain ⟨transformer, htransformer, hresult⟩ := transformJson_eq_ok_iff.mp h
  simp only [Renders, htransformer, Except.ok.injEq, exists_eq_left']
  rcases result_runInput_eq_ok_iff.mp hresult with
    ⟨rfl, rfl⟩ | ⟨members, out, rfl, hout, rfl⟩ | ⟨items, outs, rfl, houts, rfl⟩
  · refine ⟨[Record.zeroed transformer.destination], fun record => ?_, .inr ⟨_, rfl, rfl⟩⟩
    simp [objects, Transformer.transform_none, eq_comm]
  · refine ⟨[out], fun record => ?_, .inr ⟨_, rfl, rfl⟩⟩
    simp only [objects, List.mem_singleton, reduceCtorEq, false_and, false_or,
      exists_eq_left]
    exact ⟨fun heq => heq ▸ hout, fun hrecord => hrecord.unique hout⟩
  · refine ⟨outs, fun record => ?_, .inl rfl⟩
    simp only [objects, reduceCtorEq, false_and, false_or]
    exact Sequence.mem_iff_of_forall₂ houts fun _ _ _ => Transformer.Carries.unique

theorem renders_iff_of_transformJson_object {registry : Registry}
    {source destination : String} {members : List (String × Json)} {output : Json}
    (h : registry.transformJson source destination (.object members) = .ok output) :
    ∃ emitted,
      (∀ record, registry.Renders source destination (.object members) record ↔
        record = emitted) ∧
      output = emitted.toJson := by
  obtain ⟨records, hrecords, harray | ⟨emitted, rfl, rfl⟩⟩ := renders_of_transformJson h
  · obtain ⟨transformer, -, hresult⟩ := transformJson_eq_ok_iff.mp h
    rcases result_runInput_eq_ok_iff.mp hresult with
      ⟨hnull, -⟩ | ⟨_, out, -, -, rfl⟩ | ⟨_, _, hitems, -, -⟩
    · cases hnull
    · cases harray
    · cases hitems
  · exact ⟨emitted, fun record => by rw [← hrecords, List.mem_singleton], rfl⟩

end Registry

end Reshape
