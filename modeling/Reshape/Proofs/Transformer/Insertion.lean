import Reshape.Proofs.Schema.Insertion
import Reshape.Proofs.Transformer.Outcome
import Reshape.Proofs.Transformer.Run

/-!
# Transformations beside an inserted source field

A source field that answers to none of the names that are looked up does not matter, and
neither does its value: with or without it each destination field has the same outcome,
found one place further on at most.
-/

namespace Reshape

/-! ## Records with one more value -/

def Record.insertField (record : Record) (position : Nat) (field : Field) (value : Value) :
    Record :=
  ⟨record.schema.insertField position field, record.values.insertIdx position value⟩

namespace Transformer

def insertField (transformer : Transformer) (position : Nat) (field : Field) : Transformer :=
  { transformer with source := transformer.source.insertField position field }

/-- No destination field that is populated looks up a name that the field answers to. -/
def Ignores (transformer : Transformer) (added : Field) : Prop :=
  ∀ field ∈ transformer.destination.fields,
    transformer.mapping.isSkipped field.name = false →
      ¬added.AnswersTo (transformer.mapping.sourceName field.name)

def Outcome.shift (position : Nat) : Outcome → Outcome
  | .leftOut => .leftOut
  | .unresolved lookup => .unresolved lookup
  | .valueless found => .valueless (found.shift position)
  | .resolved found coercion => .resolved (found.shift position) coercion

variable {transformer : Transformer} {record : Record} {added field : Field}

/-! ## Fields -/

private theorem outcome_insertField (values : List Value) (position : Nat) (value : Value)
    (hadded : transformer.mapping.isSkipped field.name = false →
      ¬added.AnswersTo (transformer.mapping.sourceName field.name)) :
    (transformer.insertField position added).outcome (values.insertIdx position value) field =
      (transformer.outcome values field).shift position := by
  cases hskipped : transformer.mapping.isSkipped field.name with
  | true =>
      rw [outcome_of_skipped hskipped]
      exact outcome_of_skipped hskipped
  | false =>
      have hlookup :=
        Schema.resolve?_insertField transformer.source (hadded hskipped) position
      simp only [outcome, insertField, hskipped, hlookup, Bool.false_eq_true, if_false]
      cases transformer.source.resolve? (transformer.mapping.sourceName field.name) with
      | none => rfl
      | some found =>
          simp only [Option.map_some, FieldMatch.shift, getElem?_insertIdx_shiftIndex]
          cases values[found.index]? with
          | none => rfl
          | some held => rfl

/-- What follows from an outcome does not depend on the place of the field that was found. -/
private theorem fillField_insertField (values : List Value) (position : Nat) (value : Value)
    (hadded : transformer.mapping.isSkipped field.name = false →
      ¬added.AnswersTo (transformer.mapping.sourceName field.name)) :
    (transformer.insertField position added).fillField
        (values.insertIdx position value) field =
      transformer.fillField values field := by
  simp only [fillField, outcome_insertField values position value hadded]
  cases transformer.outcome values field with
  | leftOut | unresolved | valueless => rfl
  | resolved found coercion => cases coercion <;> rfl

/-! ## Records -/

theorem run_insertField (hschema : record.schema = transformer.source)
    (hadded : transformer.Ignores added) (position : Nat) (value : Value) :
    (transformer.insertField position added).run
        (some (record.insertField position added value)) =
      transformer.run (some record) := by
  have hinserted : (record.insertField position added value).schema =
      (transformer.insertField position added).source := by
    rw [Record.insertField, hschema]
    rfl
  have hfields := Traced.forEach_congr fun field hfield =>
    fillField_insertField record.values position value (hadded field hfield)
  simp only [run, Record.hasSchema_iff.mpr hschema, Record.hasSchema_iff.mpr hinserted, if_true]
  exact congrArg (Traced.map _) hfields

theorem transform_insertField (transformer : Transformer) (added : Field) (position : Nat)
    (record : Record) (value : Value) (hschema : record.schema = transformer.source)
    (hadded : transformer.Ignores added) :
    (transformer.insertField position added).transform
        (some (record.insertField position added value)) =
      transformer.transform (some record) ∧
    ((transformer.insertField position added).run
        (some (record.insertField position added value))).events =
      (transformer.run (some record)).events := by
  have hrun := run_insertField hschema hadded position value
  exact ⟨congrArg Traced.result hrun, congrArg Traced.events hrun⟩

/-- The inserted field stands before the one that is found, and has the name of a destination
field that is left out. -/
theorem transform_insertField_moved :
    let source : Schema := ⟨"Row", [⟨"id", .int .i64, []⟩, ⟨"note", .string, []⟩]⟩
    let destination : Schema := ⟨"Cell", [⟨"note", .string, []⟩, ⟨"extra", .bool, []⟩]⟩
    let added : Field := ⟨"extra", .bool, [("json", "notes")]⟩
    let transformer : Transformer :=
      ⟨source, destination, (({} : MappingTable).skip "extra").withPolicy .strict⟩
    let record : Record := ⟨source, [.int .i64 ⟨7, by decide⟩, .string "x"]⟩
    let out : Record := ⟨destination, [.string "x", .bool false]⟩
    record.schema = transformer.source ∧ transformer.Ignores added ∧
      transformer.transform (some record) = .ok out ∧
      (transformer.insertField 1 added).transform
        (some (record.insertField 1 added (.bool true))) = .ok out := by
  intro source destination added transformer record out
  have hadded : transformer.Ignores added := by
    have hjson : added.jsonAlias? = some "notes" := by decide +kernel
    have hdb : added.dbAlias? = none := by decide +kernel
    have hnote : ¬added.AnswersTo "note" := by
      simp only [Field.AnswersTo, hjson, hdb]
      decide +kernel
    intro field hfield hkept
    simp only [transformer, destination, List.mem_cons, List.not_mem_nil, or_false] at hfield
    rcases hfield with rfl | rfl
    · exact hnote
    · exact absurd hkept (by decide)
  have hout : transformer.transform (some record) = .ok out := by
    with_unfolding_all rfl
  obtain ⟨hresult, -⟩ :=
    transform_insertField transformer added 1 record (.bool true) rfl hadded
  exact ⟨rfl, hadded, hout, hresult.trans hout⟩

end Transformer

end Reshape
