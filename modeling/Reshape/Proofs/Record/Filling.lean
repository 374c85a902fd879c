import Reshape.Proofs.Record.Pointwise
import Reshape.Proofs.Transformer.Run

/-!
# Records filled by index

A record that starts with its zero values can be filled field by field, where the value of a
field that is given one is replaced at its index.  Once the fields before an index are filled,
the record has their values and behind them zero values.  So it ends with the value of each
field, and reading and transforming fill their records in this way.
-/

namespace Reshape

namespace Record

variable {ε : Type} {schema : Schema}

/-! ## Filling -/

/-- Replaces the value at an index by the one that is given, if there is one. -/
def put (record : Record) (index : Nat) : Option Value → Record
  | some value => record.withValues (record.values.set index value)
  | none => record

/-- Puts what each field is given at its index, where the first field has the index `index`. -/
def fillFrom (give : Field → Traced ε (Option Value)) :
    Record → Nat → List Field → Traced ε Record
  | record, _, [] => .ok record
  | record, index, field :: fields =>
      (give field).bind fun given => fillFrom give (record.put index given) (index + 1) fields

def fillZeroed (give : Field → Traced ε (Option Value)) (schema : Schema) : Traced ε Record :=
  fillFrom give (zeroed schema) 0 schema.fields

/-- The field behind those that are done has its zero value, or the one that it is given. -/
private theorem put_length (done : List Value) (zero : Value) (rest : List Value)
    (given : Option Value) :
    (⟨schema, done ++ zero :: rest⟩ : Record).put done.length given =
      ⟨schema, (done ++ [given.getD zero]) ++ rest⟩ := by
  cases given with
  | none => simp [put]
  | some value => simp [put, withValues]

/-- While it is filled, a record has the values of the fields that are done and behind them
zero values. -/
theorem fillFrom_zeros (give : Field → Traced ε (Option Value)) (done : List Value)
    (fields : List Field) :
    fillFrom give ⟨schema, done ++ fields.map fun field => Value.zero field.type⟩ done.length
        fields =
      (Traced.forEach (fun field => (give field).map (·.getD (Value.zero field.type)))
        fields).map fun values => ⟨schema, done ++ values⟩ := by
  induction fields generalizing done with
  | nil => rfl
  | cons field fields ih =>
      rw [fillFrom, Traced.forEach, Traced.bind_map, Traced.map_bind]
      congr 1
      funext given
      have hnext := ih (done ++ [given.getD (Value.zero field.type)])
      rw [List.length_append, List.length_singleton] at hnext
      rw [List.map_cons, put_length, hnext, Traced.map_map]
      simp only [List.append_assoc, List.singleton_append]

theorem fillZeroed_eq (give : Field → Traced ε (Option Value)) (schema : Schema) :
    fillZeroed give schema =
      (Traced.forEach (fun field => (give field).map (·.getD (Value.zero field.type)))
        schema.fields).map fun values => ⟨schema, values⟩ :=
  fillFrom_zeros give [] schema.fields

/-! ## Reading -/

/-- What an object gives to a field. -/
def give (members : List (String × Json)) (field : Field) :
    Except TransformError (Option Value) :=
  match field.held? members with
  | none => .ok none
  | some held => ((Value.ofJson field.type held).mapError (.value field.name)).map some

private theorem readField_eq_give (members : List (String × Json)) (field : Field) :
    readField members field = (give members field).map (·.getD (Value.zero field.type)) := by
  cases hheld : field.held? members with
  | none =>
      rw [readField_of_not_held hheld, give, hheld]
      rfl
  | some held =>
      simp only [readField_of_held hheld, give, hheld]
      cases Value.ofJson field.type held with
      | error cause => rfl
      | ok value => rfl

theorem ofJson_eq_fillZeroed (schema : Schema) (members : List (String × Json)) :
    ofJson schema (.object members) =
      (fillZeroed (fun field => .ofExcept (give members field)) schema).result := by
  rw [fillZeroed_eq, Traced.result_map, Traced.result_forEach, ofJson_object]
  simp only [Traced.result_map, Traced.result_ofExcept, ← readField_eq_give]

end Record

/-! ## Transforming -/

namespace Transformer

variable {transformer : Transformer} {record : Record}

/-- What the outcome of a field gives to it. -/
def give (transformer : Transformer) (values : List Value) (field : Field) :
    Traced TransformError (Option Value) :=
  let outcome := transformer.outcome values field
  ⟨outcome.events transformer field,
    match outcome.error? transformer field with
    | some error => .error error
    | none => .ok outcome.assigned?⟩

private theorem fillField_eq_give (values : List Value) (field : Field) :
    transformer.fillField values field =
      (transformer.give values field).map (·.getD (Value.zero field.type)) := by
  simp only [fillField, give, Traced.map]
  cases (transformer.outcome values field).error? transformer field with
  | some error => rfl
  | none => rfl

theorem run_eq_fillZeroed (h : record.schema = transformer.source) :
    transformer.run (some record) =
      Record.fillZeroed (transformer.give record.values) transformer.destination := by
  simp only [run, Record.hasSchema_iff.mpr h, if_true, Record.fillZeroed_eq,
    ← fillField_eq_give]

end Transformer

end Reshape
