import Reshape.Coercion
import Reshape.MappingTable
import Reshape.Record.Basic
import Reshape.Schema.Lookup
import Reshape.Traced

/-!
# Transformers

A transformer populates records of a destination schema from records of a source
schema, field by field.  For each destination field it looks up a source field,
under the name that the mapping table gives, and coerces the value found there.
What comes of that is the outcome of the field; the value of the field, the
failure under a strict policy and the events all follow from it.
-/

namespace Reshape

structure Transformer where
  source : Schema
  destination : Schema
  mapping : MappingTable := {}

namespace Transformer

/-! ## Building a transformer -/

def withMapping (transformer : Transformer) (mapping : MappingTable) : Transformer :=
  { transformer with mapping }

def map (transformer : Transformer) (destination source : String) : Transformer :=
  transformer.withMapping (transformer.mapping.map destination source)

def skip (transformer : Transformer) (destination : String) : Transformer :=
  transformer.withMapping (transformer.mapping.skip destination)

def withPolicy (transformer : Transformer) (policy : Policy) : Transformer :=
  transformer.withMapping (transformer.mapping.withPolicy policy)

/-! ## Outcomes -/

inductive Outcome where
  /-- The mapping table leaves the field out. -/
  | leftOut
  | unresolved (lookup : String)
  /-- The source record has no value for the field that was found. -/
  | valueless (found : FieldMatch)
  | resolved (found : FieldMatch) (coercion : Coercion)

def outcome (transformer : Transformer) (values : List Value) (field : Field) : Outcome :=
  if transformer.mapping.isSkipped field.name then .leftOut
  else
    let lookup := transformer.mapping.sourceName field.name
    match transformer.source.resolve? lookup with
    | none => .unresolved lookup
    | some found =>
        match values[found.index]? with
        | none => .valueless found
        | some value => .resolved found (value.coerce found.field.type field.type)

namespace Outcome

def assigned? : Outcome → Option Value
  | .resolved _ (.assigned value) => some value
  | _ => none

/-- The error that the outcome is, under any policy or under a strict one. -/
def error? (transformer : Transformer) (field : Field) : Outcome → Option TransformError
  | .leftOut => none
  | .valueless found =>
      some (.missingValue transformer.source.name found.field.name)
  | .unresolved _ =>
      match transformer.mapping.policy with
      | .permissive => none
      | .strict => some (.unresolvedField transformer.destination.name field.name)
  | .resolved found .skipped =>
      match transformer.mapping.policy with
      | .permissive => none
      | .strict =>
          some (.coercionFailed transformer.destination.name field.name
            found.field.type field.type)
  | .resolved _ (.assigned _) | .resolved _ .absent => none

def events (transformer : Transformer) (field : Field) : Outcome → List Event
  | .leftOut | .valueless _ => []
  | .unresolved lookup =>
      [.fieldUnresolved transformer.destination.name field.name lookup]
  | .resolved found coercion =>
      .fieldResolved field.name found.field.name found.kind ::
        match coercion with
        | .skipped =>
            [.coercionSkipped transformer.destination.name field.name
              found.field.type field.type]
        | _ => []

end Outcome

/-! ## Transformation -/

/-- The value of a destination field, or the error that stops the transformation there. -/
def fillField (transformer : Transformer) (values : List Value) (field : Field) :
    Traced TransformError Value :=
  let outcome := transformer.outcome values field
  ⟨outcome.events transformer field,
    match outcome.error? transformer field with
    | some error => .error error
    | none => .ok (outcome.assigned?.getD (Value.zero field.type))⟩

/-- Without a record, the destination is left at its zero values. -/
def run (transformer : Transformer) : Option Record → Traced TransformError Record
  | none => .ok (Record.zeroed transformer.destination)
  | some record =>
      if record.hasSchema transformer.source then
        (Traced.forEach (transformer.fillField record.values)
          transformer.destination.fields).map fun values =>
            ⟨transformer.destination, values⟩
      else
        .ofExcept (.error (.schemaMismatch transformer.source.name record.schema.name))

def transform (transformer : Transformer) (record : Option Record) :
    Except TransformError Record :=
  (transformer.run record).result

/-! ## Batches -/

/--
Runs each item of a batch in order.  The first failure aborts the batch and names the
place of the item.
-/
def runBatch {α β : Type} (run : α → Traced TransformError β) (items : List α) :
    Traced TransformError (List β) :=
  Traced.forEach (fun (item, index) => (run item).mapError (.batchElement index))
    items.zipIdx

def runAll (transformer : Transformer) (records : List Record) :
    Traced TransformError (List Record) :=
  runBatch (fun record => transformer.run (some record)) records

def transformAll (transformer : Transformer) (records : List Record) :
    Except TransformError (List Record) :=
  (transformer.runAll records).result

end Transformer

end Reshape
