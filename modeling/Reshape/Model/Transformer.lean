import Reshape.Model.Basic
import Reshape.Transformer

/-!
# Transformers between models

A model transformer builds instances of one model from instances of another, by
way of their records: it is a transformer between the schemas of the two models.
-/

namespace Reshape

structure ModelTransformer (source destination : Model) where
  mapping : MappingTable := {}

namespace ModelTransformer

variable {source destination : Model}

def onRecords (transformer : ModelTransformer source destination) : Transformer where
  source := source.schema
  destination := destination.schema
  mapping := transformer.mapping

/-! ## Building a transformer -/

def map (transformer : ModelTransformer source destination)
    (target origin : String) : ModelTransformer source destination :=
  ⟨(transformer.onRecords.map target origin).mapping⟩

def skip (transformer : ModelTransformer source destination) (target : String) :
    ModelTransformer source destination :=
  ⟨(transformer.onRecords.skip target).mapping⟩

def withPolicy (transformer : ModelTransformer source destination) (policy : Policy) :
    ModelTransformer source destination :=
  ⟨(transformer.onRecords.withPolicy policy).mapping⟩

/-! ## Transformation -/

/-- Without an instance, the result has its zero values. -/
def runOption (transformer : ModelTransformer source destination)
    (row : Option source.Instance) : Traced TransformError destination.Instance :=
  (transformer.onRecords.run (row.map (·.toRecord))).bind fun record =>
    .ofExcept (Model.Instance.ofRecord destination record)

def transformOption (transformer : ModelTransformer source destination)
    (row : Option source.Instance) : Except TransformError destination.Instance :=
  (transformer.runOption row).result

def transform (transformer : ModelTransformer source destination)
    (row : source.Instance) : Except TransformError destination.Instance :=
  transformer.transformOption (some row)

/-- The first failure aborts the batch. -/
def runAll (transformer : ModelTransformer source destination)
    (rows : List source.Instance) : Traced TransformError (List destination.Instance) :=
  Transformer.runBatch (fun row => transformer.runOption (some row)) rows

def transformAll (transformer : ModelTransformer source destination)
    (rows : List source.Instance) : Except TransformError (List destination.Instance) :=
  (transformer.runAll rows).result

end ModelTransformer

/-! ## Two directions -/

/-- Transformers from one model to another and back, each with a table of its own. -/
structure Bidirectional (left right : Model) where
  forward : ModelTransformer left right := {}
  backward : ModelTransformer right left := {}

namespace Bidirectional

variable {left right : Model}

def mapForward (pair : Bidirectional left right) (target origin : String) :
    Bidirectional left right :=
  { pair with forward := pair.forward.map target origin }

def mapBackward (pair : Bidirectional left right) (target origin : String) :
    Bidirectional left right :=
  { pair with backward := pair.backward.map target origin }

def withPolicy (pair : Bidirectional left right) (policy : Policy) :
    Bidirectional left right :=
  ⟨pair.forward.withPolicy policy, pair.backward.withPolicy policy⟩

end Bidirectional

end Reshape
