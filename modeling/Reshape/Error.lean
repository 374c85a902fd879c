import Reshape.Config.Error
import Reshape.Value.Json

/-!
# Errors of transformations

Why records cannot be read, made or transformed.
-/

namespace Reshape

inductive TransformError where
  | config (cause : ConfigError)
  | unresolvedField (record field : String)
  | coercionFailed (record field : String) (source target : FieldType)
  | schemaMismatch (expected found : String)
  | notAnObject (record found : String)
  | missingValue (record field : String)
  | value (field : String) (cause : ValueError)
  | batchElement (index : Nat) (cause : TransformError)
  deriving DecidableEq, Repr

def TransformError.message : TransformError → String
  | .config cause => cause.message
  | .unresolvedField record field => "unresolved field: " ++ record ++ "." ++ field
  | .coercionFailed record field source target =>
      "cannot coerce " ++ record ++ "." ++ field ++ " from " ++ source.text ++ " to " ++
        target.text
  | .schemaMismatch expected found =>
      "schema mismatch: expected " ++ expected ++ ", got " ++ found
  | .notAnObject record found => record ++ " expects a JSON object, found " ++ found
  | .missingValue record field => "missing value for " ++ record ++ "." ++ field
  | .value field cause => "field " ++ field ++ ": " ++ cause.message
  | .batchElement index cause => "batch element " ++ toString index ++ ": " ++ cause.message

end Reshape
