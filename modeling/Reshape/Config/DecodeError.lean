import Reshape.FieldType.Text
import Reshape.Json.Fault

/-!
# Errors of configuration text

Why a text does not describe what it should: because it is malformed, or because
a well-formed part of it has the wrong form for its place.
-/

namespace Reshape.Config

/-- What a place in a configuration text asks for. -/
inductive Expectation where
  | text
  | sequence
  | map
  | record (name : String)
  | unit
  deriving DecidableEq, Repr

def Expectation.message : Expectation → String
  | .text => "a string"
  | .sequence => "a sequence"
  | .map => "a map"
  | .record name => "struct " ++ name
  | .unit => "unit"

inductive DecodeError where
  | malformed (fault : Json.Fault)
  | invalidType (found : String) (expected : Expectation)
  | invalidLength (found : Nat) (record : String) (size : Nat)
  | missingField (name : String)
  | duplicateField (name : String)
  | unknownPolicy (name : String)
  | badFieldType (cause : TypeTextError)
  deriving DecidableEq, Repr

def DecodeError.message : DecodeError → String
  | .malformed fault => fault.message
  | .invalidType found expected =>
      "invalid type: " ++ found ++ ", expected " ++ expected.message
  | .invalidLength found record size =>
      "invalid length " ++ toString found ++ ", expected struct " ++ record ++
        " with " ++ toString size ++ " elements"
  | .missingField name => "missing field `" ++ name ++ "`"
  | .duplicateField name => "duplicate field `" ++ name ++ "`"
  | .unknownPolicy name =>
      "unknown variant `" ++ name ++ "`, expected `permissive` or `strict`"
  | .badFieldType cause => cause.message

end Reshape.Config
