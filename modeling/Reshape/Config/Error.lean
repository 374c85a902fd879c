import Reshape.Config.DecodeError

/-!
# Errors of configurations

Why a configuration cannot be loaded or resolved.
-/

namespace Reshape.Config

inductive LoadError where
  | missingFile (path : String)
  | notUtf8 (path : String)
  | undecodable (cause : DecodeError)
  deriving DecidableEq, Repr

def LoadError.message : LoadError → String
  | .missingFile path => path ++ ": No such file or directory (os error 2)"
  | .notUtf8 path => path ++ ": stream did not contain valid UTF-8"
  | .undecodable cause => cause.message

/-- What a configuration refers to by name. -/
inductive Reference where
  | schema (name : String)
  | sourceField (record field : String)
  | destinationField (record field : String)
  deriving DecidableEq, Repr

def Reference.message : Reference → String
  | .schema name => "schema '" ++ name ++ "'"
  | .sourceField record field => "source field '" ++ record ++ "." ++ field ++ "'"
  | .destinationField record field =>
      "destination field '" ++ record ++ "." ++ field ++ "'"

end Reshape.Config

namespace Reshape

inductive ConfigError where
  | missingReference (reference : Config.Reference)
  | duplicateSchema (name : String)
  | duplicateField (record field : String)
  | duplicateMapping (source destination : String)
  | load (cause : Config.LoadError)
  /-- Two fields of a schema have one key in JSON. -/
  | sharedKey (schema key first second : String)
  deriving DecidableEq, Repr

def ConfigError.message : ConfigError → String
  | .missingReference reference => "missing reference: " ++ reference.message
  | .duplicateSchema name => "duplicate schema: " ++ name
  | .duplicateField record field => "duplicate field: " ++ record ++ "." ++ field
  | .duplicateMapping source destination =>
      "duplicate mapping: " ++ source ++ " -> " ++ destination
  | .load cause => "config load: " ++ cause.message
  | .sharedKey schema key first second =>
      "validation: " ++ schema ++ ": json key '" ++ key ++ "' used by both " ++ first ++
        " and " ++ second

end Reshape
