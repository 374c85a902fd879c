import Reshape.Config.Loading
import Reshape.Json.Printer
import Reshape.Json.Scan
import Reshape.Registry

/-!
# The command

The command transforms the JSON of an input file from one schema of a configuration
file to another and prints the result.
-/

namespace Reshape.Command

/-- A file as the command finds it; one that does not exist has no contents. -/
structure File where
  path : String
  contents : Option (List UInt8)

inductive CommandError where
  | config (cause : ConfigError)
  | input (cause : Config.LoadError)
  | transform (cause : TransformError)
  deriving DecidableEq, Repr

def CommandError.message : CommandError → String
  | .config cause => cause.message
  | .input cause => cause.message
  | .transform cause => cause.message

def readInput (file : File) : Except CommandError Json :=
  match Config.readFile file.path file.contents with
  | .error cause => .error (.input cause)
  | .ok text =>
      match Json.parse text with
      | .ok json => .ok json
      | .error fault => .error (.input (.undecodable (.malformed fault)))

/-- What the command prints. -/
def run (config input : File) (source destination : String) :
    Except CommandError String := do
  let config ← (Config.loadFile config.path config.contents).mapError .config
  let registry ← (Registry.ofConfig config).mapError .config
  let input ← readInput input
  let output ← (registry.transformJson source destination input).mapError .transform
  .ok (output.pretty ++ "\n")

end Reshape.Command
