import Reshape.Config.Decoding
import Reshape.Config.Error
import Reshape.Text.Utf8

/-!
# Loading configurations

Configurations from text and from the contents of files.
-/

namespace Reshape.Config

def load (text : String) : Except ConfigError Config :=
  match decodeConfig text with
  | .ok config => .ok config
  | .error cause => .error (.load (.undecodable cause))

/-- The text of a file, where a file that does not exist has no contents. -/
def readFile (path : String) (contents : Option (List UInt8)) : Except LoadError String :=
  match contents with
  | none => .error (.missingFile path)
  | some octets =>
      match Text.Utf8.decode? octets with
      | some text => .ok text
      | none => .error (.notUtf8 path)

def loadFile (path : String) (contents : Option (List UInt8)) :
    Except ConfigError Config :=
  match readFile path contents with
  | .ok text => load text
  | .error cause => .error (.load cause)

end Reshape.Config
