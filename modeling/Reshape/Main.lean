import Reshape.Command

/-!
# The command line

The files and the two schemas are named by the environment variables `CONFIG_PATH`,
`INPUT_PATH`, `SOURCE` and `DESTINATION`.
-/

namespace Reshape.Command

/-- A file that cannot be read is taken not to exist. -/
def readContents (path : String) : IO (Option (List UInt8)) := do
  try
    return some (← IO.FS.readBinFile path).toList
  catch _ =>
    return none

def variableOr (name default : String) : IO String :=
  return (← IO.getEnv name).getD default

end Reshape.Command

open Reshape.Command in
def main : IO UInt32 := do
  let configPath ← variableOr "CONFIG_PATH" "config/users.json"
  let inputPath ← variableOr "INPUT_PATH" "config/users.input.json"
  let source ← variableOr "SOURCE" "User"
  let destination ← variableOr "DESTINATION" "UserResponse"
  let config : File := ⟨configPath, ← readContents configPath⟩
  let input : File := ⟨inputPath, ← readContents inputPath⟩
  match Reshape.Command.run config input source destination with
  | .ok output =>
      IO.print output
      return 0
  | .error error =>
      IO.eprintln ("Error: " ++ error.message)
      return 1
