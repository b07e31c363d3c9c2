import TriplesSql.Command.Run

namespace TriplesSql.Main

open Command

def pathsOf (places : Settings.Places) : Option Request → List String
  | some (.unfold r) =>
    r.file :: r.config.toList ++ places.namedFile?.toList
      ++ Settings.localFile :: (places.userDirectory?.map Settings.userFile).toList
  | some (.validate path) => [path]
  | _ => []

/-- What a path leads to on this computer. An error names the file if it cannot be opened, and does
not if it can be opened but not read, as is the case with a directory. -/
def entryAt (path : String) : IO Entry := do
  try
    let bytes ← IO.FS.readBinFile path
    return match String.fromUTF8? bytes with
      | some s => .text s
      | none => .binary
  catch
    | .inappropriateType (some _) _ _ => return .behindFile
    | .inappropriateType none _ _ => return .directory
    | .noFileOrDirectory .. => return .missing
    | .invalidArgument _ 36 _ => return .nameTooLong
    | .permissionDenied .. => return .denied
    | e => throw e

/-- The directory of the user's settings: the one that the environment names if it begins at the
root, and else the usual one in the user's own directory. -/
def userDirectory? : IO (Option String) := do
  match ← IO.getEnv "XDG_CONFIG_HOME" with
  | some path => if path.startsWith "/" then return some path
  | none => pure ()
  return (← IO.getEnv "HOME").map (· ++ "/.config")

def runCommand (args : List String) : IO Outcome := do
  let places : Settings.Places := ⟨← IO.getEnv "R2RML_UNFOLD_CONFIG", ← userDirectory?⟩
  let entries ← (pathsOf places (Request.ofArguments? args)).mapM fun path => do
    return (path, ← entryAt path)
  let files path := (entries.lookup path).getD .missing
  return run ⟨files, places⟩ args

end TriplesSql.Main

/-- Writes the two outputs of a command and gives its exit code. -/
def main (args : List String) : IO UInt32 := do
  let outcome ← TriplesSql.Main.runCommand args
  (← IO.getStdout).putStr outcome.output
  (← IO.getStderr).putStr outcome.errors
  return outcome.code.toUInt32
