import GracefulDrain.Connector.Command
/-!
# The stand-in connector as a program

Reads its arguments and its configuration file, and prints what the command asks for.
-/

namespace GracefulDrain

/-- What stands at a path. -/
def fileAt (path : String) : IO FileEntry := do
  try
    return .contents (← IO.FS.readBinFile path).toList
  catch
    | .noFileOrDirectory .. => return .missing
    | _ => return .directory

/-- The date and time, as the file system stamps a new file. -/
def currentInstant : IO Instant := do
  let (_, path) ← IO.FS.createTempFile
  let stamp := (← path.metadata).modified
  IO.FS.removeFile path
  return ⟨stamp.sec, stamp.nsec.toNat⟩

end GracefulDrain

open GracefulDrain in
/-- Runs one command; the exit code is one if it fails. -/
def main (args : List String) : IO UInt32 := do
  let entry ←
    match (Connector.Invocation.parse args).toOption.bind (·.configPath) with
    | some path => fileAt path
    | none => pure .missing
  match Connector.run (fun _ => entry) (← currentInstant) args with
  | .ok (_, .prints line) =>
    IO.println line
    return 0
  | .ok (_, .serves _) =>
    IO.eprintln "Error: serving needs a network"
    return 1
  | .error fault =>
    IO.eprint fault.report
    return 1
