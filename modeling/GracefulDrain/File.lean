import GracefulDrain.Failure
import GracefulDrain.Text.Utf8
/-!
# Files

A file that a path may name, as far as a reader can tell.
-/

namespace GracefulDrain

inductive FileEntry
  | missing
  | directory
  | contents (octets : Bytes)

def FileEntry.read : FileEntry → Except OsError String
  | .missing => .error .notFound
  | .directory => .error .isADirectory
  | .contents octets =>
    match Utf8.decode? octets with
    | some s => .ok s
    | none => .error .invalidUtf8

/-- A path together with what stands there. -/
structure File where
  path : String
  entry : FileEntry

end GracefulDrain
