import GracefulDrain.File
import GracefulDrain.Json.Decode
import GracefulDrain.Process.Command
/-!
# Origin credentials

A credential is given by the process configuration or else by a credential store, a small JSON file. An
empty credential counts as none.
-/

namespace GracefulDrain

inductive CredentialFault
  | unreadable (path : String) (reason : OsError)
  | unparsable (path : String) (reason : Json.Error)
  deriving DecidableEq

def CredentialFault.message : CredentialFault → String
  | .unreadable path reason => s!"cannot read credential store {path}: {reason.text}"
  | .unparsable path reason => s!"cannot parse credential store {path}: {reason.message}"

/-- Where a credential comes from if the configuration has none: a file, or nowhere. -/
structure CredentialStore where
  file : Option File := none

namespace CredentialStore
open Json Json.Reader

structure Stored where
  originCert : Option String

/-- Reads the fields from an object, where `seen` is the credential if it has been met. -/
def storedMember (name : String) (seen : Option (Option String)) : Reader (Option (Option String)) := do
  if name = "origincert" then once name seen (nullable string)
  else
    colon
    skipValue
    pure seen

def stored : Reader Stored :=
  fromEither "struct StoredCredentials"
    (do return ⟨(← members storedMember none).join⟩)
    (do return ⟨(← item? true (nullable string)).join⟩)

/-- A credential that is not empty. -/
def nonEmpty (cert : String) : Option String := if cert.isEmpty then none else some cert

def read (s : CredentialStore) : Except CredentialFault (Option String) :=
  match s.file with
  | none => .ok none
  | some file =>
    match file.entry.read with
    | .error reason => .error (.unreadable file.path reason)
    | .ok text =>
      match document stored (Utf8.encode text) with
      | .error reason => .error (.unparsable file.path reason)
      | .ok fields => .ok (fields.originCert.bind nonEmpty)

/-- The credential for `config`: its own if it has one, even an empty one, or else that of the store. -/
def resolve (s : CredentialStore) (config : ProcessConfig) : Except CredentialFault (Option String) :=
  match config.originCert with
  | some cert => .ok (nonEmpty cert)
  | none => s.read

/-- The command line for `mode` with its credential. -/
def argv (s : CredentialStore) (config : ProcessConfig) (mode : CommandMode) :
    Except CredentialFault (List String) :=
  (s.resolve config).map fun cert => config.argv cert mode

end CredentialStore

def CredentialFault.failure (f : CredentialFault) : Failure := .configuration f.message

end GracefulDrain
