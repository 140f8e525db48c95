import GracefulDrain.Process.Config
/-!
# Command lines

What a connector is asked to do, and the words that ask it: the program, the scope of the command, the
flags for configuration and credential, and the words of the command itself.
-/

namespace GracefulDrain

inductive CommandMode
  /-- Serve until a signal comes. -/
  | run
  /-- Start and exit. -/
  | inspect
  /-- A command below `tunnel`. -/
  | tunnelQuery (words : List String)
  /-- A command below `tail`, which is no part of `tunnel`. -/
  | tail (words : List String)
  deriving DecidableEq

namespace CommandMode

def list : CommandMode := .tunnelQuery ["list", "--output", "json"]

def info (tunnel : String) : CommandMode := .tunnelQuery ["info", "--output", "json", tunnel]

def token (tunnel : String) : CommandMode := .tail ["token", tunnel]

/-- The word by which the command is known. -/
def name : CommandMode → String
  | .run => "run"
  | .inspect => "inspect"
  | .tunnelQuery words | .tail words => words.headD "query"

/-- The words in front of the flags. -/
def scope : CommandMode → List String
  | .tail _ => []
  | _ => ["tunnel"]

/-- The words behind the flags. -/
def words (c : ProcessConfig) : CommandMode → List String
  | .run => "run" :: c.runArgs
  | .inspect => []
  | .tunnelQuery words => words
  | .tail words => "tail" :: words

end CommandMode

namespace ProcessConfig

def configFlag (c : ProcessConfig) : List String :=
  match c.configPath with
  | some path => ["--config", Utf8.decodeLossy path]
  | none => []

/-- The flag for a credential. An empty credential counts as none. -/
def certFlag : Option String → List String
  | some cert => if cert.isEmpty then [] else ["--origincert", cert]
  | none => []

/-- The command line for `mode` with the credential `cert`. -/
def argv (c : ProcessConfig) (cert : Option String) (mode : CommandMode) : List String :=
  c.program :: (mode.scope ++ (c.configFlag ++ (certFlag cert ++ mode.words c)))

end ProcessConfig

end GracefulDrain
