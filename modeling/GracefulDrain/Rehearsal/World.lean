import GracefulDrain.Management.Url
import GracefulDrain.Rehearsal.Address
import GracefulDrain.Rehearsal.Stage
/-!
# The world of a rehearsal

A stage whose network is down, and the programs that can be started on it.
-/

namespace GracefulDrain

namespace Stage

/-- The date and time, of which the clock shows the part since 1970. -/
def calendar (s : Stage) : Instant := ⟨s.clock / 1_000_000_000, s.clock % 1_000_000_000⟩

def world : World Stage where
  toHost := host
  probe _ s := (none, s)
  request eyeball s := (.failed 0 (Address.fault eyeball.url), s)
  pause _ d s := s.pause d
  calendar := calendar
  le_clock_probe _ _ := Nat.le_refl _
  le_clock_poll _ := Nat.le_refl _
  le_clock_pause _ _ _ := Nat.le_refl _

end Stage

/-- Who can be started: a scripted connector and the stand-in connector, each under a path. -/
structure Cast where
  actorPath : String
  actor : Option Actor
  connectorPath : String
  file : String → FileEntry := fun _ => .missing
  now : Instant := ⟨0, 0⟩

namespace Cast

/-- Directories that every system has. -/
def directories : List String :=
  ["", "/bin", "/dev", "/etc", "/home", "/lib", "/opt", "/proc", "/root", "/run", "/sbin", "/sys", "/tmp",
    "/usr", "/usr/bin", "/usr/lib", "/usr/local", "/usr/local/bin", "/var"]

/-- Files that every system has and that are no programs. -/
def plainFiles : List String :=
  ["/dev/null", "/dev/zero", "/etc/group", "/etc/hostname", "/etc/hosts", "/etc/passwd",
    "/etc/resolv.conf"]

/-- Whether `s` begins with `lead`. -/
def startsWith (s lead : String) : Bool := lead.toList.isPrefixOf s.toList

def refusal (path : String) : OsError :=
  let trimmed := trimSlashesRight path
  if plainFiles.any fun file => startsWith path (file ++ "/") then .notADirectory
  else if path.toList.head? = some '/' ∧ (trimmed ∈ directories ∨ trimmed ∈ plainFiles) then
    .permissionDenied
  else .notFound

/-- What stands at a path that every system has. -/
def systemFile (path : String) : FileEntry :=
  if path.toList.head? = some '/' ∧ trimSlashesRight path ∈ directories then .directory
  else if path = "/dev/null" then .contents []
  else .missing

def script (c : Cast) (argv : List String) : Except OsError Script :=
  match argv with
  | [] => .error .notFound
  | program :: args =>
    if argv.any fun word => '\x00' ∈ word.toList then .error .nulByte
    else if program = c.connectorPath then .ok (Connector.script c.file c.now args)
    else if program = c.actorPath then
      match c.actor with
      | some actor => .ok (actor.play args)
      | none => .error .notFound
    else .error (refusal program)

/-- The stage before anything has been started. -/
def stage (c : Cast) : Stage := { cast := c.script }

end Cast

end GracefulDrain
