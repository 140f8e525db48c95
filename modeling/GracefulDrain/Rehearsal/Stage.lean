import GracefulDrain.Drain.World
import GracefulDrain.Rehearsal.Script
/-!
# Stages

A world in which scripts are played in virtual time. The clock moves only when somebody waits; no request
reaches a server.
-/

namespace GracefulDrain

structure Player where
  script : Script
  stdout : ByteArray
  stderr : ByteArray
  /-- When and how the child ends, as things are. -/
  ending : Option (Nat × Exit)

structure Stage where
  clock : Nat := 0
  cast : List String → Except OsError Script
  player : Player := ⟨{}, .empty, .empty, none⟩

namespace Stage

/-- The number of the process, which says nothing. -/
def pid : Nat := 1

def ended (s : Stage) : Option Exit :=
  match s.player.ending with
  | some (time, e) => if time ≤ s.clock then some e else none
  | none => none

def play (s : Stage) (script : Script) : Stage :=
  { s with player := ⟨script, script.stdout, script.stderr,
      script.ending.map fun e => (s.clock + script.delay.nanos, e)⟩ }

def spawn (argv : List String) (s : Stage) : Except OsError Nat × Stage :=
  match s.cast argv with
  | .ok script => (.ok pid, s.play script)
  | .error reason => (.error reason, s)

/-- Lets a signal reach the child, which does nothing once it has ended. -/
def receive (signal : TermSignal) (s : Stage) : Stage :=
  match s.ended with
  | some _ => s
  | none =>
    match s.player.script.reaction signal with
    | none => { s with player.ending := some (s.clock, .signal signal.number) }
    | some r =>
      { s with
        player.stdout := s.player.stdout ++ r.stdout
        player.stderr := s.player.stderr ++ r.stderr
        player.ending :=
          match r.exit with
          | some n => some (s.clock + r.delay.nanos, .code n)
          | none => s.player.ending }

def await (timeout : Duration) (s : Stage) : Option Exit × Stage :=
  let deadline := s.clock + timeout.nanos
  match s.player.ending with
  | some (time, e) =>
    if time ≤ deadline then (some e, { s with clock := max s.clock time })
    else (none, { s with clock := deadline })
  | none => (none, { s with clock := deadline })

/-- The number of the signal that no process survives. -/
def killNumber : Nat := 9

def forceKill (s : Stage) : Stage :=
  match s.ended with
  | some _ => s
  | none => { s with player.ending := some (s.clock, .signal killNumber) }

/-- Waits for the end of the child without any bound. A child that would never end counts as killed. -/
def reap (s : Stage) : Exit × Stage :=
  match s.player.ending with
  | some (time, e) => (e, { s with clock := max s.clock time })
  | none => (.signal killNumber, s)

def output (stream : Stream) (s : Stage) : ByteArray :=
  match stream with
  | .stdout => s.player.stdout
  | .stderr => s.player.stderr

def host : Host Stage where
  clock := clock
  spawn := spawn
  poll s := (.ok s.ended, s)
  signal sig s := (.ok (), s.receive sig)
  await timeout s := (s.await timeout).map .ok id
  forceKill s := (.sent, s.forceKill)
  reap s := s.reap.map .ok id
  settle s := s
  output := output

def pause (d : Duration) (s : Stage) : Stage := { s with clock := s.clock + d.nanos }

/-- Lets time pass until the child has ended, if it ever does. -/
def awaitExit (s : Stage) : Stage :=
  match s.player.ending with
  | some (time, _) => { s with clock := max s.clock time }
  | none => s

end Stage

end GracefulDrain
