import GracefulDrain.Connector.Command
import GracefulDrain.Process.Host
/-!
# Scripts

Children whose behaviour is written down: what they write, when and how they end, and what they do about
termination signals. A scripted connector may have a script of its own for each administrative command; the
stand-in connector is a script as well, as nobody can connect to it in a rehearsal.
-/

namespace GracefulDrain

/-- What a child does about a signal that it handles. -/
structure Reaction where
  stdout : ByteArray := .empty
  stderr : ByteArray := .empty
  /-- The exit code with which the child then ends, if it does. -/
  exit : Option Int := none
  /-- How long it takes until then. -/
  delay : Duration := .zero

structure Script where
  stdout : ByteArray := .empty
  stderr : ByteArray := .empty
  /-- How the child ends by itself, if it does. -/
  ending : Option Exit := none
  /-- How long it takes until then. -/
  delay : Duration := .zero
  /-- What it does about signals; one without a reaction ends it. -/
  onTerminate : Option Reaction := none
  onInterrupt : Option Reaction := none

def Script.reaction (s : Script) : TermSignal → Option Reaction
  | .terminate => s.onTerminate
  | .interrupt => s.onInterrupt

/-- A scripted connector: a script, and others for the commands that have one. -/
structure Actor where
  script : Script
  list : Option Script := none
  info : Option Script := none
  token : Option Script := none

namespace Actor

/-- The script for a command, if there is one of its own. -/
def scriptFor (a : Actor) (word : String) : Option Script :=
  if word = "list" then a.list
  else if word = "info" then a.info
  else if word = "token" then a.token
  else none

/-- The script for a command line without the program: the last word that has a script decides. -/
def play (a : Actor) (args : List String) : Script :=
  (args.filterMap a.scriptFor).getLast?.getD a.script

end Actor

namespace Connector

/-- A line with its line feed. -/
def lineOctets (line : String) : ByteArray := (line ++ "\n").toUTF8

/-- The script of a connector that serves: it waits for a signal and ends, as it has no streams to drain. -/
def Service.script (s : Service) (ignoreSignals : Bool) : Script :=
  let reaction : Reaction :=
    if ignoreSignals then {} else { exit := some 0, delay := s.exitDelay }
  { onTerminate := some reaction, onInterrupt := some reaction }

/-- The script that the stand-in connector follows for a command line. -/
def script (file : String → FileEntry) (now : Instant) (args : List String) : Script :=
  match run file now args with
  | .error fault => { stderr := fault.report.toUTF8, ending := some (.code 1) }
  | .ok (_, .prints line) => { stdout := lineOctets line, ending := some (.code 0) }
  | .ok (config, .serves service) => service.script config.ignoreSignals

end Connector

end GracefulDrain
