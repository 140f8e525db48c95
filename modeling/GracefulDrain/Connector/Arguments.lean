import GracefulDrain.Text.Numeral
import GracefulDrain.Text.Quoted
/-!
# Arguments of the stand-in connector

Flags may stand anywhere between the words of a command. Each takes the argument behind it as its value,
whatever that is; the last flag of a kind wins.
-/

namespace GracefulDrain.Connector

/-- A command line without the program. -/
structure Invocation where
  configPath : Option String := none
  originCert : Option String := none
  connections : Option UInt32 := none
  /-- The arguments that are neither flags nor values of flags. -/
  words : List String := []
  deriving DecidableEq

inductive ArgumentFault
  | missingValue (flag : String)
  | unsupportedFormat (format : String)
  | invalidConnections (raw : String) (fault : Numeral.Fault)
  deriving DecidableEq, Repr

def ArgumentFault.message : ArgumentFault → String
  | .missingValue flag => s!"{flag} requires a value"
  | .unsupportedFormat format => s!"unsupported output format {Text.quote format}"
  | .invalidConnections raw _ => s!"invalid --ha-connections {Text.quote raw}"

def ArgumentFault.cause : ArgumentFault → Option String
  | .invalidConnections _ fault => some fault.message
  | _ => none

inductive Flag
  | config
  | originCert
  | output
  | connections
  deriving DecidableEq, Repr

namespace Flag

def name : Flag → String
  | .config => "--config"
  | .originCert => "--origincert"
  | .output => "--output"
  | .connections => "--ha-connections"

def ofName? (s : String) : Option Flag :=
  if s = "--config" then some .config
  else if s = "--origincert" then some .originCert
  else if s = "--output" then some .output
  else if s = "--ha-connections" then some .connections
  else none

def set (flag : Flag) (value : String) (i : Invocation) : Except ArgumentFault Invocation :=
  match flag with
  | .config => .ok { i with configPath := some value }
  | .originCert => .ok { i with originCert := some value }
  | .output => if value = "json" then .ok i else .error (.unsupportedFormat value)
  | .connections =>
    match Numeral.parse (UInt32.size - 1) value.toList with
    | .ok n => .ok { i with connections := some n.toUInt32 }
    | .error fault => .error (.invalidConnections value fault)

end Flag

/-- Reads the arguments behind those of `i`. -/
def Invocation.extend (i : Invocation) : List String → Except ArgumentFault Invocation
  | [] => .ok i
  | arg :: rest =>
    match Flag.ofName? arg with
    | none => extend { i with words := i.words ++ [arg] } rest
    | some flag =>
      match rest with
      | [] => .error (.missingValue flag.name)
      | value :: rest =>
        match flag.set value i with
        | .ok i => extend i rest
        | .error fault => .error fault

def Invocation.parse (args : List String) : Except ArgumentFault Invocation := Invocation.extend {} args

end GracefulDrain.Connector
