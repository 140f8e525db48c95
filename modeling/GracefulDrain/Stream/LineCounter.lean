import GracefulDrain.Text.Utf8
/-!
# Counting lines

A line counter takes a body in chunks of any size, counts its lines and decides when to stop: at the
sentinel line, which ends a drained stream, or when a given number of lines has been counted. Its report
depends on the body alone, not on the chunks: `LineReport.ofBody` says what it is.
-/

namespace GracefulDrain

def sentinelLine : String := "502 Bad Gateway"

/-- What has been seen of a stream. -/
structure LineReport where
  /-- Lines, blank ones included, the sentinel excluded. -/
  lines : Nat := 0
  sawSentinel : Bool := false
  stoppedEarly : Bool := false
  deriving DecidableEq, Repr

inductive Flow
  | more
  | stop
  deriving DecidableEq, Repr

/-- A line without the carriage return at its end. -/
def stripReturn (line : Bytes) : Bytes :=
  if line.getLast? = some 13 then line.dropLast else line

namespace LineReport

/-- Whether a stop rule has applied. -/
def isDone (r : LineReport) : Bool := r.sawSentinel || r.stoppedEarly

def line (r : LineReport) (earlyStop : Option Nat) (raw : Bytes) : LineReport × Flow :=
  if stripReturn raw = Utf8.encode sentinelLine then ({ r with sawSentinel := true }, .stop)
  else
    let r := { r with lines := r.lines + 1 }
    if earlyStop.any (· ≤ r.lines) then ({ r with stoppedEarly := true }, .stop) else (r, .more)

/-- Takes lines until a stop rule applies. -/
def scan (earlyStop : Option Nat) (r : LineReport) : List Bytes → LineReport
  | [] => r
  | raw :: rest =>
    match r.line earlyStop raw with
    | (r, .stop) => r
    | (r, .more) => scan earlyStop r rest

end LineReport

/-- The lines of a body: it is cut at every line feed, and a last piece without one counts if it is not
empty. `piece` holds the piece that is being read, reversed. -/
def bodyLinesFrom (piece : Bytes) : Bytes → List Bytes
  | [] => if piece.isEmpty then [] else [piece.reverse]
  | b :: rest =>
    if b = 10 then piece.reverse :: bodyLinesFrom [] rest else bodyLinesFrom (b :: piece) rest

def bodyLines (body : Bytes) : List Bytes := bodyLinesFrom [] body

def LineReport.ofBody (earlyStop : Option Nat) (body : Bytes) : LineReport :=
  scan earlyStop {} (bodyLines body)

/-- A count in progress. -/
structure LineCounter where
  earlyStop : Option Nat := none
  /-- The unfinished line, reversed. -/
  piece : Bytes := []
  report : LineReport := {}
  deriving DecidableEq, Repr

namespace LineCounter

/-- Takes a chunk. When a stop rule applies, the rest of the chunk is lost. -/
def feed (c : LineCounter) : Bytes → LineCounter × Flow
  | [] => (c, .more)
  | b :: rest =>
    if b = 10 then
      match c.report.line c.earlyStop c.piece.reverse with
      | (report, .stop) => ({ c with piece := [], report }, .stop)
      | (report, .more) => feed { c with piece := [], report } rest
    else feed { c with piece := b :: c.piece } rest

/-- The report at the end of the body. An unfinished line counts, unless a stop rule has applied. -/
def finish (c : LineCounter) : LineReport :=
  if c.piece.isEmpty || c.report.isDone then c.report
  else (c.report.line c.earlyStop c.piece.reverse).1

def feedAll (c : LineCounter) : List Bytes → LineCounter
  | [] => c
  | chunk :: rest =>
    match c.feed chunk with
    | (c, .stop) => c
    | (c, .more) => feedAll c rest

end LineCounter

end GracefulDrain
