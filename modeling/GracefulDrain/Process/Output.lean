import GracefulDrain.Text.Trim
import GracefulDrain.Text.Utf8
/-!
# Captured output

What a process writes is kept up to a limit; the rest is read and dropped, so that the process never blocks.
-/

namespace GracefulDrain

/-- What has been captured of one stream since it was last taken. -/
structure OutputBuffer where
  octets : ByteArray := .empty

namespace OutputBuffer

/-- How many octets a buffer keeps. -/
def limit : Nat := 10 * 1024 * 1024

instance : Inhabited OutputBuffer := ⟨{}⟩

def size (b : OutputBuffer) : Nat := b.octets.size

/-- Appends as much of `chunk` as there is room for. -/
def append (b : OutputBuffer) (chunk : ByteArray) : OutputBuffer :=
  ⟨b.octets ++ chunk.extract 0 (limit - b.size)⟩

def snapshot (b : OutputBuffer) : String := Utf8.lossy b.octets

/-- Hands over the text and empties the buffer. -/
def take (b : OutputBuffer) : String × OutputBuffer := (b.snapshot, {})

end OutputBuffer

inductive Stream
  | stdout
  | stderr
  deriving DecidableEq, Repr

structure CapturedOutput where
  stdout : String
  stderr : String
  deriving DecidableEq, Repr

/-- Both streams with their names, without the blanks around them. -/
def CapturedOutput.combined (o : CapturedOutput) : String :=
  s!"stdout: {Text.trim o.stdout}\nstderr: {Text.trim o.stderr}"

end GracefulDrain
