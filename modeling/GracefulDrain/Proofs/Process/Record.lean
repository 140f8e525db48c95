import GracefulDrain.Proofs.Process.Mirror

/-! # Recorded calls

A host can be made to keep a record of the calls that ask about the child or are sent to it, each with its
answer. Nothing else changes: a run on the recorded host is the run on the host itself with the record left
out (`plain_after`). -/

namespace GracefulDrain

/-- A call to the host about the child, with the answer. -/
inductive Call
  | poll (answer : Except OsError (Option Exit))
  | await (timeout : Duration) (answer : Except OsError (Option Exit))
  | signal (signal : TermSignal) (answer : Except OsError Unit)
  | forceKill (answer : KillAnswer)
  | reap (answer : Except OsError Exit)

namespace Call

/-- The exit that the answer reports, if it reports one. -/
def exit? : Call → Option Exit
  | .poll (.ok exit) | .await _ (.ok exit) => exit
  | .reap (.ok exit) => some exit
  | _ => none

/-- Whether the call issues a signal: a termination signal or the one that no process survives. -/
def isSignal : Call → Bool
  | .signal .. | .forceKill _ => true
  | _ => false

end Call

/-- A world with the calls made so far. -/
structure Recorded (σ : Type) where
  world : σ
  calls : List Call := []

namespace Recorded
variable {σ α : Type}

/-- Makes a call and takes it down. -/
def call (f : σ → α × σ) (note : α → Call) (r : Recorded σ) : α × Recorded σ :=
  ((f r.world).1, ⟨(f r.world).2, r.calls ++ [note (f r.world).1]⟩)

theorem calls_of_call {f : σ → α × σ} {note : α → Call} {r r' : Recorded σ} {a : α}
    (h : r.call f note = (a, r')) : r'.calls = r.calls ++ [note a] := by
  cases h; rfl

end Recorded

/-- The host that keeps a record. -/
def Host.recorded {σ : Type} (host : Host σ) : Host (Recorded σ) where
  clock r := host.clock r.world
  spawn argv r := ((host.spawn argv r.world).1, { r with world := (host.spawn argv r.world).2 })
  poll := Recorded.call host.poll .poll
  signal signal := Recorded.call (host.signal signal) (.signal signal)
  await timeout := Recorded.call (host.await timeout) (.await timeout)
  forceKill := Recorded.call host.forceKill .forceKill
  reap := Recorded.call host.reap .reap
  settle r := { r with world := host.settle r.world }
  output stream r := host.output stream r.world

def Event.recorded {σ : Type} : Event σ → Event (Recorded σ)
  | .operation op => .operation op
  | .meanwhile f => .meanwhile fun r => { r with world := f r.world }

/-! ### The record changes nothing -/

/-- The recorded host shows the host itself. -/
theorem Host.recorded_shows {σ : Type} (host : Host σ) : host.recorded.Shows Recorded.world host where
  clock _ := rfl
  spawn _ _ := rfl
  poll _ := rfl
  signal _ _ := rfl
  await _ _ := rfl
  forceKill _ := rfl
  reap _ := rfl
  settle _ := rfl
  output _ _ := rfl

/-- The handle without the record. -/
def Handle.plain {σ : Type} (h : Handle (Recorded σ)) : Handle σ := { h with world := h.world.world }

namespace Supervised
variable {σ : Type} (host : Host σ) (p : Supervised (Recorded σ))

/-- The process without the record. -/
def plain (p : Supervised (Recorded σ)) : Supervised σ := { p with handle := p.handle.plain }

/-- The calls made so far. -/
def calls (p : Supervised (Recorded σ)) : List Call := p.handle.world.calls

theorem plain_eq_seen : p.plain = p.seen Recorded.world := rfl

theorem plain_step (event : Event σ) : (step host.recorded p event.recorded).plain = step host p.plain event := by
  rw [plain_eq_seen, plain_eq_seen]
  cases event with
  | operation op => exact congrArg Prod.snd (mirrors_act host.recorded_shows p op).symm
  | meanwhile f => rfl

/-- A run on the recorded host is the run on the host itself. -/
theorem plain_after (events : List (Event σ)) :
    (after host.recorded p (events.map .recorded)).plain = after host p.plain events := by
  induction events generalizing p with
  | nil => rfl
  | cons event rest ih => exact (ih _).trans (by rw [plain_step]; rfl)

end Supervised

end GracefulDrain
