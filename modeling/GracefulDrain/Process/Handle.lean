import GracefulDrain.Process.Host
/-!
# Process handles

The one owner of a child. A handle remembers the exit of the child as soon as it has seen it; from then on
it asks the host for nothing more than output.
-/

namespace GracefulDrain

structure Handle (σ : Type) where
  program : String
  pid : Nat
  /-- How the child ended, once that has been seen. -/
  exit : Option Exit := none
  /-- How much of each stream has been handed over. -/
  takenOut : Nat := 0
  takenErr : Nat := 0
  world : σ

section
variable {τ α β : Type}

theorem run_get (s : τ) : (get : ExceptT Failure (StateM τ) τ).run.run s = (.ok s, s) := rfl

theorem run_bind (x : ExceptT Failure (StateM τ) α) (f : α → ExceptT Failure (StateM τ) β) (s : τ) :
    (x >>= f).run.run s =
      match x.run.run s with
      | (.ok a, t) => (f a).run.run t
      | (.error e, t) => (.error e, t) := by
  simp only [ExceptT.run_bind, StateT.run_bind]
  rcases x.run.run s with ⟨e | a, t⟩ <;> rfl

end

namespace Handle
variable {σ α : Type}

/-- What a handle does to its child; a failure leaves the handle as it then is. -/
abbrev Act (σ : Type) := ExceptT Failure (StateM (Handle σ))

def call (f : σ → α × σ) : Act σ α :=
  modifyGet fun h =>
    let (a, world) := f h.world
    (a, { h with world })

theorem run_call (f : σ → α × σ) (h : Handle σ) :
    (call f).run.run h = (.ok (f h.world).1, { h with world := (f h.world).2 }) := rfl

/-- Starts a program. The host comes back with the failure if that is impossible. -/
def start (host : Host σ) (argv : List String) (world : σ) : Except (Failure × σ) (Handle σ) :=
  match argv with
  | [] => .error (.configuration "empty argument vector", world)
  | program :: _ =>
    match host.spawn argv world with
    | (.ok pid, world) => .ok { program, pid, world }
    | (.error reason, world) => .error (.launch program reason, world)

/-- How many octets of a stream have been handed over. -/
def taken (h : Handle σ) : Stream → Nat
  | .stdout => h.takenOut
  | .stderr => h.takenErr

/-- What has been read of a stream and not handed over yet, as far as it is kept. -/
def captured (host : Host σ) (h : Handle σ) (stream : Stream) : OutputBuffer :=
  let read := host.output stream h.world
  ({} : OutputBuffer).append (read.extract (h.taken stream) read.size)

def snapshot (host : Host σ) (h : Handle σ) (stream : Stream) : String := (h.captured host stream).snapshot

def record (e : Exit) : Act σ Unit := modify fun h => { h with exit := some e }

/-- How the child ended, if it has, without waiting. -/
def poll (host : Host σ) : Act σ (Option Exit) := do
  match (← get).exit with
  | some e => pure (some e)
  | none =>
    match ← call host.poll with
    | .ok (some e) =>
      record e
      pure (some e)
    | .ok none => pure none
    | .error reason => throw (.io reason)

theorem run_poll (host : Host σ) (h : Handle σ) :
    (poll host).run.run h =
      match h.exit with
      | some e => (.ok (some e), h)
      | none =>
        match host.poll h.world with
        | (.ok (some e), world) => (.ok (some e), { h with world, exit := some e })
        | (.ok none, world) => (.ok none, { h with world })
        | (.error reason, world) => (.error (.io reason), { h with world }) := by
  rw [poll, run_bind, run_get]
  dsimp only
  cases hx : h.exit with
  | some e => rfl
  | none =>
    dsimp only
    rw [run_bind, run_call]
    rcases host.poll h.world with ⟨reason | _ | e, w⟩ <;> simp only [hx] <;> rfl

def sendSignal (host : Host σ) (signal : TermSignal) : Act σ Unit := do
  if (← poll host).isSome then throw (.notRunning (← get).pid .terminated)
  match ← call (host.signal signal) with
  | .ok () => pure ()
  | .error reason => throw (.io reason)

/-- Waits for the end of the child, for so long at most. -/
def waitFor (host : Host σ) (timeout : Duration) (wait : Wait) : Act σ Exit := do
  match (← get).exit with
  | some e => pure e
  | none =>
    match ← call (host.await timeout) with
    | .ok (some e) =>
      record e
      pure e
    | .error reason => throw (.io reason)
    | .ok none => throw (.timedOut wait timeout ((← get).snapshot host .stderr))

/-- Waits for the child to answer a signal. -/
def wait (host : Host σ) (timeout : Duration) : Act σ Exit := waitFor host timeout .signalResponse

def kill (host : Host σ) : Act σ Exit := do
  match ← poll host with
  | some e => pure e
  | none =>
    match ← call host.forceKill with
    | .refused reason => throw (.io reason)
    | .sent | .gone =>
      match ← call host.reap with
      | .ok e =>
        record e
        pure e
      | .error reason => throw (.io reason)

/-- Lets what is still in the pipes be read, hands over all that has been captured and forgets it. -/
def drain (host : Host σ) (h : Handle σ) : CapturedOutput × Handle σ :=
  let h := { h with world := host.settle h.world }
  let output := ⟨h.snapshot host .stdout, h.snapshot host .stderr⟩
  (output, { h with
    takenOut := (host.output .stdout h.world).size
    takenErr := (host.output .stderr h.world).size })

/-- Gives the child up: it is killed, unless its end has been seen, and nobody waits for it. -/
def abandon (host : Host σ) (h : Handle σ) : σ :=
  match h.exit with
  | some _ => h.world
  | none => (host.forceKill h.world).2

end Handle

end GracefulDrain
