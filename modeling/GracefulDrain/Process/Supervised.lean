import GracefulDrain.Credentials
import GracefulDrain.Process.Handle
/-!
# Supervised processes

A connector together with its place in the lifecycle. Termination goes forward only: a signal is sent to a
child that is alive, the child is waited for, and it is killed if it outlives its budget.
-/

namespace GracefulDrain

inductive Outcome
  /-- The process ended within its budget. -/
  | exited (code : Option Int) (elapsed : Duration)
  /-- The process outlived its budget and was killed. -/
  | killed (elapsed : Duration)
  deriving DecidableEq

namespace Outcome

def elapsed : Outcome → Duration
  | .exited _ elapsed | .killed elapsed => elapsed

def wasKilled : Outcome → Bool
  | .killed _ => true
  | .exited .. => false

end Outcome

structure Supervised (σ : Type) where
  handle : Handle σ
  state : Lifecycle
  argv : List String
  budget : TerminationBudget

namespace Supervised
variable {σ α : Type}

/-- What a supervisor does to its process; a failure leaves the process as it then is. -/
abbrev Act (σ : Type) := ExceptT Failure (StateM (Supervised σ))

def viaHandle (act : Handle.Act σ α) : Act σ α :=
  ExceptT.mk <| modifyGet fun p =>
    let (a, handle) := act.run.run p.handle
    (a, { p with handle })

/-- Launches a connector, to serve or to be inspected. The host comes back with the failure if that is
impossible. -/
def launch (host : Host σ) (store : CredentialStore) (config : ProcessConfig) (run : Bool) (world : σ) :
    Except (Failure × σ) (Supervised σ) :=
  match store.argv config (if run then .run else .inspect) with
  | .error fault => .error (fault.failure, world)
  | .ok argv =>
    match Handle.start host argv world with
    | .error e => .error e
    | .ok handle =>
      match Lifecycle.starting.become .running with
      | .error move => .error (.illegalMove move, handle.world)
      | .ok state => .ok { handle, state, argv, budget := config.termination }

def advance (next : Lifecycle) : Act σ Unit := do
  match (← get).state.become next with
  | .ok state => modify fun p => { p with state }
  | .error move => throw (.illegalMove move)

/-- Moves on in the lifecycle if that is a move forward. -/
def advanceIfAble (next : Lifecycle) : Act σ Unit := do
  if (← get).state.canBecome next then advance next

/-- The failure of an operation that needs a live process. -/
def notRunning : Act σ α := do
  let p ← get
  throw (.notRunning p.handle.pid p.state)

/-- The exit code of the process if it has ended, without waiting. -/
def poll (host : Host σ) : Act σ (Option (Option Int)) := do
  match ← viaHandle (Handle.poll host) with
  | some e =>
    if !(← get).state.isTerminal then advance .terminated
    pure (some e.code?)
  | none => pure none

theorem run_poll (host : Host σ) (p : Supervised σ) :
    (poll host).run.run p =
      match (Handle.poll host).run.run p.handle with
      | (.ok (some e), handle) =>
        if p.state.isTerminal then (.ok (some e.code?), { p with handle })
        else
          match p.state.become .terminated with
          | .ok state => (.ok (some e.code?), { p with handle, state })
          | .error move => (.error (.illegalMove move), { p with handle })
      | (.ok none, handle) => (.ok none, { p with handle })
      | (.error failure, handle) => (.error failure, { p with handle }) := by
  have handled : (viaHandle (Handle.poll host)).run.run p =
      (((Handle.poll host).run.run p.handle).1,
        { p with handle := ((Handle.poll host).run.run p.handle).2 }) := rfl
  rw [poll, run_bind, handled]
  rcases (Handle.poll host).run.run p.handle with ⟨f | (_ | e), handle⟩
  · rfl
  · rfl
  · dsimp only
    rw [run_bind, run_get]
    dsimp only
    cases p.state.isTerminal with
    | true => rfl
    | false =>
      simp only [Bool.not_false, if_true, Bool.false_eq_true, if_false]
      rw [run_bind, advance, run_bind, run_get]
      dsimp only
      cases p.state.become .terminated <;> rfl

/-- Sends a termination signal to a live process, which drains from then on. A second signal is sent
again. -/
def sendSignal (host : Host σ) (signal : TermSignal) : Act σ Unit := do
  if (← get).state.isTerminal then notRunning
  if (← poll host).isSome then notRunning
  advanceIfAble .signalSent
  viaHandle (Handle.sendSignal host signal)
  advanceIfAble .draining

def elapsedSince (host : Host σ) (start : Nat) : Act σ Duration :=
  return .between start (host.clock (← get).handle.world)

/-- Waits for the end of the process and kills it if it outlives its budget. -/
def awaitTermination (host : Host σ) : Act σ Outcome := do
  let start := host.clock (← get).handle.world
  if (← get).state.isTerminal then notRunning
  match ← observing (viaHandle (Handle.wait host (← get).budget.total)) with
  | .ok e =>
    advance .terminated
    return .exited e.code? (← elapsedSince host start)
  | .error (.timeout ..) =>
    let _ ← viaHandle (Handle.kill host)
    advance .killed
    return .killed (← elapsedSince host start)
  | .error failure => throw failure

/-- Sends a signal and waits for the end. A process that has ended by itself is not signalled. -/
def terminate (host : Host σ) (signal : TermSignal) : Act σ Outcome := do
  if (← get).state.isTerminal then notRunning
  match ← poll host with
  | some code => return .exited code .zero
  | none =>
    sendSignal host signal
    awaitTermination host

def kill (host : Host σ) : Act σ Unit := do
  if (← get).state.isTerminal then return
  if (← poll host).isSome then return
  let e ← viaHandle (Handle.kill host)
  -- An exit code means that the process ended before the kill reached it.
  advanceIfAble (if e.code?.isSome then .terminated else .killed)

/-- The signal of an orderly shutdown. -/
def shutdownSignal : TermSignal := TermSignal.supported.headD .terminate

/-- Stops the process, by force if a signal does not help, and hands over its output. -/
def shutdown (host : Host σ) : StateM (Supervised σ) CapturedOutput := do
  if !(← get).state.isTerminal then
    match ← (terminate host shutdownSignal).run with
    | .ok _ => pure ()
    | .error _ => let _ ← (kill host).run
  modifyGet fun p =>
    let (output, handle) := p.handle.drain host
    (output, { p with handle })

/-- Gives the process up: it is killed, unless it has ended. -/
def abandon (host : Host σ) (p : Supervised σ) : σ :=
  if p.state.isTerminal then p.handle.world else p.handle.abandon host

end Supervised

end GracefulDrain
