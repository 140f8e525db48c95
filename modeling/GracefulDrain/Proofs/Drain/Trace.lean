import GracefulDrain.Proofs.Drain.Mirror
import GracefulDrain.Proofs.Process.Invariant
import GracefulDrain.Proofs.Process.Record

/-! # Traces of a scenario

A world can be made to keep a trace of the contacts that a scenario has with it. The traced world shows the world
itself (`World.traced_shows`), so nothing else changes. `Adds` says what an act adds to the trace: each act of a
supervised process has its contacts, and a lemma that names them. All of them are about the child, whatever is done
to the process (`invariant_handles`). -/

namespace GracefulDrain

/-- A contact with the world. -/
inductive Contact
  /-- A call about the child. -/
  | child (call : Call)
  | probe (url : String) (answer : Option Answer)
  /-- An eyeball has been started, at the time `start`. -/
  | request (eyeball : Eyeball) (start : Nat) (response : Response)
  | pause (wait : Wait) (length : Duration)
  /-- The output of the child has been awaited. -/
  | settle

namespace Contact

/-- The exit of the child that the contact reports, if it reports one. -/
def exit? : Contact → Option Exit
  | .child call => call.exit?
  | _ => none

/-- Whether the child is sent a termination signal. -/
def isSignal : Contact → Bool
  | .child (.signal ..) => true
  | _ => false

def isPoll : Contact → Bool
  | .child (.poll _) => true
  | _ => false

/-- Whether the contact is part of a forced kill. -/
def isKilling : Contact → Bool
  | .child (.poll _) | .child (.forceKill _) | .child (.reap _) => true
  | _ => false

/-- Whether the contact is about the child. -/
def isChild : Contact → Bool
  | .child _ => true
  | _ => false

/-- Whether the contact belongs to a wait that goes on as long as `url` is found ready, or not. -/
def isProbing (url : String) (ready : Bool) : Contact → Bool
  | .probe u answer => u == url && answer.any Answer.isReady == ready
  | .child (.poll _) | .pause .readiness _ => true
  | _ => false

theorem isSignal_of_isPoll {c : Contact} (h : c.isPoll) : c.isSignal = false := by
  cases c with
  | child call => cases call <;> first | rfl | cases h
  | _ => rfl

theorem isSignal_of_isProbing {c : Contact} {url : String} {ready : Bool} (h : c.isProbing url ready) :
    c.isSignal = false := by
  cases c with
  | child call => cases call <;> first | rfl | cases h
  | _ => rfl

theorem isSignal_of_isKilling {c : Contact} (h : c.isKilling) : c.isSignal = false := by
  cases c with
  | child call => cases call <;> first | rfl | cases h
  | _ => rfl

theorem isProbing_of_isPoll {c : Contact} {url : String} {ready : Bool} (h : c.isPoll) :
    c.isProbing url ready := by
  cases c with
  | child call => cases call <;> first | rfl | cases h
  | _ => cases h

theorem isChild_of_isPoll {c : Contact} (h : c.isPoll) : c.isChild := by
  cases c <;> first | rfl | cases h

theorem isChild_of_isKilling {c : Contact} (h : c.isKilling) : c.isChild := by
  cases c <;> first | rfl | cases h

end Contact

/-- A world with the contacts that there have been. -/
structure Traced (ω : Type) where
  world : ω
  trace : List Contact := []

namespace Traced
variable {ω α : Type}

/-- Makes a contact and takes it down. -/
def call (f : ω → α × ω) (contact : α → Contact) (t : Traced ω) : α × Traced ω :=
  ((f t.world).1, ⟨(f t.world).2, t.trace ++ [contact (f t.world).1]⟩)

end Traced

namespace World
variable {ω : Type}

/-- The world that keeps a trace. -/
def traced (world : World ω) : World (Traced ω) where
  clock t := world.clock t.world
  spawn argv t := ((world.spawn argv t.world).1, { t with world := (world.spawn argv t.world).2 })
  poll := Traced.call world.poll fun answer => .child (.poll answer)
  signal signal := Traced.call (world.signal signal) fun answer => .child (.signal signal answer)
  await timeout := Traced.call (world.await timeout) fun answer => .child (.await timeout answer)
  forceKill := Traced.call world.forceKill fun answer => .child (.forceKill answer)
  reap := Traced.call world.reap fun answer => .child (.reap answer)
  settle t := ⟨world.settle t.world, t.trace ++ [.settle]⟩
  output stream t := world.output stream t.world
  probe url := Traced.call (world.probe url) (.probe url)
  request eyeball t := t.call (world.request eyeball) (.request eyeball (world.clock t.world))
  pause wait d t := ⟨world.pause wait d t.world, t.trace ++ [.pause wait d]⟩
  calendar t := world.calendar t.world
  le_clock_probe url t := world.le_clock_probe url t.world
  le_clock_poll t := world.le_clock_poll t.world
  le_clock_pause wait d t := world.le_clock_pause wait d t.world

theorem traced_shows (world : World ω) : world.traced.Shows Traced.world world where
  host :=
    { clock := fun _ => rfl
      spawn := fun _ _ => rfl
      poll := fun _ => rfl
      signal := fun _ _ => rfl
      await := fun _ _ => rfl
      forceKill := fun _ => rfl
      reap := fun _ => rfl
      settle := fun _ => rfl
      output := fun _ _ => rfl }
  probe _ _ := rfl
  request _ _ := rfl
  pause _ _ _ := rfl
  calendar _ := rfl

/-! The contact of each call about the child. -/

section
variable {world : World ω} {t t' : Traced ω}

theorem trace_poll {answer : Except OsError (Option Exit)} (h : world.traced.poll t = (answer, t')) :
    t'.trace = t.trace ++ [.child (.poll answer)] := by
  cases h
  rfl

theorem trace_signal {signal : TermSignal} {answer : Except OsError Unit}
    (h : world.traced.signal signal t = (answer, t')) :
    t'.trace = t.trace ++ [.child (.signal signal answer)] := by
  cases h
  rfl

theorem trace_await {timeout : Duration} {answer : Except OsError (Option Exit)}
    (h : world.traced.await timeout t = (answer, t')) :
    t'.trace = t.trace ++ [.child (.await timeout answer)] := by
  cases h
  rfl

theorem trace_forceKill {answer : KillAnswer} (h : world.traced.forceKill t = (answer, t')) :
    t'.trace = t.trace ++ [.child (.forceKill answer)] := by
  cases h
  rfl

theorem trace_reap {answer : Except OsError Exit} (h : world.traced.reap t = (answer, t')) :
    t'.trace = t.trace ++ [.child (.reap answer)] := by
  cases h
  rfl

theorem trace_request {eyeball : Eyeball} {response : Response}
    (h : world.traced.request eyeball t = (response, t')) :
    t'.trace = t.trace ++ [.request eyeball (world.traced.clock t) response] := by
  cases h
  rfl

theorem trace_isReady {url : String} {ready : Bool} (h : world.traced.isReady url t = (ready, t')) :
    ∃ answer, t'.trace = t.trace ++ [.probe url answer] ∧ answer.any Answer.isReady = ready := by
  cases h
  exact ⟨(world.probe url t.world).1, rfl, rfl⟩

end

end World

namespace Handle
variable {ω : Type} {world : World ω} {h h' h'' : Handle (Traced ω)} {added added' : List Contact}

/-- What an act does that turns `h` into `h'` and adds these contacts to the trace: it learns of an exit only by
them. -/
structure Adds (h h' : Handle (Traced ω)) (added : List Contact) : Prop where
  trace : h'.world.trace = h.world.trace ++ added
  exit : ∀ e, h'.exit = some e → h.exit = some e ∨ ∃ c ∈ added, c.exit? = some e

namespace Adds

theorem refl (h : Handle (Traced ω)) : h.Adds h [] :=
  ⟨(List.append_nil _).symm, fun _ known => .inl known⟩

theorem trans (a : h.Adds h' added) (a' : h'.Adds h'' added') : h.Adds h'' (added ++ added') := by
  refine ⟨?_, fun e known => ?_⟩
  · rw [a'.trace, a.trace, List.append_assoc]
  · obtain known' | ⟨c, mem, reports⟩ := a'.exit e known
    · obtain known | ⟨c, mem, reports⟩ := a.exit e known'
      · exact .inl known
      · exact .inr ⟨c, List.mem_append_left _ mem, reports⟩
    · exact .inr ⟨c, List.mem_append_right _ mem, reports⟩

/-- Contacts after which the handle is as it was, in the world that they leave. -/
theorem plain {w : Traced ω} (trace : w.trace = h.world.trace ++ added) : h.Adds { h with world := w } added :=
  ⟨trace, fun _ known => .inl known⟩

/-- A contact after which the handle knows the exit that the contact reports. -/
theorem heard {c : Contact} {w : Traced ω} {e : Exit} (trace : w.trace = h.world.trace ++ [c])
    (reports : c.exit? = some e) : h.Adds { h with world := w, exit := some e } [c] :=
  ⟨trace, fun _ known => .inr ⟨c, List.mem_singleton_self c, reports.trans known⟩⟩

end Adds

theorem poll_adds :
    wp (poll world.traced.toHost)
      (fun r h' => ∃ polls, h.Adds h' polls ∧ (∀ c ∈ polls, c.isPoll) ∧ h'.exit = r)
      (fun _ h' => ∃ polls, h.Adds h' polls ∧ ∀ c ∈ polls, c.isPoll) h := by
  refine wp_poll ?_ ?_ ?_ ?_
  · intro e known
    exact ⟨[], .refl h, nofun, known⟩
  · intro _ e w polled
    exact ⟨_, .heard (World.trace_poll polled) rfl, by simp [Contact.isPoll], rfl⟩
  · intro unknown w polled
    exact ⟨_, .plain (World.trace_poll polled), by simp [Contact.isPoll], unknown⟩
  · intro _ reason w polled
    exact ⟨_, .plain (World.trace_poll polled), by simp [Contact.isPoll]⟩

theorem sendSignal_adds (signal : TermSignal) :
    wp (sendSignal world.traced.toHost signal)
      (fun _ h' => ∃ polls, h.Adds h' (polls ++ [.child (.signal signal (.ok ()))]) ∧
        (∀ c ∈ polls, c.isPoll) ∧ h'.exit = none)
      (fun _ h' => ∃ polls, (h.Adds h' polls ∨
        ∃ reason, h.Adds h' (polls ++ [.child (.signal signal (.error reason))])) ∧ ∀ c ∈ polls, c.isPoll) h := by
  refine wp_sendSignal ?_ ?_ ?_ ?_ ?_
  · intro e known
    exact ⟨[], .inl (.refl h), nofun⟩
  · intro _ e w polled
    exact ⟨_, .inl (.heard (World.trace_poll polled) rfl), by simp [Contact.isPoll]⟩
  · intro _ reason w polled
    exact ⟨_, .inl (.plain (World.trace_poll polled)), by simp [Contact.isPoll]⟩
  · intro unknown w w' polled sent
    have alive := Adds.plain (World.trace_poll polled)
    exact ⟨_, alive.trans (.plain (World.trace_signal sent)), by simp [Contact.isPoll], unknown⟩
  · intro unknown w reason w' polled refused
    have alive := Adds.plain (World.trace_poll polled)
    exact ⟨_, .inr ⟨reason, alive.trans (.plain (World.trace_signal refused))⟩, by simp [Contact.isPoll]⟩

/-- A wait makes its one call unless the exit is known. -/
theorem waitFor_adds (timeout : Duration) (wait : Wait) :
    wp (waitFor world.traced.toHost timeout wait)
      (fun e h' => h'.exit = some e ∧ ((h.exit = some e ∧ h.Adds h' []) ∨
        ∃ answer, h.Adds h' [.child (.await timeout answer)]))
      (fun _ h' => ∃ answer, h.Adds h' [.child (.await timeout answer)]) h := by
  refine wp_waitFor ?_ ?_ ?_ ?_
  · intro e known
    exact ⟨known, .inl ⟨known, .refl h⟩⟩
  · intro _ e w awaited
    exact ⟨rfl, .inr ⟨_, .heard (World.trace_await awaited) rfl⟩⟩
  · intro _ w text awaited
    exact ⟨_, .plain (World.trace_await awaited)⟩
  · intro _ reason w awaited
    exact ⟨_, .plain (World.trace_await awaited)⟩

theorem kill_adds :
    wp (kill world.traced.toHost)
      (fun e h' => ∃ killing, h.Adds h' killing ∧ (∀ c ∈ killing, c.isKilling) ∧ h'.exit = some e)
      (fun _ h' => ∃ killing, h.Adds h' killing ∧ ∀ c ∈ killing, c.isKilling) h := by
  have forced {w w' : Traced ω} {answer : KillAnswer} (polled : world.traced.poll h.world = (.ok none, w))
      (killed : world.traced.forceKill w = (answer, w')) :
      h.Adds { h with world := w' } ([.child (.poll (.ok none))] ++ [.child (.forceKill answer)]) :=
    (Adds.plain (World.trace_poll polled)).trans (.plain (World.trace_forceKill killed))
  refine wp_kill ?_ ?_ ?_ ?_ ?_ ?_
  · intro e known
    exact ⟨[], .refl h, nofun, known⟩
  · intro _ e w polled
    exact ⟨_, .heard (World.trace_poll polled) rfl, by simp [Contact.isKilling], rfl⟩
  · intro _ reason w polled
    exact ⟨_, .plain (World.trace_poll polled), by simp [Contact.isKilling]⟩
  · intro _ w reason w' polled refused
    exact ⟨_, forced polled refused, by simp [Contact.isKilling]⟩
  · intro _ w answer w' e w'' polled killed reaped
    exact ⟨_, (forced polled killed).trans (.heard (World.trace_reap reaped) rfl),
      by simp [Contact.isKilling], rfl⟩
  · intro _ w answer w' reason w'' polled killed lost
    exact ⟨_, (forced polled killed).trans (.plain (World.trace_reap lost)), by simp [Contact.isKilling]⟩

end Handle

/-! ### Supervised processes -/

/-- A wait for the end of the child, which is killed if it does not end. -/
def TerminationWait (cs : List Contact) : Prop :=
  ∃ timeout answer killing, cs = .child (.await timeout answer) :: killing ∧ ∀ c ∈ killing, c.isKilling

theorem TerminationWait.isSignal {cs : List Contact} (h : TerminationWait cs) : ∀ c ∈ cs, c.isSignal = false := by
  obtain ⟨timeout, answer, killing, rfl, kills⟩ := h
  exact List.forall_mem_cons.2 ⟨rfl, fun c mem => Contact.isSignal_of_isKilling (kills c mem)⟩

namespace Supervised
variable {ω α : Type} {world : World ω} {p q : Supervised (Traced ω)}

theorem poll_adds (p : Supervised (Traced ω)) :
    wp (poll world.traced.toHost)
      (fun _ q => ∃ polls, p.handle.Adds q.handle polls ∧ ∀ c ∈ polls, c.isPoll)
      (fun _ q => ∃ polls, p.handle.Adds q.handle polls ∧ ∀ c ∈ polls, c.isPoll) p := by
  rw [wp_poll]
  refine wp_mono Handle.poll_adds ?_ fun _ _ h => h
  rintro r h ⟨polls, adds, arePolls, -⟩
  exact ⟨polls, adds, arePolls⟩

/-- A signal is sent once after polls, or not at all. -/
theorem sendSignal_adds (signal : TermSignal) (p : Supervised (Traced ω)) :
    wp (sendSignal world.traced.toHost signal)
      (fun _ q => ∃ polls, p.handle.Adds q.handle (polls ++ [.child (.signal signal (.ok ()))]) ∧
        (∀ c ∈ polls, c.isPoll) ∧ q.handle.exit = none)
      (fun _ q => ∃ polls, (p.handle.Adds q.handle polls ∨
        ∃ reason, p.handle.Adds q.handle (polls ++ [.child (.signal signal (.error reason))])) ∧
        ∀ c ∈ polls, c.isPoll) p := by
  cases live : p.state.isTerminal with
  | true =>
    rw [wp_sendSignal_of_isTerminal live]
    exact ⟨[], .inl (.refl _), nofun⟩
  | false =>
    rw [wp_sendSignal live]
    refine wp_mono (poll_adds p) ?_ ?_
    · rintro r q ⟨polls, adds, arePolls⟩
      have append {more : List Contact} (arePolls' : ∀ c ∈ more, c.isPoll) : ∀ c ∈ polls ++ more, c.isPoll :=
        List.forall_mem_append.2 ⟨arePolls, arePolls'⟩
      split
      · exact ⟨polls, .inl adds, arePolls⟩
      refine wp_mono (Handle.sendSignal_adds signal) ?_ ?_
      · rintro _ h ⟨polls', adds', arePolls', unknown⟩
        refine ⟨polls ++ polls', ?_, append arePolls', unknown⟩
        rw [List.append_assoc]
        exact adds.trans adds'
      · rintro f h ⟨polls', adds' | ⟨reason, adds'⟩, arePolls'⟩
        · exact ⟨polls ++ polls', .inl (adds.trans adds'), append arePolls'⟩
        · refine ⟨polls ++ polls', .inr ⟨reason, ?_⟩, append arePolls'⟩
          rw [List.append_assoc]
          exact adds.trans adds'
    · rintro f q ⟨polls, adds, arePolls⟩
      exact ⟨polls, .inl adds, arePolls⟩

/-- A wait for the end that succeeds has heard of it, unless it was known. -/
theorem awaitTermination_adds (p : Supervised (Traced ω)) :
    wp (awaitTermination world.traced.toHost)
      (fun _ q => q.handle.exit.isSome ∧ ∃ waiting, p.handle.Adds q.handle waiting ∧
        (p.handle.exit.isSome ∧ waiting = [] ∨ TerminationWait waiting))
      (fun _ q => ∃ waiting, p.handle.Adds q.handle waiting ∧
        (p.state.isTerminal ∧ waiting = [] ∨ TerminationWait waiting)) p := by
  cases live : p.state.isTerminal with
  | true =>
    rw [wp_awaitTermination_of_isTerminal live]
    exact ⟨[], .refl _, .inl ⟨rfl, rfl⟩⟩
  | false =>
    rw [wp_awaitTermination live]
    refine wp_mono (Handle.waitFor_adds _ _) ?_ ?_
    · rintro e h ⟨heard, ⟨known, adds⟩ | ⟨answer, adds⟩⟩
      · exact ⟨by rw [heard]; rfl, [], adds, .inl ⟨by rw [known]; rfl, rfl⟩⟩
      · exact ⟨by rw [heard]; rfl, _, adds, .inr ⟨_, answer, [], rfl, nofun⟩⟩
    · rintro f h ⟨answer, adds⟩
      split
      · refine wp_mono Handle.kill_adds ?_ ?_
        · rintro e h' ⟨killing, adds', kills, heard⟩
          exact ⟨by rw [heard]; rfl, _, adds.trans adds', .inr ⟨_, answer, killing, rfl, kills⟩⟩
        · rintro f' h' ⟨killing, adds', kills⟩
          exact ⟨_, adds.trans adds', .inr ⟨_, answer, killing, rfl, kills⟩⟩
      · exact ⟨_, adds, .inr ⟨_, answer, [], rfl, nofun⟩⟩

/-- `p` becomes `q` with contacts about the child only. -/
def Handles (p q : Supervised (Traced ω)) : Prop :=
  ∃ added, p.handle.Adds q.handle added ∧ ∀ c ∈ added, c.isChild

theorem Handles.refl (p : Supervised (Traced ω)) : p.Handles p := ⟨[], .refl _, nofun⟩

/-- An act of the handle is one of the process, if all its contacts are about the child. -/
theorem preserves_handles {act : Handle.Act (Traced ω) α}
    (deals : ∀ h : Handle (Traced ω),
      wp act (fun _ h' => ∃ added, h.Adds h' added ∧ ∀ c ∈ added, c.isChild)
        (fun _ h' => ∃ added, h.Adds h' added ∧ ∀ c ∈ added, c.isChild) h) :
    Preserves p.Handles (viaHandle act) := by
  rintro q ⟨added, adds, child⟩
  have onward {h : Handle (Traced ω)} (deal : ∃ more, q.handle.Adds h more ∧ ∀ c ∈ more, c.isChild) :
      p.Handles { q with handle := h } := by
    obtain ⟨more, adds', child'⟩ := deal
    exact ⟨added ++ more, adds.trans adds', List.forall_mem_append.2 ⟨child, child'⟩⟩
  rw [wp_viaHandle]
  exact wp_mono (deals q.handle) (fun _ _ => onward) fun _ _ => onward

/-- Whatever is done to a process, its contacts are about the child. -/
theorem invariant_handles (p : Supervised (Traced ω)) : Invariant world.traced.toHost p.Handles where
  move _ _ handles := handles
  poll := by
    refine preserves_handles fun h => wp_mono Handle.poll_adds ?_ ?_
    · rintro _ _ ⟨polls, adds, arePolls, -⟩
      exact ⟨polls, adds, fun c mem => Contact.isChild_of_isPoll (arePolls c mem)⟩
    · rintro _ _ ⟨polls, adds, arePolls⟩
      exact ⟨polls, adds, fun c mem => Contact.isChild_of_isPoll (arePolls c mem)⟩
  sendSignal signal := by
    have signalled {polls : List Contact} (arePolls : ∀ c ∈ polls, c.isPoll) (answer : Except OsError Unit) :
        ∀ c ∈ polls ++ [.child (.signal signal answer)], c.isChild :=
      List.forall_mem_append.2
        ⟨fun c mem => Contact.isChild_of_isPoll (arePolls c mem), List.forall_mem_singleton.2 rfl⟩
    refine preserves_handles fun h => wp_mono (Handle.sendSignal_adds signal) ?_ ?_
    · rintro _ _ ⟨polls, adds, arePolls, -⟩
      exact ⟨_, adds, signalled arePolls _⟩
    · rintro _ _ ⟨polls, adds | ⟨reason, adds⟩, arePolls⟩
      · exact ⟨polls, adds, fun c mem => Contact.isChild_of_isPoll (arePolls c mem)⟩
      · exact ⟨_, adds, signalled arePolls _⟩
  waitFor timeout wait := by
    refine preserves_handles fun h => wp_mono (Handle.waitFor_adds timeout wait) ?_ ?_
    · rintro _ _ ⟨-, ⟨-, adds⟩ | ⟨answer, adds⟩⟩
      · exact ⟨[], adds, nofun⟩
      · exact ⟨_, adds, List.forall_mem_singleton.2 rfl⟩
    · rintro _ _ ⟨answer, adds⟩
      exact ⟨_, adds, List.forall_mem_singleton.2 rfl⟩
  kill := by
    refine preserves_handles fun h => wp_mono Handle.kill_adds ?_ ?_
    · rintro _ _ ⟨killing, adds, kills, -⟩
      exact ⟨killing, adds, fun c mem => Contact.isChild_of_isKilling (kills c mem)⟩
    · rintro _ _ ⟨killing, adds, kills⟩
      exact ⟨killing, adds, fun c mem => Contact.isChild_of_isKilling (kills c mem)⟩

end Supervised

end GracefulDrain
