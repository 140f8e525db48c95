import GracefulDrain.Stream.Handoff

/-! # The handoff in any order of events

The two parties of a handoff share a channel that takes one notice, and each acts when it is time: the notifier as
planned, the waiter from some time on. `Handoff.Step` lists what can happen next. What is due at the same time
happens in any order, a wait looks into the channel before it minds its deadline, and time does not pass over
anything that is due. `Sound` names the phases that a run goes through. Every run ends the wait, and with the answer
of `Notice.await` (`notice_in_any_order`). -/

namespace GracefulDrain

/-- What lies between the notifier and the waiter. -/
inductive Channel
  | empty
  /-- The notice, with the time at which it was given. -/
  | notice (time : Nat)
  /-- The notifier has gone without giving notice. -/
  | broken
  /-- The waiter has gone. -/
  | closed
  deriving DecidableEq

namespace Channel

/-- A notice that nobody waits for any longer is lost. -/
def give (time : Nat) : Channel → Channel
  | .closed => .closed
  | _ => .notice time

def withdraw : Channel → Channel
  | .closed => .closed
  | _ => .broken

/-- What a look into the channel tells the waiter, if anything. -/
def look : Channel → Option (Except HandoffFault Nat)
  | .notice time => some (.ok time)
  | .broken => some (.error .abandoned)
  | .empty | .closed => none

end Channel

inductive Waiter
  | idle
  | waiting
  | returned (answer : Except HandoffFault Nat) (time : Nat)

structure Handoff where
  clock : Nat := 0
  /-- The notifier is still there. -/
  held : Bool := true
  channel : Channel := .empty
  waiter : Waiter := .idle

/-- When the waiter can learn what became of the notice, and what it learns then. -/
def Notice.told : Notice → Option (Nat × Except HandoffFault Nat)
  | .given time => some (time, .ok time)
  | .withdrawn time => some (time, .error .abandoned)
  | .silent => none

namespace Handoff

section
variable (plan : Notice) (start : Nat) (timeout : Duration)

/-- Something is due at a time. -/
inductive Due (s : Handoff) : Nat → Prop
  | notifier {time : Nat} (held : s.held = true) (planned : plan.time? = some time) : Due s time
  | wait (idle : s.waiter = .idle) : Due s start
  | look (waiting : s.waiter = .waiting) (told : s.channel.look.isSome) : Due s s.clock
  | deadline (waiting : s.waiter = .waiting) : Due s (start + timeout.nanos)

/-- What can happen next. -/
inductive Step (s : Handoff) : Handoff → Prop
  | give (held : s.held = true) (planned : plan = .given s.clock) :
    Step s { s with held := false, channel := s.channel.give s.clock }
  | withdraw (held : s.held = true) (planned : plan = .withdrawn s.clock) :
    Step s { s with held := false, channel := s.channel.withdraw }
  | wait (idle : s.waiter = .idle) (now : s.clock = start) : Step s { s with waiter := .waiting }
  | learn {answer : Except HandoffFault Nat} (waiting : s.waiter = .waiting) (told : s.channel.look = some answer) :
    Step s { s with channel := .closed, waiter := .returned answer s.clock }
  | expire (waiting : s.waiter = .waiting) (untold : s.channel.look = none) (late : start + timeout.nanos ≤ s.clock) :
    Step s { s with channel := .closed, waiter := .returned (.error (.timedOut timeout)) s.clock }
  | pass {time : Nat} (later : s.clock < time) (undue : ∀ due, Due plan start timeout s due → time ≤ due) :
    Step s { s with clock := time }

/-- A run of `k` steps leads to a state. -/
inductive Run : Nat → Handoff → Prop
  | start : Run 0 {}
  | step {k : Nat} {s s' : Handoff} (before : Run k s) (step : Step plan start timeout s s') : Run (k + 1) s'

/-- The phases of a run. As soon as a wait has something to learn, no time passes until it has learnt it. -/
inductive Sound : Handoff → Prop
  | early {clock : Nat} (idle : clock ≤ start) (ahead : ∀ n, plan.time? = some n → clock ≤ n) :
    Sound ⟨clock, true, .empty, .idle⟩
  | kept {clock n : Nat} {channel : Channel} {answer : Except HandoffFault Nat} (idle : clock ≤ start)
    (told : plan.told = some (n, answer)) (look : channel.look = some answer) (past : n ≤ clock) :
    Sound ⟨clock, false, channel, .idle⟩
  | patient {clock : Nat} (begun : start ≤ clock) (inTime : clock ≤ start + timeout.nanos)
    (ahead : ∀ n, plan.time? = some n → clock ≤ n) : Sound ⟨clock, true, .empty, .waiting⟩
  | told {clock n : Nat} {channel : Channel} {answer : Except HandoffFault Nat} (told : plan.told = some (n, answer))
    (look : channel.look = some answer) (now : clock = max start n)
    (inTime : n ≤ start ∨ n < start + timeout.nanos) : Sound ⟨clock, false, channel, .waiting⟩
  | learnt {clock time n : Nat} {held : Bool} {answer : Except HandoffFault Nat}
    (told : plan.told = some (n, answer)) (ended : time = max start n)
    (inTime : n ≤ start ∨ n < start + timeout.nanos) : Sound ⟨clock, held, .closed, .returned answer time⟩
  | expired {clock time : Nat} {held : Bool} (ended : time = start + timeout.nanos)
    (late : ∀ n, plan.time? = some n → start + timeout.nanos < n) :
    Sound ⟨clock, held, .closed, .returned (.error (.timedOut timeout)) time⟩

/-- How many steps a run can still take before the wait ends. -/
def remaining (s : Handoff) : Nat :=
  (start + timeout.nanos - s.clock) + s.held.toNat + if s.waiter matches .idle then 1 else 0

end

variable {plan : Notice} {start : Nat} {timeout : Duration} {s s' : Handoff} {k : Nat}

theorem time?_of_told {n : Nat} {answer : Except HandoffFault Nat} (told : plan.told = some (n, answer)) :
    plan.time? = some n := by
  cases plan <;> cases told <;> rfl

theorem Sound.step (apart : plan.time? ≠ some (start + timeout.nanos)) (sound : Sound plan start timeout s)
    (step : Step plan start timeout s s') : Sound plan start timeout s' := by
  cases sound with
  | early idle ahead =>
    cases step with
    | give _ planned | withdraw _ planned => exact .kept idle (by rw [planned]; rfl) rfl (Nat.le_refl _)
    | wait _ now => exact .patient (Nat.le_of_eq now.symm) (Nat.le_add_right_of_le idle) ahead
    | pass later undue => exact .early (undue _ (.wait rfl)) fun n planned => undue n (.notifier rfl planned)
    | learn waiting | expire waiting => cases waiting
  | kept idle told look past =>
    cases step with
    | wait _ now =>
      have past : _ ≤ start := Nat.le_trans past idle
      exact .told told look (now.trans (Nat.max_eq_left past).symm) (.inl past)
    | pass later undue => exact .kept (undue _ (.wait rfl)) told look (Nat.le_trans past (Nat.le_of_lt later))
    | give held | withdraw held => cases held
    | learn waiting | expire waiting => cases waiting
  | patient begun inTime ahead =>
    -- a notice does not come at the deadline, so one that comes before the wait expires is in time
    have now := (Nat.max_eq_right begun).symm
    cases step with
    | give _ planned =>
      subst planned
      exact .told rfl rfl now (.inr (Nat.lt_of_le_of_ne inTime fun same => apart (congrArg some same)))
    | withdraw _ planned =>
      subst planned
      exact .told rfl rfl now (.inr (Nat.lt_of_le_of_ne inTime fun same => apart (congrArg some same)))
    | expire _ _ late =>
      refine .expired (Nat.le_antisymm inTime late) fun n planned => ?_
      have notBefore : start + timeout.nanos ≤ n := Nat.le_trans late (ahead n planned)
      exact Nat.lt_of_le_of_ne notBefore fun same => apart (same ▸ planned)
    | pass later undue =>
      exact .patient (Nat.le_trans begun (Nat.le_of_lt later)) (undue _ (.deadline rfl))
        fun n planned => undue n (.notifier rfl planned)
    | wait idle => cases idle
    | learn _ told => cases told
  | told told look now inTime =>
    -- there is something to learn, and nothing else can happen before it is learnt
    cases step with
    | learn _ learnt =>
      cases look.symm.trans learnt
      exact .learnt told now inTime
    | pass later undue => exact absurd (undue _ (.look rfl (by rw [look]; rfl))) (Nat.not_le_of_lt later)
    | give held | withdraw held => cases held
    | wait idle => cases idle
    | expire _ untold => cases look.symm.trans untold
  | learnt told ended inTime =>
    cases step with
    | give | withdraw | pass => exact .learnt told ended inTime
    | wait idle => cases idle
    | learn waiting | expire waiting => cases waiting
  | expired ended late =>
    cases step with
    | give | withdraw | pass => exact .expired ended late
    | wait idle => cases idle
    | learn waiting | expire waiting => cases waiting

theorem Run.sound (apart : plan.time? ≠ some (start + timeout.nanos)) (run : Run plan start timeout k s) :
    Sound plan start timeout s := by
  induction run with
  | start => exact .early (Nat.zero_le _) fun _ _ => Nat.zero_le _
  | step _ step ih => exact ih.step apart step

/-! ### The wait ends -/

theorem lt_of_ahead {clock due : Nat} (ahead : ∀ n, plan.time? = some n → clock ≤ n)
    (planned : plan.time? = some due) (undue : plan.time? ≠ some clock) : clock < due :=
  Nat.lt_of_le_of_ne (ahead due planned) fun same => undue (planned.trans (congrArg some same.symm))

/-- Until the wait returns, something can happen. -/
theorem Sound.exists_step (sound : Sound plan start timeout s)
    (going : ∀ answer time, s.waiter ≠ .returned answer time) : ∃ s', Step plan start timeout s s' := by
  -- if it is time for the notice it is given, and else a moment passes
  have notify {clock : Nat} {waiter : Waiter} (now : plan.time? = some clock) :
      ∃ s', Step plan start timeout ⟨clock, true, .empty, waiter⟩ s' := by
    cases plan with
    | given => cases now; exact ⟨_, .give rfl rfl⟩
    | withdrawn => cases now; exact ⟨_, .withdraw rfl rfl⟩
    | silent => cases now
  cases sound with
  | @early clock idle ahead =>
    rcases Nat.eq_or_lt_of_le idle with now | before
    · exact ⟨_, .wait rfl now⟩
    by_cases now : plan.time? = some clock
    · exact notify now
    refine ⟨_, .pass (Nat.lt_succ_self _) fun due h => ?_⟩
    cases h with
    | notifier _ planned => exact lt_of_ahead ahead planned now
    | wait => exact before
    | look waiting | deadline waiting => cases waiting
  | @kept clock n channel answer idle told look past =>
    rcases Nat.eq_or_lt_of_le idle with now | before
    · exact ⟨_, .wait rfl now⟩
    refine ⟨_, .pass (Nat.lt_succ_self _) fun due h => ?_⟩
    cases h with
    | notifier held => cases held
    | wait => exact before
    | look waiting | deadline waiting => cases waiting
  | @patient clock begun inTime ahead =>
    rcases Nat.eq_or_lt_of_le inTime with now | before
    · exact ⟨_, .expire rfl rfl (Nat.le_of_eq now.symm)⟩
    by_cases now : plan.time? = some clock
    · exact notify now
    refine ⟨_, .pass (Nat.lt_succ_self _) fun due h => ?_⟩
    cases h with
    | notifier _ planned => exact lt_of_ahead ahead planned now
    | wait idle => cases idle
    | look _ told => cases told
    | deadline => exact before
  | told _ look => exact ⟨_, .learn rfl look⟩
  | learnt => exact absurd rfl (going _ _)
  | expired => exact absurd rfl (going _ _)

theorem exists_due (plan : Notice) (start : Nat) (timeout : Duration)
    (going : ∀ answer time, s.waiter ≠ .returned answer time) :
    ∃ due, Due plan start timeout s due ∧ due ≤ start + timeout.nanos := by
  cases waiter : s.waiter with
  | idle => exact ⟨start, .wait waiter, Nat.le_add_right _ _⟩
  | waiting => exact ⟨_, .deadline waiter, Nat.le_refl _⟩
  | returned answer time => exact absurd waiter (going _ _)

theorem Step.remaining_lt (step : Step plan start timeout s s')
    (going : ∀ answer time, s'.waiter ≠ .returned answer time) :
    remaining start timeout s' < remaining start timeout s := by
  cases step with
  | give held | withdraw held => simp [remaining, held]
  | wait idle => simp [remaining, idle]
  | learn | expire => exact absurd rfl (going _ _)
  | pass later undue =>
    obtain ⟨due, isDue, soon⟩ := exists_due (s := s) plan start timeout going
    -- time does not pass over what is due, so the deadline stays ahead
    have notAfter := undue due isDue
    simp only [remaining]
    omega

theorem Step.keeps_returned {answer : Except HandoffFault Nat} {time : Nat} (sound : Sound plan start timeout s)
    (returned : s.waiter = .returned answer time) (step : Step plan start timeout s s') :
    s'.waiter = s.waiter ∧ s'.channel = s.channel := by
  cases sound with
  | learnt | expired =>
    cases step with
    | give | withdraw | pass => exact ⟨rfl, rfl⟩
    | wait idle => cases idle
    | learn waiting | expire waiting => cases waiting
  | early | kept | patient | told => cases returned

theorem Run.remaining_le (apart : plan.time? ≠ some (start + timeout.nanos)) (run : Run plan start timeout k s)
    (going : ∀ answer time, s.waiter ≠ .returned answer time) :
    k + remaining start timeout s ≤ start + timeout.nanos + 2 := by
  induction run with
  | start => simp [remaining]
  | step before step ih =>
    have closer := step.remaining_lt going
    have before := ih fun answer time returned =>
      going answer time ((step.keeps_returned (before.sound apart) returned).1.trans returned)
    omega

/-! ### What the wait returns -/

/-- A wait that has returned has learnt what became of the notice, or its time was up before that. -/
theorem Sound.of_returned {answer : Except HandoffFault Nat} {time : Nat} (sound : Sound plan start timeout s)
    (returned : s.waiter = .returned answer time) : s.channel = .closed ∧
      ((∃ n, plan.told = some (n, answer) ∧ time = max start n ∧ (n ≤ start ∨ n < start + timeout.nanos)) ∨
        (∀ n, plan.time? = some n → start + timeout.nanos < n) ∧
          answer = .error (.timedOut timeout) ∧ time = start + timeout.nanos) := by
  cases sound with
  | learnt told ended inTime =>
    cases returned
    exact ⟨rfl, .inl ⟨_, told, ended, inTime⟩⟩
  | expired ended late =>
    cases returned
    exact ⟨rfl, .inr ⟨late, rfl, ended⟩⟩
  | early | kept | patient | told => cases returned

theorem await_of_told {n : Nat} {answer : Except HandoffFault Nat} (told : plan.told = some (n, answer))
    (inTime : n ≤ start ∨ n < start + timeout.nanos) :
    plan.await start timeout = (answer.map fun _ => (), max start n) := by
  cases plan with
  | given | withdrawn =>
    cases told
    exact if_pos inTime
  | silent => cases told

theorem await_of_late (late : ∀ n, plan.time? = some n → start + timeout.nanos < n) :
    plan.await start timeout = (.error (.timedOut timeout), start + timeout.nanos) := by
  have missed {n : Nat} (planned : plan.time? = some n) : ¬ (n ≤ start ∨ n < start + timeout.nanos) := by
    have := late n planned
    omega
  cases plan with
  | given | withdrawn => exact if_neg (missed rfl)
  | silent => rfl

/-- In whatever order things happen, a wait from `start` on for at most `timeout` does as it is said to. If the
notifier acts before the wait begins or before its time is up, the wait returns as soon as both have happened, with
the time of the notice or with the news that there will be none. Else it returns when its time is up. From then on
nothing that the notifier does reaches the waiter, and it is free to act all the same. A run in which the wait has not
returned can go on, but not for more than a bounded number of steps. All this is what `Notice.await` computes. -/
theorem notice_in_any_order (apart : plan.time? ≠ some (start + timeout.nanos)) (run : Run plan start timeout k s) :
    (∀ answer time, s.waiter = .returned answer time →
      (∀ n, n ≤ start ∨ n < start + timeout.nanos →
        (plan = .given n → answer = .ok n ∧ time = max start n) ∧
        (plan = .withdrawn n → answer = .error .abandoned ∧ time = max start n)) ∧
      ((¬ ∃ n, plan.time? = some n ∧ (n ≤ start ∨ n < start + timeout.nanos)) →
        answer = .error (.timedOut timeout) ∧ time = start + timeout.nanos) ∧
      plan.await start timeout = (answer.map fun _ => (), time) ∧
      (∀ s', Step plan start timeout s s' → s'.waiter = s.waiter ∧ s'.channel = s.channel) ∧
      (s.held = true → plan = .given s.clock → Step plan start timeout s { s with held := false })) ∧
    ((∀ answer time, s.waiter ≠ .returned answer time) →
      k ≤ start + timeout.nanos + 2 ∧ ∃ s', Step plan start timeout s s') := by
  have sound := run.sound apart
  refine ⟨fun answer time returned => ?_, fun going => ⟨?_, sound.exists_step going⟩⟩
  · obtain ⟨closed, learnt⟩ := sound.of_returned returned
    have undisturbed := fun s' (step : Step plan start timeout s s') => step.keeps_returned sound returned
    have free (held : s.held = true) (planned : plan = .given s.clock) :
        Step plan start timeout s { s with held := false } := by
      have gives : Step plan start timeout s _ := .give held planned
      rw [closed] at gives
      rw [show ({ s with held := false } : Handoff) = { s with held := false, channel := .closed } by rw [← closed]]
      exact gives
    obtain ⟨n, told, rfl, inTime⟩ | ⟨late, rfl, rfl⟩ := learnt
    · refine ⟨fun m _ => ?_, fun missed => ?_, await_of_told told inTime, undisturbed, free⟩
      · constructor <;> rintro rfl <;> cases told <;> exact ⟨rfl, rfl⟩
      · exact absurd ⟨n, time?_of_told told, inTime⟩ missed
    · have missed {m : Nat} (planned : plan.time? = some m) : ¬ (m ≤ start ∨ m < start + timeout.nanos) := by
        have := late m planned
        omega
      refine ⟨fun m inTime => ?_, fun _ => ⟨rfl, rfl⟩, await_of_late late, undisturbed, free⟩
      constructor <;> rintro rfl <;> exact absurd inTime (missed rfl)
  · have bound := run.remaining_le apart going
    omega

/-- A notice from before the wait reaches a waiter that has no time to wait. -/
theorem kept_notice_needs_no_time : ∃ s, Run (.given 2) 3 .zero 5 s ∧ s.waiter = .returned (.ok 2) 3 ∧
    Notice.await (.given 2) 3 .zero = (.ok (), 3) := by
  have given : Run (.given 2) 3 .zero 2 ⟨2, false, .notice 2, .idle⟩ := by
    refine .step (.step .start (.pass (by decide : 0 < 2) fun due h => ?_)) (.give rfl rfl)
    cases h with
    | notifier _ planned => cases planned; exact Nat.le_refl _
    | wait => decide
    | look waiting | deadline waiting => cases waiting
  have waiting : Run (.given 2) 3 .zero 4 ⟨3, false, .notice 2, .waiting⟩ := by
    refine .step (.step given (.pass (by decide : 2 < 3) fun due h => ?_)) (.wait rfl rfl)
    cases h with
    | notifier held => cases held
    | wait => decide
    | look waiting | deadline waiting => cases waiting
  have returned : Run (.given 2) 3 .zero 5 ⟨3, false, .closed, .returned (.ok 2) 3⟩ := .step waiting (.learn rfl rfl)
  obtain ⟨learns, -⟩ := notice_in_any_order (by decide) returned
  obtain ⟨-, -, computed, -⟩ := learns _ _ rfl
  exact ⟨_, returned, rfl, computed⟩

end Handoff

end GracefulDrain
