import Retry.Backoff
import Retry.Proofs.Clock.Advance
import Retry.Proofs.Sequence.Course

/-!
# Shorter waits

When the waits of one run are no longer than those of another, its clock falls behind the other
one's and stays behind (`ShorterWaits.exists_keepsPace`). A timer ends its waits on whole ticks, so
for a timer this needs more than the moments: two waits compare by their delays if they begin at
the same part of a tick. That part is the same in both runs throughout.
-/

namespace Retry

namespace Timeline

/-- A clock that moves with what takes time. Its waits last whole ticks. How many depends on the
delay and on the part of a tick at which the wait begins, and a longer delay takes no fewer. -/
structure Ticks (timeline : Timeline) (tick : Nat) (lasts : Nat → Span → Nat) : Prop where
  run_eq : ∀ instant span, timeline.run instant span = instant.later span.nanoseconds
  wait_eq : ∀ instant span, timeline.wait instant span
    = instant.later (tick * lasts (instant.nanoseconds % tick) span)
  monotone : ∀ (part : Nat) {shorter longer : Span}, shorter ≤ longer →
    lasts part shorter ≤ lasts part longer

theorem ticks_timer : timer.Ticks Span.nanosecondsPerMillisecond fun part span =>
    (part + min span.nanoseconds longestWait + (Span.nanosecondsPerMillisecond - 1))
      / Span.nanosecondsPerMillisecond where
  run_eq _ _ := rfl
  wait_eq instant span := by
    simp only [timer, Instant.later, Instant.coveringMilliseconds, Instant.milliseconds,
      Span.nanosecondsPerMillisecond]
    congr 1
    omega
  monotone part shorter longer hle := by
    rw [Span.le_iff] at hle
    exact Nat.div_le_div_right (by omega)

/-- The clock is not moved by waits. -/
def Unmoved (timeline : Timeline) : Prop :=
  ∀ instant span, timeline.wait instant span = instant

theorem Unmoved.pause_eq {timeline : Timeline} (h : timeline.Unmoved) (moment : Instant)
    (delay : Span) : timeline.pause moment delay = moment := by
  rw [pause, h moment delay, ite_self]

end Timeline

/-- Every wait of the second run is no longer than the wait of the first run after the same
call. -/
inductive ShorterWaits (timeline : Timeline) (backoff : Backoff) (timeline' : Timeline)
    (backoff' : Backoff) : Prop
  /-- Calls take no longer by the second clock, and waits compare wherever they begin. -/
  | everywhere
      (hrun : ∀ moment span, moment.nanoseconds + span.nanoseconds
        ≤ (timeline.run moment span).nanoseconds)
      (hrun' : ∀ moment span, (timeline'.run moment span).nanoseconds
        ≤ moment.nanoseconds + span.nanoseconds)
      (hpause : ∀ moment moment' number delay delay', backoff.delay number = .ok delay →
        backoff'.delay number = .ok delay' →
        (timeline'.pause moment' delay').nanoseconds + moment.nanoseconds
          ≤ (timeline.pause moment delay).nanoseconds + moment'.nanoseconds)
  /-- Both clocks count ticks in the same way, and the delays compare. -/
  | delays {tick : Nat} {lasts : Nat → Span → Nat} (hticks : timeline.Ticks tick lasts)
      (hticks' : timeline'.Ticks tick lasts)
      (hdelay : ∀ number delay delay', backoff.delay number = .ok delay →
        backoff'.delay number = .ok delay' → delay' ≤ delay)
  /-- Both clocks are one that is not moved by waits. -/
  | unmoved (hsame : timeline' = timeline) (hunmoved : timeline.Unmoved)

/-- A relation between the moments of two runs that holds at their start and that calls and waits
preserve. -/
structure KeepsPace (timeline : Timeline) (backoff : Backoff) (timeline' : Timeline)
    (backoff' : Backoff) (related : Instant → Instant → Prop) : Prop where
  start : ∀ now, related now now
  run : ∀ {moment moment'} (span : Span), related moment moment' →
    related (timeline.run moment span) (timeline'.run moment' span)
  pause : ∀ {moment moment' number delay delay'}, related moment moment' →
    backoff.delay number = .ok delay → backoff'.delay number = .ok delay' →
    related (timeline.pause moment delay) (timeline'.pause moment' delay')

namespace Timeline

theorem Ticks.pause_eq {timeline : Timeline} {tick : Nat} {lasts : Nat → Span → Nat}
    (h : timeline.Ticks tick lasts) (moment : Instant) (delay : Span) :
    timeline.pause moment delay = moment.later
      (tick * if delay = Span.zero then 0 else lasts (moment.nanoseconds % tick) delay) := by
  rw [pause]
  split
  · rfl
  · exact h.wait_eq moment delay

theorem Ticks.keepsPace {timeline timeline' : Timeline} {backoff backoff' : Backoff} {tick : Nat}
    {lasts : Nat → Span → Nat} (h : timeline.Ticks tick lasts) (h' : timeline'.Ticks tick lasts)
    (hdelay : ∀ number delay delay', backoff.delay number = .ok delay →
      backoff'.delay number = .ok delay' → delay' ≤ delay) :
    KeepsPace timeline backoff timeline' backoff' fun moment moment' =>
      moment'.nanoseconds ≤ moment.nanoseconds
        ∧ moment'.nanoseconds % tick = moment.nanoseconds % tick where
  start now := ⟨Nat.le_refl _, rfl⟩
  run span hbehind := by
    rw [h.run_eq, h'.run_eq]
    exact ⟨Nat.add_le_add_right hbehind.1 _, Nat.add_mod_eq_add_mod_right _ hbehind.2⟩
  pause {moment moment' number delay delay'} hbehind hfirst hsecond := by
    have hle : delay' ≤ delay := hdelay number delay delay' hfirst hsecond
    -- Both waits begin at the same part of a tick, so the one with the longer delay lasts longer.
    have hticks : (if delay' = Span.zero then 0 else lasts (moment.nanoseconds % tick) delay')
        ≤ if delay = Span.zero then 0 else lasts (moment.nanoseconds % tick) delay := by
      by_cases hzero : delay = Span.zero
      · rw [hzero, Span.le_iff] at hle
        rw [if_pos (Span.ext (Nat.le_zero.mp hle) : delay' = Span.zero)]
        exact Nat.zero_le _
      · rw [if_neg hzero]
        split
        · exact Nat.zero_le _
        · exact h.monotone _ hle
    rw [h.pause_eq, h'.pause_eq, hbehind.2]
    refine ⟨Nat.add_le_add hbehind.1 (Nat.mul_le_mul_left tick hticks), ?_⟩
    rw [Instant.later, Instant.later, Nat.add_mul_mod_self_left, Nat.add_mul_mod_self_left]
    exact hbehind.2

end Timeline

/-- **A clock with shorter waits falls behind** and stays there. -/
theorem ShorterWaits.exists_keepsPace {timeline timeline' : Timeline} {backoff backoff' : Backoff}
    (h : ShorterWaits timeline backoff timeline' backoff') :
    ∃ behind, KeepsPace timeline backoff timeline' backoff' behind
      ∧ ∀ {moment moment'}, behind moment moment' →
        moment'.nanoseconds ≤ moment.nanoseconds := by
  cases h with
  | everywhere hrun hrun' hpause =>
      refine ⟨fun moment moment' => moment'.nanoseconds ≤ moment.nanoseconds,
        ⟨fun now => Nat.le_refl _, ?_, ?_⟩, id⟩
      · intro moment moment' span hbehind
        have hfirst := hrun moment span
        have hsecond := hrun' moment' span
        omega
      · intro moment moment' number delay delay' hbehind hfirst hsecond
        have hmoves := hpause moment moment' number delay delay' hfirst hsecond
        omega
  | delays hticks hticks' hdelay =>
      exact ⟨_, hticks.keepsPace hticks' hdelay, fun hbehind => hbehind.1⟩
  | unmoved hsame hunmoved =>
      subst hsame
      refine ⟨Eq, ⟨fun now => rfl, ?_, ?_⟩, fun heq => Nat.le_of_eq (congrArg _ heq.symm)⟩
      · rintro moment _ span rfl
        rfl
      · rintro moment _ number delay delay' rfl _ _
        rw [hunmoved.pause_eq, hunmoved.pause_eq]

/-- A timer is never behind a manual clock, which only moves while the operation runs. -/
theorem ShorterWaits.of_manual (backoff backoff' : Backoff) (limit : Nat) :
    ShorterWaits .timer backoff (.manual limit) backoff' := by
  have hunmoved : (Timeline.manual limit).Unmoved := fun _ _ => rfl
  apply ShorterWaits.everywhere
  · exact fun moment span => Nat.le_refl _
  · exact fun moment span => ManualClock.now_advance_le limit ⟨moment.nanoseconds⟩ span
  · intro moment moment' number delay delay' _ _
    rw [hunmoved.pause_eq, Timeline.ticks_timer.pause_eq, Instant.later, Nat.add_comm]
    exact Nat.add_le_add_right (Nat.le_add_right _ _) _

end Retry
