import Retry.Proofs.Sequence.Execute

/-!
# What a bound on time bounds

A policy is asked when a failure is reported, before the wait, and never hears of the wait. So a
bound on time bounds the moments at which calls fail, and with them every call but the last. The
last call begins after the bound exactly when the wait before it crosses the bound
(`Template.calls_within_bound_iff`).
-/

namespace Retry

namespace Template

variable {α : Type}

section Course

variable {template : Template Policy} {timeline : Timeline} {now : Instant}
  {attempts : List (Attempt α)}

/-- A call that is followed by another one began within the bounds, if the clock does not go back
while the operation runs. -/
theorem Course.since_le (course : (template.map Policy.rule).Course timeline now attempts)
    (hforward : ∀ moment span, moment.nanoseconds ≤ (timeline.run moment span).nanoseconds)
    {bound : Span} (hbound : bound ∈ template.policy.bounds) {index : Nat} {call : Instant}
    (hnext : index + 1 < (template.execute timeline now attempts).calls.length)
    (hcall : (template.execute timeline now attempts).calls[index]? = some call) :
    call.since now ≤ bound := by
  obtain ⟨retrial, hretrial⟩ := course.exists_retrial hnext
  obtain ⟨attempt, _, _, hmoment, _⟩ := course.exists_attempt hretrial
  obtain rfl := Option.some_inj.mp ((course.getElem?_calls hretrial).symm.trans hcall)
  have hreport : retrial.report.moment.since now ≤ bound :=
    (Policy.parts_of_allows (course.allows hretrial)).2 bound hbound
  have hcalled : retrial.called.since now ≤ retrial.report.moment.since now :=
    Instant.since_le_since (by rw [hmoment]; exact hforward _ _) now
  exact Nat.le_trans hcalled hreport

end Course

/-- **Only the last wait can cross a bound on time.** Every call but the last begins within the
bound. The last one does so exactly if the wait before it ends within the bound. -/
theorem calls_within_bound_iff (template : Template Policy) (timeline : Timeline) (now : Instant)
    (attempts : List (Attempt α)) (bound : Span) (hbound : bound ∈ template.policy.bounds)
    (hforward : ∀ moment span, moment.nanoseconds ≤ (timeline.run moment span).nanoseconds) :
    let calls := (template.execute timeline now attempts).calls
    (∀ call ∈ calls.dropLast, call.since now ≤ bound)
      ∧ ((∀ call ∈ calls.tail, call.since now ≤ bound)
        ↔ ∀ index call attempt delay, calls.length = index + 2 →
          calls[index]? = some call → attempts[index]? = some attempt →
          template.delay attempt.factor (UInt32.ofNat (index + 1)) = .ok delay →
          (timeline.pause (timeline.run call attempt.takes) delay).since now ≤ bound) := by
  intro calls
  obtain ⟨course⟩ := (template.map Policy.rule).nonempty_course timeline now attempts
  refine ⟨?_, fun hwithin => ?_, fun hwait => ?_⟩
  · intro call hmem
    obtain ⟨index, hcall⟩ := List.mem_iff_getElem?.mp hmem
    have hlt := (List.getElem?_eq_some_iff.mp hcall).1
    rw [List.length_dropLast] at hlt
    rw [List.getElem?_dropLast, if_pos hlt] at hcall
    exact course.since_le hforward hbound (Nat.add_lt_of_lt_sub hlt) hcall
  · intro index call attempt delay hcount hcall hattempt hdelay
    have hlt : index + 1 < calls.length := by omega
    obtain ⟨call', attempt', delay', hcall', hattempt', hdelay', hnext⟩ := course.exists_next hlt
    obtain rfl := Option.some_inj.mp (hcall'.symm.trans hcall)
    obtain rfl := Option.some_inj.mp (hattempt'.symm.trans hattempt)
    obtain rfl := Except.ok.inj (hdelay'.symm.trans hdelay)
    refine hwithin _ (List.mem_iff_getElem?.mpr ⟨index, ?_⟩)
    rw [List.getElem?_tail]
    exact hnext
  · intro call hmem
    obtain ⟨index, hcall⟩ := List.mem_iff_getElem?.mp hmem
    rw [List.getElem?_tail] at hcall
    have hlt := (List.getElem?_eq_some_iff.mp hcall).1
    by_cases hlast : index + 2 = calls.length
    · obtain ⟨before, attempt, delay, hbefore, hattempt, hdelay, hnext⟩ := course.exists_next hlt
      rw [← Option.some_inj.mp (hnext.symm.trans hcall)]
      exact hwait index before attempt delay hlast.symm hbefore hattempt hdelay
    · exact course.since_le hforward hbound (Nat.lt_of_le_of_ne hlt hlast) hcall

/-- A wait of ten seconds from the start ends within a bound of twenty. -/
theorem calls_within_bound_of_short_wait :
    let bound := Span.ofSeconds 20
    let template := (Template.new (.duration ⟨bound, .monotonic⟩)).withBackoff
      (.fixed (.ofSeconds 10))
    let attempts : List (Attempt Nat) :=
      [⟨.error ⟨⟨"Broken", "broken", none⟩, []⟩, .zero, 1⟩, ⟨.ok 1, .zero, 1⟩]
    let calls := (template.execute .timer .origin attempts).calls
    bound ∈ template.policy.bounds
      ∧ (∀ moment span, moment.nanoseconds ≤ (Timeline.timer.run moment span).nanoseconds)
      ∧ calls = [⟨0⟩, ⟨10_000_000_000⟩]
      ∧ ∀ call ∈ calls.tail, call.since .origin ≤ bound := by
  intro bound template attempts calls
  have hbound : bound ∈ template.policy.bounds := List.mem_singleton_self bound
  have hforward : ∀ moment span,
      moment.nanoseconds ≤ (Timeline.timer.run moment span).nanoseconds :=
    fun moment span => Nat.le_add_right _ _
  have hcalls : calls = [⟨0⟩, ⟨10_000_000_000⟩] := by
    unfold calls attempts template bound
    decide
  refine ⟨hbound, hforward, hcalls, ?_⟩
  apply (calls_within_bound_iff template .timer .origin attempts bound hbound hforward).2.mpr
  intro index call attempt delay hcount hcall hattempt hdelay
  change calls.length = index + 2 at hcount
  change calls[index]? = some call at hcall
  rw [hcalls] at hcount hcall
  obtain rfl : index = 0 := Nat.add_right_cancel hcount.symm
  obtain rfl := Option.some_inj.mp hcall
  obtain rfl := Option.some_inj.mp hattempt
  obtain rfl := Except.ok.inj hdelay
  unfold bound
  decide

/-- A wait of ten seconds crosses a bound of one second, and the next call is made. -/
theorem exists_call_after_bound :
    let bound := Span.ofSeconds 1
    let template := (Template.new (.duration ⟨bound, .monotonic⟩)).withBackoff
      (.fixed (.ofSeconds 10))
    let attempts : List (Attempt Nat) :=
      [⟨.error ⟨⟨"x", "x", none⟩, []⟩, .zero, 1⟩, ⟨.ok 1, .zero, 1⟩]
    bound ∈ template.policy.bounds
      ∧ ¬ ∀ call ∈ (template.execute .timer .origin attempts).calls.tail,
        call.since .origin ≤ bound := by
  decide

end Template

end Retry
