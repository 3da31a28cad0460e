import Mathlib.Order.Bounds.Basic
import Retry.Proofs.Delay
import Retry.Proofs.Sequence.Execute

/-!
# The stop rule

A run around a policy ends at the first call at which the operation succeeds, or a predicate
rejects the failure, or a bound is exceeded, wherever in the policy they stand
(`Template.execute_endsAfter_iff`). The shape of the policy makes no difference: up to the end of
a run no predicate rejected anything, so every bound on attempts counted every failure.
-/

namespace Retry.Template

variable {α : Type}

/-- The call of the given number, counted from one, succeeds or fails beyond a part of the policy.
A failure is reported when the operation has run. -/
inductive MustStop (template : Template Policy) (timeline : Timeline) (now : Instant)
    (attempts : List (Attempt α)) : Nat → Prop
  | success {index : Nat} {attempt : Attempt α} {value : α}
      (hattempt : attempts[index]? = some attempt) (houtcome : attempt.outcome = .ok value) :
      MustStop template timeline now attempts (index + 1)
  | rejected {index : Nat} {attempt : Attempt α} {failure : Failure} {accepts : Failure → Bool}
      (hattempt : attempts[index]? = some attempt) (houtcome : attempt.outcome = .error failure)
      (hpredicate : accepts ∈ template.policy.predicates) (hrejects : accepts failure = false) :
      MustStop template timeline now attempts (index + 1)
  | exceeded {index : Nat} {limit : AttemptLimit} (hattempt : index < attempts.length)
      (hlimit : limit ∈ template.policy.limits) (hexceeds : limit.maximum.toNat < index + 1) :
      MustStop template timeline now attempts (index + 1)
  | late {index : Nat} {attempt : Attempt α} {failure : Failure} {call : Instant} {bound : Span}
      (hattempt : attempts[index]? = some attempt) (houtcome : attempt.outcome = .error failure)
      (hcall : (template.execute timeline now attempts).calls[index]? = some call)
      (hbound : bound ∈ template.policy.bounds)
      (hlate : bound < (timeline.run call attempt.takes).since now) :
      MustStop template timeline now attempts (index + 1)

theorem MustStop.le_length {template : Template Policy} {timeline : Timeline} {now : Instant}
    {attempts : List (Attempt α)} {number : Nat}
    (h : template.MustStop timeline now attempts number) : number ≤ attempts.length := by
  cases h with
  | success hattempt _ => exact (List.getElem?_eq_some_iff.mp hattempt).1
  | rejected hattempt _ _ _ => exact (List.getElem?_eq_some_iff.mp hattempt).1
  | exceeded hattempt _ _ => exact hattempt
  | late hattempt _ _ _ _ => exact (List.getElem?_eq_some_iff.mp hattempt).1

namespace Course

variable {template : Template Policy} {timeline : Timeline} {now : Instant}
  {attempts : List (Attempt α)} (course : (template.map Policy.rule).Course timeline now attempts)

/-- No call that was retried must stop the run. -/
theorem not_mustStop {number : Nat} (hnumber : number ≤ course.retrials.length)
    (hsize : number < UInt32.size) : ¬ template.MustStop timeline now attempts number := by
  intro hstop
  have hretried : ∀ index, index + 1 = number → ∃ retrial, course.retrials[index]? = some retrial :=
    fun index heq => ⟨_, List.getElem?_eq_getElem (by omega)⟩
  cases hstop with
  | @success index attempt value hattempt houtcome =>
      obtain ⟨retrial, hretrial⟩ := hretried index rfl
      obtain ⟨attempt', hattempt', hfailed, _⟩ := course.exists_attempt hretrial
      obtain rfl := Option.some_inj.mp (hattempt'.symm.trans hattempt)
      cases hfailed.symm.trans houtcome
  | @rejected index attempt failure accepts hattempt houtcome hpredicate hrejects =>
      obtain ⟨retrial, hretrial⟩ := hretried index rfl
      obtain ⟨attempt', hattempt', hfailed, _⟩ := course.exists_attempt hretrial
      obtain rfl := Option.some_inj.mp (hattempt'.symm.trans hattempt)
      obtain rfl := Except.error.inj (hfailed.symm.trans houtcome)
      have haccepts := (Policy.parts_of_allows (course.allows hretrial)).1 accepts hpredicate
      cases haccepts.symm.trans hrejects
  | @exceeded index limit hattempt hlimit hexceeds =>
      obtain ⟨retrial, hretrial⟩ := hretried index rfl
      have hkept := course.min_le_maximum hretrial hlimit
      rw [AttemptCount.ceiling] at hkept
      omega
  | @late index attempt failure call bound hattempt houtcome hcall hbound hlate =>
      obtain ⟨retrial, hretrial⟩ := hretried index rfl
      obtain ⟨attempt', hattempt', _, hmoment, _⟩ := course.exists_attempt hretrial
      obtain rfl := Option.some_inj.mp (hattempt'.symm.trans hattempt)
      obtain rfl := Option.some_inj.mp ((course.getElem?_calls hretrial).symm.trans hcall)
      have hwithin := (Policy.parts_of_allows (course.allows hretrial)).2 bound hbound
      rw [hmoment] at hwithin
      exact Nat.not_lt.mpr hwithin hlate

/-- The last call of a run that ends must stop it. -/
theorem mustStop (hfinal : course.halt.ending.Final) :
    template.MustStop timeline now attempts (course.retrials.length + 1) := by
  obtain ⟨attempt, hrest, hstops⟩ := course.halts.stops_execution hfinal course.state_eq
  have hattempt : attempts[course.retrials.length]? = some attempt :=
    course.getElem?_attempts.trans hrest
  rcases hstops with ⟨value, houtcome⟩ | ⟨failure, houtcome, hrefused⟩
  · exact .success hattempt houtcome
  · by_contra hgoes
    refine Bool.eq_false_iff.mp hrefused ((Policy.allows_iff course.unfiltered).mpr ⟨?_, ?_, ?_⟩)
    · intro accepts hpredicate
      by_contra hrejects
      exact hgoes (.rejected hattempt houtcome hpredicate (Bool.eq_false_iff.mpr hrejects))
    · intro limit hlimit
      by_contra hexceeds
      refine hgoes (.exceeded (List.getElem?_eq_some_iff.mp hattempt).1 hlimit ?_)
      rw [List.length_map] at hexceeds
      omega
    · intro bound hbound
      by_contra hlate
      exact hgoes (.late hattempt houtcome (course.getElem?_calls_length hrest) hbound
        (Nat.not_le.mp hlate))

end Course

/-- **The stop rule.** A run ends at a call exactly if this is the first one that succeeds or fails
beyond a predicate or a bound of the policy. -/
theorem execute_endsAfter_iff (template : Template Policy) (timeline : Timeline) (now : Instant)
    (attempts : List (Attempt α)) (count : Nat) (hsize : count < UInt32.size)
    (hbackoff : template.backoff.NotNegative)
    (hfactor : template.jitter = true → ∀ attempt ∈ attempts, Jitter.InRange attempt.factor) :
    (template.execute timeline now attempts).EndsAfter count
      ↔ IsLeast {number | template.MustStop timeline now attempts number} count := by
  obtain ⟨course⟩ := (template.map Policy.rule).nonempty_course timeline now attempts
  change ((template.map Policy.rule).run timeline now attempts).EndsAfter count ↔ _
  constructor
  · rintro ⟨hfinal, hcalls⟩
    rw [course.ending_eq] at hfinal
    rw [course.length_calls hfinal] at hcalls
    refine ⟨?_, fun number hstop => ?_⟩
    · rw [← hcalls]
      exact course.mustStop hfinal
    · by_contra hlt
      exact course.not_mustStop (by omega) (by omega) hstop
  · rintro ⟨hstop, hleast⟩
    have hcount : course.retrials.length + 1 ≤ count := by
      by_contra hlt
      exact course.not_mustStop (by omega) hsize hstop
    have hfinal : course.halt.ending.Final := by
      rcases course.halts.final_or with hfinal | hrest | ⟨attempt, hmem, error, hbroken⟩
      · exact hfinal
      · have hlength := hstop.le_length
        rw [course.length_attempts, hrest, List.length_nil] at hlength
        omega
      · obtain ⟨delay, hdelay⟩ := template.exists_delay_eq hbackoff
          (fun hjitter => hfactor hjitter attempt (course.mem_attempts hmem)) course.last.attempts
        cases hdelay.symm.trans hbroken
    refine ⟨by rwa [course.ending_eq], ?_⟩
    rw [course.length_calls hfinal]
    exact Nat.le_antisymm hcount (hleast (course.mustStop hfinal))

/-- A bound of two retries under a filter ends a run with jitter at the third call. -/
theorem execute_endsAfter_iff_third :
    let policy := Policy.retryIf (fun failure => failure.kind != "Fatal")
      (.both (.attempts ⟨2⟩) (.present (.duration ⟨.ofSeconds 60, .monotonic⟩)))
    let template := ((Template.new policy).withBackoff
      (.exponential (.ofSeconds 1) 2 (.ofSeconds 3))).withJitter true
    let failing : Attempt Nat := ⟨.error ⟨⟨"Transient", "transient", none⟩, []⟩, .ofSeconds 1, 1⟩
    let attempts := [failing, failing, failing, failing]
    3 < UInt32.size ∧ template.backoff.NotNegative
      ∧ (template.jitter = true → ∀ attempt ∈ attempts, Jitter.InRange attempt.factor)
      ∧ (template.execute .timer .origin attempts).EndsAfter 3
      ∧ IsLeast {number | template.MustStop .timer .origin attempts number} 3 := by
  intro policy template failing attempts
  have hsize : 3 < UInt32.size := by decide
  have hbackoff : template.backoff.NotNegative := by
    change ¬ (2 : Binary64) < 0
    decide +kernel
  have hone : Jitter.lowest ≤ 1 ∧ 1 ≤ Jitter.highest := by decide +kernel
  have hfactor : template.jitter = true →
      ∀ attempt ∈ attempts, Jitter.InRange attempt.factor := by
    intro _ attempt hmem
    have hfailing : attempt = failing := by
      simpa [attempts] using hmem
    rw [hfailing]
    exact hone
  have hends : (template.execute .timer .origin attempts).EndsAfter 3 := by
    unfold attempts failing template policy
    decide +kernel
  exact ⟨hsize, hbackoff, hfactor, hends,
    (execute_endsAfter_iff template .timer .origin attempts 3 hsize hbackoff hfactor).mp hends⟩

end Retry.Template
