import Retry.Proofs.Delay
import Retry.Proofs.Sequence.Execute
import Retry.Proofs.Settings.Build

/-!
# An operation that always fails

Settings without a bound on time ask for a number of retries, and an operation that always fails is
called once more than that (`Settings.build_run_failing`). There is one exception. The count of
retries stops at the largest number of 32 bits, so a bound as large as that is never exceeded: the
operation is called without end (`Settings.exists_build_run_endless`).
-/

namespace Retry

variable {α : Type}

def Attempt.Fails (attempt : Attempt α) : Prop := ∃ failure, attempt.outcome = .error failure

/-- A run that gave up after a number of retries, and tells of every failure in order. -/
structure Run.GaveUpAfter (run : Run α) (attempts : List (Attempt α)) (retries : Nat) : Prop where
  calls : run.calls.length = retries + 1
  ending : ∃ error, run.ending = .exhausted error
    ∧ error.attempts.toNat = retries + 1
    ∧ error.suppressed.length = retries
    ∧ (error.suppressed ++ [error.last]).map .error
      = (attempts.take (retries + 1)).map Attempt.outcome

/-- A run that called the operation once for each of the attempts at hand, and still goes on. -/
structure Run.GoesOnAfter (run : Run α) (attempts : List (Attempt α)) : Prop where
  calls : run.calls.length = attempts.length
  ending : run.ending = .unfinished

/-- An ending that tells of failures only is one that gave up. -/
theorem Ending.Tells.exists_exhausted {ending : Ending α} {outcomes : List (Except Failure α)}
    (h : ending.Tells outcomes) (hfails : ∀ value, .ok value ∉ outcomes) :
    ∃ error, ending = .exhausted error ∧ error.attempts.toNat = outcomes.length
      ∧ (error.suppressed ++ [error.last]).map .error = outcomes := by
  cases h with
  | returned failures value =>
      exact absurd (List.mem_append_right _ (List.mem_singleton_self _)) (hfails value)
  | exhausted error hattempts =>
      refine ⟨error, rfl, ?_, ?_⟩
      · rw [hattempts, List.length_append, List.length_map]
        rfl
      · rw [List.map_append, List.map_singleton]

namespace Template.Course

variable {template : Template Policy} {timeline : Timeline} {now : Instant}
  {attempts : List (Attempt α)}
  (course : (template.map Policy.rule).Course timeline now attempts)

/-! ### One bound on attempts -/

section OneLimit

variable {limit : AttemptLimit} (hpolicy : template.policy = .both (.attempts limit) .absent)

include hpolicy

theorem mem_limits : limit ∈ template.policy.limits := by
  rw [hpolicy]
  exact List.mem_singleton_self limit

/-- A failure is refused only after as many retrials as the bound allows, and not at all under the
largest bound. -/
theorem le_length_retrials (hfails : ∀ attempt ∈ attempts, attempt.Fails)
    (hfinal : course.halt.ending.Final) :
    limit.maximum.toNat < AttemptCount.ceiling
      ∧ limit.maximum.toNat ≤ course.retrials.length := by
  obtain ⟨attempt, hrest, hstops⟩ := course.halts.stops_execution hfinal course.state_eq
  obtain ⟨failure, hfailure⟩ := hfails attempt
    (course.mem_attempts (List.mem_of_getElem? hrest))
  rcases hstops with ⟨value, hvalue⟩ | ⟨other, _, hrefused⟩
  · cases hfailure.symm.trans hvalue
  · rw [hpolicy, Policy.allows, Policy.allows, Policy.allows, Bool.and_true,
      decide_eq_false_iff_not, List.length_map] at hrefused
    omega

theorem gaveUpAfter (hfails : ∀ attempt ∈ attempts, attempt.Fails)
    (hfinal : course.halt.ending.Final) :
    (limit.maximum.toNat < AttemptCount.ceiling ∧ limit.maximum.toNat < attempts.length)
      ∧ (template.execute timeline now attempts).GaveUpAfter attempts limit.maximum.toNat := by
  obtain ⟨hlimit, hle⟩ := course.le_length_retrials hpolicy hfails hfinal
  have hcount : course.retrials.length = limit.maximum.toNat :=
    Nat.le_antisymm (course.length_retrials_le (mem_limits hpolicy) hlimit) hle
  have hlt : limit.maximum.toNat < attempts.length := by
    have hlength := course.length_attempts
    have hrest := List.length_pos_iff.mpr (course.rest_ne_nil hfinal)
    omega
  have hsize : course.retrials.length + 1 < UInt32.size := by
    rw [hcount]
    exact Nat.add_lt_of_lt_sub hlimit
  have htells := course.tells hfinal hsize
  rw [hcount] at htells
  obtain ⟨error, hending, hattempts, houtcomes⟩ := htells.exists_exhausted fun value hmem => by
    obtain ⟨attempt, hattempt, hvalue⟩ := List.mem_map.mp hmem
    obtain ⟨failure, hfailure⟩ := hfails attempt (List.mem_of_mem_take hattempt)
    cases hfailure.symm.trans hvalue
  have hlength := congrArg List.length houtcomes
  simp only [List.length_map, List.length_append, List.length_singleton, List.length_take]
    at hlength hattempts
  refine ⟨⟨hlimit, hlt⟩, ?_, error, ?_, ?_, ?_, houtcomes⟩
  · rw [← hcount]
    exact course.length_calls hfinal
  · exact course.ending_eq.trans hending
  · omega
  · omega

theorem goesOnAfter (hrest : course.rest = []) :
    (¬ (limit.maximum.toNat < AttemptCount.ceiling ∧ limit.maximum.toNat < attempts.length))
      ∧ (template.execute timeline now attempts).GoesOnAfter attempts := by
  have hlength := course.length_attempts
  rw [hrest, List.length_nil, Nat.add_zero] at hlength
  refine ⟨fun ⟨hlimit, hlt⟩ => ?_, ?_, ?_⟩
  · have hle := course.length_retrials_le (mem_limits hpolicy) hlimit
    omega
  · have hcalls := course.calls_eq
    rw [hrest, List.take_nil, List.map_nil, List.append_nil] at hcalls
    rw [hlength]
    exact (congrArg List.length hcalls).trans (List.length_map _)
  · have hhalts := course.halts
    rw [hrest] at hhalts
    refine course.ending_eq.trans ?_
    generalize course.halt = halt at hhalts
    cases hhalts
    rfl

end OneLimit

end Template.Course

namespace Template

/-- **One bound on attempts.** An operation that always fails is called once more than the bound
says, if the bound is below the largest number of 32 bits. Otherwise no call is the last. -/
theorem execute_failing {template : Template Policy} {limit : AttemptLimit}
    (hpolicy : template.policy = .both (.attempts limit) .absent)
    (hbackoff : template.backoff.NotNegative) (timeline : Timeline) (now : Instant)
    {attempts : List (Attempt α)}
    (hfactor : template.jitter = true → ∀ attempt ∈ attempts, Jitter.InRange attempt.factor)
    (hfails : ∀ attempt ∈ attempts, attempt.Fails) :
    let run := template.execute timeline now attempts
    let enough := limit.maximum.toNat < AttemptCount.ceiling
      ∧ limit.maximum.toNat < attempts.length
    (enough ∧ run.GaveUpAfter attempts limit.maximum.toNat)
      ∨ (¬ enough ∧ run.GoesOnAfter attempts) := by
  intro run enough
  obtain ⟨course⟩ := (template.map Policy.rule).nonempty_course timeline now attempts
  rcases course.halts.final_or with hfinal | hrest | ⟨attempt, hmem, error, hbroken⟩
  · exact Or.inl (course.gaveUpAfter hpolicy hfails hfinal)
  · exact Or.inr (course.goesOnAfter hpolicy hrest)
  · obtain ⟨delay, hdelay⟩ := template.exists_delay_eq hbackoff
      (fun hjitter => hfactor hjitter attempt (course.mem_attempts hmem)) course.last.attempts
    cases hdelay.symm.trans hbroken

end Template

namespace Settings

variable {settings : Settings}

/-- A multiplier of at least one is not below zero. -/
theorem Describes.notNegative {template : Template Policy} (h : settings.Describes template)
    (hmet : Requirement.multiplier.Met settings) : template.backoff.NotNegative := by
  have hbackoff := h.backoff
  change settings.backoff.Meets .multiplier at hmet
  generalize settings.backoff = backoff, template.backoff = built at hbackoff hmet
  cases hbackoff with
  | none => trivial
  | fixed => trivial
  | exponential hinitial hmaximum =>
      rw [BackoffSettings.Meets] at hmet
      have hone : Binary64.NotNegative 1 := Binary64.notNegative_ofNat 1
      -- The number one is kept from being computed in its units.
      generalize (1 : Binary64) = one at hone hmet
      exact Binary64.notNegative_iff.mp (hone.of_le hmet.2)

theorem Describes.exists_limit {template : Template Policy} (h : settings.Describes template)
    (hduration : settings.maxDurationMs = none) :
    ∃ limit, template.policy = .both (.attempts limit) .absent
      ∧ limit.maximum.toNat = settings.maxAttempts.toInt.toNat := by
  obtain ⟨limit, duration, hpolicy, hmaximum, hdescribes⟩ := h.policy
  cases hdescribes with
  | absent => exact ⟨limit, hpolicy, by omega⟩
  | present hpresent => cases hduration.symm.trans hpresent

/-- **How often a failing operation is called.** Without a bound on time, it is called once more
than the settings say, and the run returns all the failures in order. Only a bound as large as a
count can be is never exceeded: then the run goes on after every attempt. -/
theorem build_run_failing (settings : Settings) (built : Template Policy × List Entry)
    (hbuild : settings.build = .ok built) (hduration : settings.maxDurationMs = none)
    (timeline : Timeline) (now : Instant) (attempts : List (Attempt α))
    (hfactor : settings.jitter = true → ∀ attempt ∈ attempts, Jitter.InRange attempt.factor)
    (hfails : ∀ attempt ∈ attempts, attempt.Fails) :
    let retries := settings.maxAttempts.toInt.toNat
    let run := built.1.execute timeline now attempts
    (retries < AttemptCount.ceiling ∧ retries < attempts.length
        → run.GaveUpAfter attempts retries)
      ∧ (¬ (retries < AttemptCount.ceiling ∧ retries < attempts.length)
        → run.GoesOnAfter attempts) := by
  intro retries run
  have hdescribes := describes_of_build hbuild
  obtain ⟨limit, hpolicy, hmaximum⟩ := hdescribes.exists_limit hduration
  have hbackoff := hdescribes.notNegative (met_of_build hbuild .multiplier)
  rw [← hdescribes.jitter] at hfactor
  have hfailing := Template.execute_failing hpolicy hbackoff timeline now hfactor hfails
  rw [hmaximum] at hfailing
  rcases hfailing with ⟨henough, hgaveUp⟩ | ⟨henough, hgoesOn⟩
  · exact ⟨fun _ => hgaveUp, fun h => absurd henough h⟩
  · exact ⟨fun h => absurd h henough, fun _ => hgoesOn⟩

/-- Two retries with jitter: of four attempts at hand, three are made. -/
theorem build_run_failing_of_two :
    let settings : Settings := { maxAttempts := 2, backoff := .fixed 10, jitter := true }
    let failing : Attempt Nat := ⟨.error ⟨⟨"Broken", "broken", none⟩, []⟩, .zero, 1⟩
    let attempts := [failing, failing, failing, failing]
    settings.maxDurationMs = none
      ∧ (settings.jitter = true → ∀ attempt ∈ attempts, Jitter.InRange attempt.factor)
      ∧ (∀ attempt ∈ attempts, attempt.Fails)
      ∧ ∃ built, settings.build = .ok built
        ∧ (built.1.execute .timer .origin attempts).GaveUpAfter attempts 2 := by
  intro settings failing attempts
  have hmem : ∀ attempt ∈ attempts, attempt = failing := by
    simp [attempts]
  have hone : Jitter.lowest ≤ 1 ∧ 1 ≤ Jitter.highest := by decide +kernel
  have hfactor : settings.jitter = true → ∀ attempt ∈ attempts, Jitter.InRange attempt.factor := by
    intro _ attempt hattempt
    rw [hmem attempt hattempt]
    exact hone
  have hfails : ∀ attempt ∈ attempts, attempt.Fails := by
    intro attempt hattempt
    rw [hmem attempt hattempt]
    exact ⟨_, rfl⟩
  have hmet : ∀ requirement, Requirement.Met settings requirement := by
    intro requirement
    cases requirement with
    | attempts => exact ⟨by decide, by decide⟩
    | duration => nofun
    | multiplier | initial | maximum => trivial
  obtain ⟨built, hbuilt, _⟩ := build_describes hmet
  have hrun := build_run_failing settings built hbuilt rfl .timer .origin attempts hfactor hfails
  exact ⟨rfl, hfactor, hfails, built, hbuilt, hrun.1 (by decide)⟩

/-- The largest bound is accepted, and no number of failures ends a run under it. -/
theorem exists_build_run_endless :
    let settings : Settings := { maxAttempts := 4294967295 }
    settings.maxDurationMs = none
      ∧ ∃ built, settings.build = .ok built
        ∧ ∀ (timeline : Timeline) (now : Instant) (attempts : List (Attempt Nat)),
          (∀ attempt ∈ attempts, attempt.Fails) →
          (built.1.execute timeline now attempts).GoesOnAfter attempts
            ∧ ¬ (built.1.execute timeline now attempts).ending.Final := by
  intro settings
  have hmet : ∀ requirement, Requirement.Met settings requirement := by
    intro requirement
    cases requirement with
    | attempts => exact ⟨by decide, by decide⟩
    | duration => nofun
    | multiplier | initial | maximum => trivial
  obtain ⟨built, hbuilt, hdescribes⟩ := build_describes hmet
  obtain ⟨limit, hpolicy, hmaximum⟩ := hdescribes.exists_limit rfl
  have hbackoff := hdescribes.notNegative (hmet .multiplier)
  have hjitter : ¬ built.1.jitter = true := by
    rw [hdescribes.jitter]
    decide
  refine ⟨rfl, built, hbuilt, fun timeline now attempts hfails => ?_⟩
  have hfailing := Template.execute_failing hpolicy hbackoff timeline now
    (fun h => absurd h hjitter) hfails
  rcases hfailing with ⟨⟨hlimit, _⟩, _⟩ | ⟨_, hgoesOn⟩
  · rw [hmaximum] at hlimit
    exact absurd hlimit (by decide)
  · refine ⟨hgoesOn, ?_⟩
    rw [hgoesOn.ending]
    nofun

end Settings

end Retry
