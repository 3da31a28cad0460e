import Retry.Proofs.Sequence.Story

/-!
# The schedule of a run

Without jitter, a run takes the time of its attempts and the delays of its backoff, each rounded up
to whole milliseconds (`Template.run_schedule`). It waits between the failure of a call and the
next call, never after the last one, and the policy hears of a failure when the time of the calls
up to it and of the waits before it has passed.
-/

namespace Retry

variable {α σ : Type} {π : Type u}

/-! ### Sums of times -/

/-- The nanoseconds of a span in whole milliseconds that cover it. -/
def Span.roundedUp (span : Span) : Nat :=
  span.coveringMilliseconds * Span.nanosecondsPerMillisecond

/-- The time that calls take one after another, in nanoseconds. -/
def Attempt.running : List (Attempt α) → Nat
  | [] => 0
  | attempt :: rest => attempt.takes.nanoseconds + running rest

/-- The time of waits one after another, in nanoseconds. -/
def Span.waiting : List Span → Nat
  | [] => 0
  | delay :: rest => delay.roundedUp + waiting rest

/-- A clock that moves with what takes time. A wait lasts its delay rounded up to whole
milliseconds. -/
structure Timeline.RoundsUp (timeline : Timeline) : Prop where
  run_eq : ∀ instant span, timeline.run instant span = instant.later span.nanoseconds
  wait_eq : ∀ instant span, timeline.wait instant span = instant.later span.roundedUp

namespace Story

def delays (story : Story α) : List Span := story.retried.map Prod.snd

def failures (story : Story α) : List Failure :=
  story.retried.map Prod.fst ++ match story.last with
    | .ok _ => []
    | .error failure => [failure]

variable (story : Story α) (now : Instant) (attempts : List (Attempt α))

/-- The moment of the call of the given number, counted from one. -/
def called (number : Nat) : Instant :=
  now.later (Attempt.running (attempts.take (number - 1))
    + Span.waiting (story.delays.take (number - 1)))

/-- The moment at which the call of the given number has run. -/
def reported (number : Nat) : Instant :=
  now.later (Attempt.running (attempts.take number)
    + Span.waiting (story.delays.take (number - 1)))

/-- The failures with the moments at which the policy hears of them. -/
def reports : List Report :=
  (story.failures.zipIdx 1).map fun (failure, number) =>
    ⟨failure, story.reported now attempts number⟩

/-- What a run does: each call at its moment, then what the listeners hear, then the wait, if there
is one. -/
def deeds (template : Template π) : List Action :=
  ((story.retried.zipIdx 1).flatMap fun (round, number) =>
      .call (story.called now attempts number)
        :: template.notifyAll (.retry (UInt32.ofNat number) round.1)
        ++ if round.2 = Span.zero then [] else [.wait round.2])
    ++ .call (story.called now attempts story.count)
      :: template.notifyAll (.last (UInt32.ofNat story.count) story.last)

end Story

def Action.deed? : Action → Option Action
  | .log _ => none
  | action => some action

/-- What a run does, apart from what it writes to the log. -/
def Run.deeds (run : Run α) : List Action := run.trace.filterMap Action.deed?

theorem Instant.later_zero (instant : Instant) : instant.later 0 = instant := rfl

theorem Instant.later_later (instant : Instant) (first second : Nat) :
    (instant.later first).later second = instant.later (first + second) :=
  congrArg Instant.mk (Nat.add_assoc _ _ _)

theorem Attempt.running_append (first second : List (Attempt α)) :
    running (first ++ second) = running first + running second := by
  induction first with
  | nil => exact (Nat.zero_add _).symm
  | cons attempt first ih => rw [List.cons_append, running, running, ih, Nat.add_assoc]

theorem Span.roundedUp_zero : Span.zero.roundedUp = 0 := rfl

/-- A delay of zero is no wait, and would not last any time either. -/
theorem Timeline.RoundsUp.pause_eq {timeline : Timeline} (h : timeline.RoundsUp)
    (instant : Instant) (delay : Span) :
    timeline.pause instant delay = instant.later delay.roundedUp := by
  rw [pause]
  split
  · rename_i hzero
    rw [hzero, Span.roundedUp_zero, Instant.later_zero]
  · exact h.wait_eq instant delay

namespace Template

/-! ### Moments -/

section Moments

variable {template : Template Rule} {timeline : Timeline}
  {sequence last : Sequence template.policy.State} {now moment : Instant}
  {attempts : List (Attempt α)} {retrials : List (Retrial template.policy.State)}

/-- The last call begins when everything before it has passed. -/
theorem Retries.moment_eq
    (h : template.Retries timeline sequence now attempts retrials last moment)
    (hround : timeline.RoundsUp) :
    moment = now.later (Attempt.running attempts + Span.waiting (retrials.map Retrial.delay)) := by
  induction h with
  | refl => rfl
  | @step sequence last now moment attempt attempts first retrials hfirst hrest ih =>
      -- The rest of the row begins when the first call and the wait after it are over.
      rw [hround.pause_eq, hfirst.reported, hround.run_eq, Instant.later_later] at ih
      rw [ih, Instant.later_later, Attempt.running, List.map_cons, Span.waiting]
      congr 1
      omega

/-- So does every call before it, and its failure is reported when the call has run. -/
theorem Retries.called_eq
    (h : template.Retries timeline sequence now attempts retrials last moment)
    (hround : timeline.RoundsUp) {index : Nat} {retrial : Retrial template.policy.State}
    (hretrial : retrials[index]? = some retrial) :
    retrial.called = now.later (Attempt.running (attempts.take index)
        + Span.waiting ((retrials.map Retrial.delay).take index))
      ∧ retrial.report.moment = now.later (Attempt.running (attempts.take (index + 1))
        + Span.waiting ((retrials.map Retrial.delay).take index)) := by
  induction h generalizing index with
  | refl => simp at hretrial
  | @step sequence last now moment attempt attempts first retrials hfirst hrest ih =>
      cases index with
      | zero =>
          rw [List.getElem?_cons_zero, Option.some_inj] at hretrial
          subst hretrial
          rw [hfirst.called, hfirst.reported, hround.run_eq]
          exact ⟨rfl, rfl⟩
      | succ index =>
          obtain ⟨hcalled, hreported⟩ := ih hretrial
          rw [hround.pause_eq, hfirst.reported, hround.run_eq, Instant.later_later]
            at hcalled hreported
          rw [hcalled, hreported]
          simp only [List.take_succ_cons, List.map_cons, Attempt.running, Span.waiting,
            Instant.later_later]
          constructor <;> congr 1 <;> omega

end Moments

/-! ### Deeds -/

theorem filterMap_deed?_notifyAll (template : Template π) (event : Event) :
    (template.notifyAll event).filterMap Action.deed? = template.notifyAll event := by
  rw [notifyAll, List.filterMap_map]
  exact congrFun (List.filterMap_eq_map (f := (Action.notify · event))) _

theorem filterMap_deed?_retrialActions (template : Template π) (number : UInt32)
    (retrial : Retrial σ) :
    (template.retrialActions number retrial).filterMap Action.deed?
      = .call retrial.called :: template.notifyAll (.retry number retrial.report.failure)
        ++ if retrial.delay = Span.zero then [] else [.wait retrial.delay] := by
  simp only [retrialActions, beforeRetry, List.filterMap_append, List.filterMap_cons,
    Action.deed?, filterMap_map_log Action.deed? fun _ => rfl, filterMap_deed?_notifyAll]
  split <;> rfl

namespace Course.HasStory

variable {template : Template Rule} {timeline : Timeline} {now : Instant}
  {attempts : List (Attempt α)} {course : template.Course timeline now attempts}
  {story : Story α}

theorem delays_eq (h : course.HasStory story) :
    story.delays = course.retrials.map Retrial.delay := by
  rw [Story.delays, h.retried, List.map_map]
  rfl

theorem called_eq (h : course.HasStory story) (hround : timeline.RoundsUp) {number : Nat}
    {retrial : Retrial template.policy.State}
    (hmem : (retrial, number) ∈ course.retrials.zipIdx 1) :
    retrial.called = story.called now attempts number
      ∧ retrial.report.moment = story.reported now attempts number := by
  obtain ⟨hpos, hretrial⟩ := List.mk_mem_zipIdx_iff_le_and_getElem?_sub.mp hmem
  have hlt := (List.getElem?_eq_some_iff.mp hretrial).1
  have hmoments := course.retries.called_eq hround hretrial
  rw [Nat.sub_add_cancel hpos] at hmoments
  rw [Story.called, Story.reported, h.delays_eq, course.take_attempts_of_le (by omega),
    course.take_attempts_of_le (by omega)]
  exact hmoments

theorem moment_eq (h : course.HasStory story) (hround : timeline.RoundsUp) :
    course.moment = story.called now attempts story.count := by
  rw [Story.called, h.delays_eq, h.count_eq, Nat.add_sub_cancel, course.take_earlier,
    List.take_of_length_le (by rw [List.length_map])]
  exact course.retries.moment_eq hround

theorem finish_eq (h : course.HasStory story) (hround : timeline.RoundsUp) :
    (template.run timeline now attempts).finish = story.reported now attempts story.count := by
  obtain ⟨attempt, rest, hrest, _, hfinish⟩ := h.ends
  have hrunning : Attempt.running (attempts.take story.count)
      = Attempt.running (attempts.take (story.count - 1)) + attempt.takes.nanoseconds := by
    rw [h.count_eq, course.take_attempts, Attempt.running_append, Nat.add_sub_cancel,
      course.take_earlier, hrest]
    rfl
  calc (template.run timeline now attempts).finish = course.halt.finish := by
        rw [course.run_eq]
        rfl
    _ = (story.called now attempts story.count).later attempt.takes.nanoseconds := by
        rw [hfinish, hround.run_eq, h.moment_eq hround]
    _ = story.reported now attempts story.count := by
        rw [Story.called, Story.reported, Instant.later_later, hrunning]
        congr 1
        omega

theorem deeds_eq (h : course.HasStory story) (hround : timeline.RoundsUp) :
    (template.run timeline now attempts).deeds = story.deeds now attempts template := by
  have hhalt : course.halt.trace.filterMap Action.deed?
      = .call (story.called now attempts story.count)
        :: template.notifyAll (.last (UInt32.ofNat story.count) story.last) := by
    rw [h.trace, List.cons_append, List.filterMap_cons, List.filterMap_append,
      filterMap_map_log _ fun _ => rfl, filterMap_deed?_notifyAll, h.moment_eq hround]
    rfl
  have hretrials : (template.retrialsActions 1 course.retrials).filterMap Action.deed?
      = (course.retrials.zipIdx 1).flatMap fun numbered =>
        .call (story.called now attempts numbered.2)
          :: template.notifyAll (.retry (UInt32.ofNat numbered.2) numbered.1.report.failure)
          ++ if numbered.1.delay = Span.zero then [] else [.wait numbered.1.delay] := by
    refine (congrArg _ (template.retrialsActions_eq 1 course.retrials)).trans ?_
    rw [List.filterMap_flatMap, List.flatMap_def, List.flatMap_def]
    refine congrArg List.flatten (List.map_congr_left fun numbered hmem => ?_)
    rw [filterMap_deed?_retrialActions, (h.called_eq hround hmem).1]
  rw [Run.deeds, course.run_eq, Run.after, List.filterMap_append, List.filterMap_append,
    filterMap_map_log _ fun _ => rfl, hretrials, hhalt, Story.deeds, h.retried, List.zipIdx_map,
    List.flatMap_map]
  rfl

theorem map_report (h : course.HasStory story) (hround : timeline.RoundsUp) :
    course.retrials.map Retrial.report
      = ((story.retried.map Prod.fst).zipIdx 1).map fun (failure, number) =>
        ⟨failure, story.reported now attempts number⟩ := by
  rw [h.retried, List.map_map, List.zipIdx_map, List.map_map]
  calc course.retrials.map Retrial.report
      = ((course.retrials.zipIdx 1).map Prod.fst).map Retrial.report := by
        rw [List.zipIdx_map_fst]
    _ = (course.retrials.zipIdx 1).map fun numbered =>
        ⟨numbered.1.report.failure, story.reported now attempts numbered.2⟩ := by
        rw [List.map_map]
        refine List.map_congr_left fun numbered hmem => ?_
        rw [← (h.called_eq hround hmem).2]
        rfl

/-- The last failure, if there is one, is reported when the last call has run. -/
theorem take_one_reports (h : course.HasStory story) (hround : timeline.RoundsUp) :
    (template.reports timeline (1 + course.retrials.length) course.moment course.rest).take 1
      = match story.last with
        | .ok _ => []
        | .error failure => [⟨failure, story.reported now attempts story.count⟩] := by
  obtain ⟨attempt, rest, hrest, hlast, hfinish⟩ := h.ends
  have hreported : timeline.run course.moment attempt.takes
      = story.reported now attempts story.count := by
    rw [← hfinish, ← h.finish_eq hround, course.run_eq]
    rfl
  rw [hrest, ← hlast]
  cases houtcome : attempt.outcome with
  | ok value =>
      rw [reports_of_ok template timeline _ _ rest houtcome]
      rfl
  | error failure =>
      rw [reports, houtcome, ← hreported]
      rfl

theorem reports_eq (h : course.HasStory story) (hround : timeline.RoundsUp) :
    (template.reports timeline 1 now attempts).take story.count
      = story.reports now attempts := by
  have hlength : (course.retrials.map Retrial.report).length = course.retrials.length :=
    List.length_map _
  rw [course.reports_eq, h.count_eq, ← hlength, List.take_length_add_append, hlength,
    h.take_one_reports hround, h.map_report hround, Story.reports, Story.failures,
    List.zipIdx_append, List.map_append, List.length_map, h.retried, List.length_map]
  congr 1
  cases story.last with
  | ok value => rfl
  | error failure =>
      rw [h.count_eq, Nat.add_comm]
      rfl

end Course.HasStory

end Template

/-! ### Without jitter -/

theorem Template.delay_of_not_jitter {template : Template π} (hjitter : template.jitter = false)
    (factor : Binary64) (retry : UInt32) :
    template.delay factor retry = template.backoff.delay retry := by
  rw [delay, hjitter]
  cases template.backoff.delay retry <;> rfl

/-- The delays of a story are those of the backoff, in order from the first. -/
theorem Story.Fits.map_delays {story : Story α} {template : Template π}
    {attempts : List (Attempt α)} (h : story.Fits template attempts)
    (hjitter : template.jitter = false) :
    story.delays.map .ok = (List.range' 1 story.retried.length).map fun number =>
      template.backoff.delay (UInt32.ofNat number) := by
  have hlength := congrArg List.length h.delays
  rw [List.length_map, List.length_map, List.length_zipIdx] at hlength
  calc story.delays.map .ok
      = ((attempts.take story.retried.length).zipIdx 1).map fun numbered =>
        template.delay numbered.1.factor (UInt32.ofNat numbered.2) := by
        refine Eq.trans ?_ h.delays
        rw [Story.delays, List.map_map]
        rfl
    _ = (((attempts.take story.retried.length).zipIdx 1).map Prod.snd).map fun number =>
        template.backoff.delay (UInt32.ofNat number) := by
        rw [List.map_map]
        exact List.map_congr_left fun _ _ => Template.delay_of_not_jitter hjitter _ _
    _ = (List.range' 1 story.retried.length).map fun number =>
        template.backoff.delay (UInt32.ofNat number) := by
        rw [List.zipIdx_map_snd, ← hlength]

/-- A bound on time that is started at `now` measures what has passed since. -/
theorem TimeLimit.elapsed_later (limit : TimeLimit) (now : Instant) (count : Nat) :
    (limit.start now).1.elapsed (now.later count) = Span.ofNanoseconds count :=
  congrArg Span.ofNanoseconds (Nat.add_sub_cancel_left _ _)

namespace Template

theorem take_consultations_eq (rule : Rule) (state : rule.State) (reports : List Report)
    (count : Nat) : (rule.consultations state reports).take count
      = rule.consultations state (reports.take count) := by
  induction reports generalizing state count with
  | nil => rw [Rule.consultations, List.take_nil, List.take_nil, Rule.consultations]
  | cons report reports ih =>
      cases count with
      | zero => rfl
      | succ count =>
          rw [Rule.consultations, List.take_succ_cons, List.take_succ_cons, ih]
          rfl

/-- **The schedule.** Before the call of each number but the first comes a wait for the delay of
the failure before it, and none after the last. The run takes the time of its calls and of these
waits. The policy hears of each failure when the calls up to it and the waits before it are over,
and a bound on time that was started with the run measures just that. -/
theorem run_schedule (template : Template Rule) (timeline : Timeline) (now : Instant)
    (attempts : List (Attempt α)) (count : Nat) (hjitter : template.jitter = false)
    (hround : timeline.RoundsUp)
    (hends : (template.run timeline now attempts).EndsAfter count) :
    let run := template.run timeline now attempts
    ∃ story : Story α, story.count = count
      ∧ story.outcomes = (attempts.take count).map Attempt.outcome
      ∧ story.delays.map .ok = (List.range' 1 story.retried.length).map (fun number =>
        template.backoff.delay (UInt32.ofNat number))
      ∧ run.deeds = story.deeds now attempts template
      ∧ run.finish
        = now.later (Attempt.running (attempts.take count) + Span.waiting story.delays)
      ∧ run.log = (template.policy.start now).2 ++ Consultation.transcript
        (template.policy.consultations (template.policy.start now).1
          (story.reports now attempts)) story.entries
      ∧ ∀ (limit : TimeLimit) (number : Nat),
        (limit.start now).1.elapsed (story.reported now attempts number)
          = Span.ofNanoseconds (Attempt.running (attempts.take number)
            + Span.waiting (story.delays.take (number - 1))) := by
  intro run
  obtain ⟨course, story, _, hstory, rfl⟩ := exists_course_of_endsAfter hends
  have hall : story.delays.take (story.count - 1) = story.delays :=
    List.take_of_length_le (by rw [Story.delays, List.length_map, Story.count]; omega)
  refine ⟨story, rfl, hstory.fits.outcomes, hstory.fits.map_delays hjitter,
    hstory.deeds_eq hround, ?_, ?_, fun limit number => limit.elapsed_later now _⟩
  · rw [← hall]
    exact hstory.finish_eq hround
  · rw [← hstory.reports_eq hround, ← take_consultations_eq]
    exact hstory.log_eq

end Template

/-! ### Whole milliseconds -/

def Timeline.rounding : Timeline where
  run instant span := instant.later span.nanoseconds
  wait instant span := instant.later span.roundedUp

theorem Timeline.roundsUp_rounding : rounding.RoundsUp := ⟨fun _ _ => rfl, fun _ _ => rfl⟩

theorem Timeline.pause_timer_eq {instant : Instant} {delay : Span}
    (hinstant : Span.nanosecondsPerMillisecond ∣ instant.nanoseconds)
    (hdelay : delay.nanoseconds ≤ longestWait) :
    timer.pause instant delay = rounding.pause instant delay := by
  rw [pause, pause]
  split
  · rfl
  · exact timer_wait_of_dvd hinstant hdelay

namespace Template

theorem Halts.rounding {template : Template Rule} {sequence : Sequence template.policy.State}
    {now : Instant} {attempts : List (Attempt α)} {run : Run α}
    (h : template.Halts .timer sequence now attempts run) :
    template.Halts .rounding sequence now attempts run := by
  cases h with
  | unfinished => exact .unfinished
  | succeeded houtcome => exact .succeeded houtcome
  | refused houtcome hconsult hrefused => exact .refused houtcome hconsult hrefused
  | broken houtcome hconsult hallowed hdelay => exact .broken houtcome hconsult hallowed hdelay

/-- On whole milliseconds the timer rounds delays up, and every wait ends on one again. -/
theorem resume_timer_eq (template : Template Rule) (sequence : Sequence template.policy.State)
    {now : Instant} (hnow : Span.nanosecondsPerMillisecond ∣ now.nanoseconds)
    {attempts : List (Attempt α)}
    (htakes : ∀ attempt ∈ attempts, Span.nanosecondsPerMillisecond ∣ attempt.takes.nanoseconds)
    (hdelays : ∀ attempt ∈ attempts, ∀ number delay,
      template.delay attempt.factor number = .ok delay →
        delay.nanoseconds ≤ Timeline.longestWait) :
    template.resume .timer sequence now attempts
      = template.resume .rounding sequence now attempts := by
  -- What every retrial keeps is that the next call begins on a whole millisecond.
  induction attempts generalizing sequence now with
  | nil => rw [resume, resume]
  | cons attempt attempts ih =>
      rw [List.forall_mem_cons] at htakes hdelays
      rcases template.retried_or_halts .timer sequence now attempt attempts with
        ⟨retrial, hretried⟩ | ⟨run, hhalts⟩
      · have hrounding : template.Retried .rounding sequence now attempt retrial :=
          ⟨hretried.called, hretried.reported, hretried.failed, hretried.consulted,
            hretried.allowed, hretried.delayed⟩
        have hmoment : Span.nanosecondsPerMillisecond ∣ retrial.report.moment.nanoseconds := by
          rw [hretried.reported]
          exact Nat.dvd_add hnow htakes.1
        have hpause := Timeline.pause_timer_eq hmoment
          (hdelays.1 sequence.attempts retrial.delay hretried.delayed)
        have hnext : Span.nanosecondsPerMillisecond
            ∣ (Timeline.rounding.pause retrial.report.moment retrial.delay).nanoseconds := by
          rw [Timeline.roundsUp_rounding.pause_eq]
          exact Nat.dvd_add hmoment (Nat.dvd_mul_left _ _)
        rw [hretried.resume_eq, hrounding.resume_eq, hpause, ih _ hnext htakes.2 hdelays.2]
      · rw [hhalts.resume_eq, hhalts.rounding.resume_eq]

theorem run_timer_eq (template : Template Rule) {now : Instant}
    (hnow : Span.nanosecondsPerMillisecond ∣ now.nanoseconds) {attempts : List (Attempt α)}
    (htakes : ∀ attempt ∈ attempts, Span.nanosecondsPerMillisecond ∣ attempt.takes.nanoseconds)
    (hdelays : ∀ attempt ∈ attempts, ∀ number delay,
      template.delay attempt.factor number = .ok delay →
        delay.nanoseconds ≤ Timeline.longestWait) :
    template.run .timer now attempts = template.run .rounding now attempts :=
  congrArg (Run.after _) (template.resume_timer_eq _ hnow htakes hdelays)

/-- Two waits of a millisecond and a half last two milliseconds each. -/
theorem run_schedule_of_fixed :
    let delay : Span := ⟨1_500_000, by decide⟩
    let template := (Template.new (Policy.rule (.attempts ⟨2⟩))).withBackoff (.fixed delay)
    let failing : Attempt Nat :=
      ⟨.error ⟨⟨"Broken", "broken", none⟩, []⟩, .ofMilliseconds 1, 1⟩
    let attempts := [failing, failing, failing]
    let run := template.run .rounding .origin attempts
    template.jitter = false ∧ Timeline.rounding.RoundsUp ∧ run.EndsAfter 3
      ∧ run = template.run .timer .origin attempts
      ∧ ∃ story : Story Nat, story.count = 3
        ∧ run.deeds = story.deeds .origin attempts template
        ∧ run.finish = ⟨Attempt.running attempts + Span.waiting story.delays⟩
        ∧ run.finish = ⟨7_000_000⟩ := by
  intro delay template failing attempts run
  have hends : run.EndsAfter 3 := by
    unfold run attempts failing template delay
    decide
  have hmem : ∀ attempt ∈ attempts, attempt = failing := by
    simp [attempts]
  have htimer : template.run .timer .origin attempts = run := by
    refine template.run_timer_eq (Nat.dvd_zero _) (fun attempt hattempt => ?_)
      fun attempt hattempt number delay' hdelay => ?_
    · rw [hmem attempt hattempt]
      exact ⟨1, rfl⟩
    · obtain rfl := Except.ok.inj hdelay
      decide
  have hfinish : run.finish = ⟨7_000_000⟩ := by
    unfold run attempts failing template delay
    decide
  obtain ⟨story, hcount, _, _, hdeeds, htime, _⟩ := run_schedule template .rounding .origin
    attempts 3 rfl Timeline.roundsUp_rounding hends
  refine ⟨rfl, Timeline.roundsUp_rounding, hends, htimer.symm, story, hcount, hdeeds, ?_, hfinish⟩
  exact htime.trans (congrArg Instant.mk (Nat.zero_add _))

end Template

end Retry
