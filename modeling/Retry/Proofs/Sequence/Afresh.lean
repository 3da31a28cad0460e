import Retry.Proofs.Sequence.Chance
import Retry.Proofs.Sequence.Shift

/-!
# Every sequence starts afresh

A template stays what it is while it is used, so all that its earlier runs leave behind is where
they leave the clock. The run that follows is the one that a new clock gives, begun later
(`Template.execute_afresh`), unless it drives the clock to its end.
-/

namespace Retry

variable {α : Type}

/-- What is done with a template and its clock. -/
inductive Use where
  | advance (span : Span)
  | execute {β : Type} (attempts : List (Attempt β))

/-- How far a history tells the clock to move, in nanoseconds, if all attempts are made. -/
def Use.asked : List Use → Nat
  | [] => 0
  | .advance span :: rest => span.nanoseconds + asked rest
  | .execute attempts :: rest => Attempt.running attempts + asked rest

theorem Attempt.running_take_le (attempts : List (Attempt α)) (count : Nat) :
    running (attempts.take count) ≤ running attempts := by
  have hsplit := running_append (attempts.take count) (attempts.drop count)
  rw [List.take_append_drop] at hsplit
  omega

theorem Attempt.total_takes (attempts : List (Attempt α)) :
    Span.total (attempts.map Attempt.takes) = running attempts := by
  induction attempts with
  | nil => rfl
  | cons attempt attempts ih => rw [List.map_cons, Span.total, ih, running]

namespace ManualClock.Shows

variable {limit : Nat} {clock : ManualClock}

theorem foldl_run_eq (h : Shows limit clock) (spans : List Span) :
    spans.foldl (Timeline.manual limit).run ⟨clock.offset⟩
      = ⟨(clock.advances limit spans).offset⟩ := by
  induction spans generalizing clock with
  | nil => rfl
  | cons span spans ih =>
      have hadvance : (Timeline.manual limit).run ⟨clock.offset⟩ span
          = ⟨(clock.advance limit span).offset⟩ := (h.advance span).now_eq
      rw [List.foldl_cons, hadvance, ih (h.advance span)]
      rfl

end ManualClock.Shows

namespace Template

theorem Halts.finish_eq {template : Template Rule} {timeline : Timeline}
    {sequence : Sequence template.policy.State} {now : Instant} {attempts : List (Attempt α)}
    {run : Run α} (h : template.Halts timeline sequence now attempts run) :
    run.finish = ((attempts.take 1).map Attempt.takes).foldl timeline.run now := by
  cases h with
  | unfinished => rfl
  | succeeded houtcome => rfl
  | refused houtcome hconsult hrefused => rfl
  | broken houtcome hconsult hallowed hdelay => rfl

/-- On a clock that waits do not move, a run ends where its calls take the clock. -/
theorem finish_resume {template : Template Rule} {timeline : Timeline}
    (hunmoved : timeline.Unmoved) (sequence : Sequence template.policy.State) (now : Instant)
    (attempts : List (Attempt α)) :
    (template.resume timeline sequence now attempts).finish
      = ((attempts.take (template.resume timeline sequence now attempts).calls.length).map
          Attempt.takes).foldl timeline.run now := by
  induction attempts generalizing sequence now with
  | nil => rfl
  | cons attempt rest ih =>
      rcases template.retried_or_halts timeline sequence now attempt rest with
        ⟨retrial, hretried⟩ | ⟨run, hhalts⟩
      · have hpause : timeline.pause retrial.report.moment retrial.delay
            = timeline.run now attempt.takes := by
          rw [hunmoved.pause_eq, hretried.reported]
        rw [hretried.calls_eq, List.length_cons, List.take_succ_cons, List.map_cons,
          List.foldl_cons, ← hpause, ← ih, hretried.resume_eq]
        rfl
      · rw [hhalts.resume_eq, hhalts.calls_eq, List.length_map, hhalts.finish_eq]
        rfl

section Manual

variable {template : Template Policy} {limit : Nat} {now : Instant}

/-- A run leaves a manual clock where the advances of its calls take it. -/
theorem finish_execute (hshows : ManualClock.Shows limit ⟨now.nanoseconds⟩)
    {attempts : List (Attempt α)} {run : Run α}
    (hrun : template.execute (.manual limit) now attempts = run) :
    run.finish = ⟨(ManualClock.advances limit ⟨now.nanoseconds⟩
      ((attempts.take run.calls.length).map Attempt.takes)).offset⟩ := by
  have hunmoved : (Timeline.manual limit).Unmoved := fun _ _ => rfl
  subst hrun
  rw [← hshows.foldl_run_eq, execute_eq, Run.calls_after, filterMap_map_log _ fun _ => rfl,
    List.nil_append]
  exact finish_resume hunmoved _ now attempts

/-- The clock moves by the time of the calls, up to its longest offset, if the platform can show
where that leads. -/
theorem nanoseconds_finish_execute (hshows : ManualClock.Shows limit ⟨now.nanoseconds⟩)
    {attempts : List (Attempt α)} {run : Run α}
    (hrun : template.execute (.manual limit) now attempts = run)
    (hlimit : min (now.nanoseconds + run.running attempts) ManualClock.longestOffset ≤ limit) :
    run.finish.nanoseconds
      = min (now.nanoseconds + run.running attempts) ManualClock.longestOffset := by
  have htotal : Span.total ((attempts.take run.calls.length).map Attempt.takes)
      = run.running attempts := Attempt.total_takes _
  rw [finish_execute hshows hrun, ← htotal]
  rw [← htotal] at hlimit
  exact hshows.advances_eq hlimit

theorem nanoseconds_finish_execute_le (hshows : ManualClock.Shows limit ⟨now.nanoseconds⟩)
    (attempts : List (Attempt α)) :
    (template.execute (.manual limit) now attempts).finish.nanoseconds
      ≤ now.nanoseconds + Attempt.running attempts := by
  rw [finish_execute hshows rfl]
  refine Nat.le_trans (hshows.advances_le _) (Nat.le_trans (Nat.min_le_left _ _) ?_)
  rw [Attempt.total_takes]
  exact Nat.add_le_add_left (Attempt.running_take_le attempts _) _

variable (template limit)

/-- Where the clock stands after something was done at `now`. -/
def afterUse (now : Instant) : Use → Instant
  | .advance span => (ManualClock.advance limit ⟨now.nanoseconds⟩ span).now limit
  | .execute attempts => (template.execute (.manual limit) now attempts).finish

/-- Where a clock that was new stands after a history. -/
def clockAfter (history : List Use) : Instant :=
  history.foldl (template.afterUse limit) .origin

theorem shows_afterUse (hshows : ManualClock.Shows limit ⟨now.nanoseconds⟩) (use : Use) :
    ManualClock.Shows limit ⟨(template.afterUse limit now use).nanoseconds⟩ := by
  cases use with
  | advance span =>
      rw [afterUse, (hshows.advance span).now_eq]
      exact hshows.advance span
  | execute attempts =>
      rw [afterUse, finish_execute hshows rfl]
      exact hshows.advances _

/-- No history takes the clock beyond what it is told, or to a moment that cannot be shown. -/
theorem clockAfter_le (history : List Use) :
    ManualClock.Shows limit ⟨(template.clockAfter limit history).nanoseconds⟩
      ∧ (template.clockAfter limit history).nanoseconds ≤ Use.asked history := by
  have hfoldl : ∀ now : Instant, ManualClock.Shows limit ⟨now.nanoseconds⟩ →
      let later := history.foldl (template.afterUse limit) now
      ManualClock.Shows limit ⟨later.nanoseconds⟩
        ∧ later.nanoseconds ≤ now.nanoseconds + Use.asked history := by
    induction history with
    | nil => exact fun now hshows => ⟨hshows, Nat.le_refl _⟩
    | cons use history ih =>
        intro now hshows
        obtain ⟨hlater, hle⟩ := ih _ (template.shows_afterUse limit hshows use)
        refine ⟨hlater, Nat.le_trans hle ?_⟩
        cases use with
        | advance span =>
            rw [Use.asked, ← Nat.add_assoc]
            exact Nat.add_le_add_right (ManualClock.now_advance_le limit ⟨now.nanoseconds⟩ span) _
        | execute attempts =>
            rw [Use.asked, ← Nat.add_assoc]
            exact Nat.add_le_add_right (nanoseconds_finish_execute_le hshows attempts) _
  have horigin := hfoldl .origin (ManualClock.shows_new limit)
  rwa [Instant.origin, Nat.zero_add] at horigin

end Manual

/-- **Every sequence starts afresh.** After any history of runs and advances, however the runs
ended, the next run makes the same calls, tells its listeners the same and ends in the same way as
on a new clock, which may be one of another platform. Its moments are later by where the history
left the clock. Without jitter it is the same run down to its delays and its log. The clock must
not come to its longest offset during the run, and the platforms must be able to show where the
calls take their clocks. -/
theorem execute_afresh (template : Template Policy) {limit limit' : Nat} (history : List Use)
    {attempts attempts' : List (Attempt α)}
    (hscript : attempts'.map Attempt.scripted = attempts.map Attempt.scripted)
    (hfactors : template.jitter = true →
      ∀ attempt ∈ attempts ++ attempts', Jitter.InRange attempt.factor)
    {now : Instant} (hnow : template.clockAfter limit history = now) {run fresh : Run α}
    (hrun : template.execute (.manual limit) now attempts = run)
    (hfresh : template.execute (.manual limit') .origin attempts' = fresh)
    (hroom : run.finish.nanoseconds < ManualClock.longestOffset)
    (hlimit : min (now.nanoseconds + run.running attempts) ManualClock.longestOffset ≤ limit)
    (hlimit' : min (run.running attempts) ManualClock.longestOffset ≤ limit') :
    run.calls = fresh.calls.map (Instant.later · now.nanoseconds)
      ∧ run.events = fresh.events
      ∧ run.ending = fresh.ending
      ∧ run.finish = fresh.finish.later now.nanoseconds
      ∧ (template.jitter = false → run.waits = fresh.waits ∧ run.log = fresh.log
        ∧ run = fresh.later now.nanoseconds) := by
  have hshows := (template.clockAfter_le limit history).1
  rw [hnow] at hshows
  rw [nanoseconds_finish_execute hshows hrun hlimit] at hroom
  have hstart : Instant.origin.later now.nanoseconds = now := by
    rw [Instant.later, Instant.origin, Nat.zero_add]
  -- The same script on the new clock, with the same factors.
  have hlater : run
      = (template.execute (.manual limit') .origin attempts).later now.nanoseconds := by
    apply execute_later (Timeline.countsUpTo_manual limit) (Timeline.countsUpTo_manual limit')
    · rw [hstart, hrun]
    · rw [Instant.origin, Nat.zero_add]
      omega
    · rw [Instant.origin, Nat.zero_add]
      omega
  obtain ⟨hsame, hequal⟩ : (template.execute (.manual limit') .origin attempts).SameButDelays fresh
      ∧ (template.jitter = false →
        template.execute (.manual limit') .origin attempts = fresh) := by
    rw [← hfresh]
    exact run_chance (fun _ _ => rfl) hscript hfactors .origin
  refine ⟨?_, ?_, ?_, ?_, ?_⟩
  · rw [hlater, Run.calls_later, hsame.calls]
  · rw [hlater, Run.events_later, hsame.events]
  · rw [hlater, ← hsame.ending]
    rfl
  · rw [hlater, ← hsame.finish]
    rfl
  · intro hjitter
    rw [hequal hjitter] at hlater
    refine ⟨?_, ?_, hlater⟩
    · rw [hlater, Run.waits_later]
    · rw [hlater, Run.log_later]

/-- A bound of two seconds on a clock that an exhausted run and a test have moved on to eight. -/
theorem execute_afresh_at_eight_seconds :
    let template : Template Policy := ⟨.duration ⟨.ofSeconds 2, .manual⟩, .none, false, 1⟩
    let failed (seconds : UInt64) : Attempt Unit :=
      ⟨.error ⟨⟨"Transient", "transient", none⟩, []⟩, .ofSeconds seconds, .nan⟩
    let limit := ManualClock.longestOffset
    let now := template.clockAfter limit [.advance (.ofSeconds 5), .execute [failed 3]]
    let run := template.execute (.manual limit) now [failed 1, failed 1, failed 1]
    let fresh := template.execute (.manual limit) .origin [failed 1, failed 1, failed 1]
    run.finish.nanoseconds < limit
      ∧ run.calls = fresh.calls.map (Instant.later · now.nanoseconds)
      ∧ run.ending = fresh.ending := by
  intro template failed limit now run fresh
  obtain ⟨hshows, hnow⟩ := template.clockAfter_le limit
    [.advance (.ofSeconds 5), .execute [failed 3]]
  have hfinish : run.finish.nanoseconds ≤ now.nanoseconds + _ :=
    nanoseconds_finish_execute_le hshows [failed 1, failed 1, failed 1]
  have hasked : Use.asked [.advance (.ofSeconds 5), .execute [failed 3]]
      + Attempt.running [failed 1, failed 1, failed 1] < limit := by decide
  have hroom : run.finish.nanoseconds < limit :=
    Nat.lt_of_le_of_lt (Nat.le_trans hfinish (Nat.add_le_add_right hnow _)) hasked
  obtain ⟨hcalls, _, hending, _⟩ := template.execute_afresh
    [.advance (.ofSeconds 5), .execute [failed 3]] rfl nofun rfl rfl rfl hroom
    (Nat.min_le_right _ _) (Nat.min_le_right _ _)
  exact ⟨hroom, hcalls, hending⟩

end Template

end Retry
