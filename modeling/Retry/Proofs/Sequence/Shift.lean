import Retry.Proofs.Sequence.Execute
import Retry.Proofs.Sequence.Schedule
import Retry.Proofs.Sequence.Waits

/-!
# A run begun later

A policy measures time from the start of its sequence, so a history that is later as a whole, its
start included, gets the same answers (`Policy.allows_later`). A run that begins later is therefore
the same run later, if its clock moves as it is told (`Template.execute_later`). A clock that comes
to its end does so only up to a ceiling, so the two runs may be by two clocks with ceilings of
their own, and each has to stay below its own.
-/

namespace Retry

variable {α β σ : Type} {π : Type u}

theorem Instant.nanoseconds_later (instant : Instant) (count : Nat) :
    (instant.later count).nanoseconds = instant.nanoseconds + count := rfl

theorem Instant.later_comm (instant : Instant) (first second : Nat) :
    (instant.later first).later second = (instant.later second).later first := by
  rw [later_later, later_later, Nat.add_comm]

theorem Instant.since_later (instant earlier : Instant) (count : Nat) :
    (instant.later count).since (earlier.later count) = instant.since earlier := by
  rw [since, since, later, later, Nat.add_sub_add_right]

def Report.later (count : Nat) (report : Report) : Report :=
  { report with moment := report.moment.later count }

namespace Policy

/-- **Time is relative.** A policy answers the same when everything happens later. -/
theorem allows_later (policy : Policy) (start : Instant) (past : List Report) (report : Report)
    (count : Nat) :
    policy.allows (start.later count) (past.map (Report.later count)) (report.later count)
      = policy.allows start past report := by
  induction policy generalizing past with
  | attempts limit => rw [allows, allows, List.length_map]
  | duration limit => rw [allows, allows, Report.later, Instant.since_later]
  | both first second ihfirst ihsecond => rw [allows, allows, ihfirst, ihsecond]
  | retryIf accepts inner ih =>
      rw [allows, allows, List.filter_map, ih]
      rfl
  | absent => rfl
  | present policy ih => exact ih past

theorem lines_later (policy : Policy) (start : Instant) (report : Report) (count : Nat) :
    policy.lines (start.later count) (report.later count) = policy.lines start report := by
  induction policy with
  | attempts limit => rfl
  | duration limit => rw [lines, lines, Report.later, Instant.since_later]
  | both first second ihfirst ihsecond => rw [lines, lines, ihfirst, ihsecond]
  | retryIf accepts inner ih =>
      rw [lines, lines, ih]
      rfl
  | absent => rfl
  | present policy ih => exact ih

/-- What is written when a sequence starts does not tell the time. -/
theorem start_later (policy : Policy) (now : Instant) (count : Nat) :
    (policy.start (now.later count)).2 = (policy.start now).2 := by
  induction policy with
  | attempts limit => rfl
  | duration limit => rfl
  | both first second ihfirst ihsecond => rw [start, start, ihfirst, ihsecond]
  | retryIf accepts inner ih => exact ih
  | absent => rfl
  | present policy ih => exact ih

end Policy

/-! ### Traces and clocks -/

def Action.later (count : Nat) : Action → Action
  | .call moment => .call (moment.later count)
  | action => action

/-- The same run later. Only calls show their moments. -/
def Run.later (count : Nat) (run : Run α) : Run α :=
  { trace := run.trace.map (Action.later count)
    ending := run.ending
    finish := run.finish.later count }

namespace Action

theorem map_later_map_log (count : Nat) (lines : List Entry) :
    (lines.map Action.log).map (later count) = lines.map Action.log := by
  rw [List.map_map]
  rfl

theorem filterMap_map_later (count : Nat) (actions : List Action) {view : Action → Option β}
    (hview : ∀ moment, view (.call moment) = none) :
    (actions.map (later count)).filterMap view = actions.filterMap view := by
  rw [List.filterMap_map]
  congr 1
  funext action
  cases action with
  | call moment => exact (hview _).trans (hview moment).symm
  | log entry => rfl
  | notify listener event => rfl
  | wait delay => rfl

end Action

namespace Run

variable (run : Run α) (count : Nat)

theorem later_after (actions : List Action) :
    (run.after actions).later count
      = (run.later count).after (actions.map (Action.later count)) := by
  rw [later, after, after, later, List.map_append]

theorem calls_later : (run.later count).calls = run.calls.map (Instant.later · count) := by
  rw [calls_eq, calls_eq, later, List.filterMap_map, List.map_filterMap]
  congr 1
  funext action
  cases action with
  | call moment => rfl
  | log entry => rfl
  | notify listener event => rfl
  | wait delay => rfl

theorem events_later : (run.later count).events = run.events :=
  Action.filterMap_map_later count run.trace fun _ => rfl

theorem log_later : (run.later count).log = run.log :=
  Action.filterMap_map_later count run.trace fun _ => rfl

theorem waits_later : (run.later count).waits = run.waits :=
  Action.filterMap_map_later count run.trace fun _ => rfl

/-- The time that the calls of a run take, in nanoseconds, by what the attempts say. -/
def running (run : Run α) (attempts : List (Attempt α)) : Nat :=
  Attempt.running (attempts.take run.calls.length)

theorem running_cons (hcalls : 1 ≤ run.calls.length) (attempt : Attempt α)
    (rest : List (Attempt α)) :
    run.running (attempt :: rest)
      = attempt.takes.nanoseconds + Attempt.running (rest.take (run.calls.length - 1)) := by
  rw [running, ← Nat.sub_add_cancel hcalls, List.take_succ_cons, Attempt.running,
    Nat.add_sub_cancel]

end Run

/-- A clock that waits do not move, and that shows the time of calls as long as it is not beyond
a ceiling afterwards. -/
structure Timeline.CountsUpTo (timeline : Timeline) (ceiling : Nat) : Prop where
  run_eq : ∀ {moment : Instant} {span : Span}, moment.nanoseconds + span.nanoseconds ≤ ceiling →
    timeline.run moment span = moment.later span.nanoseconds
  unmoved : timeline.Unmoved

theorem Timeline.countsUpTo_manual (limit : Nat) :
    (Timeline.manual limit).CountsUpTo (min limit ManualClock.longestOffset) where
  run_eq {moment span} hceiling := by
    obtain ⟨hlimit, hlongest⟩ := Nat.le_min.mp hceiling
    have hmin : min (moment.nanoseconds + span.nanoseconds) ManualClock.longestOffset
        = moment.nanoseconds + span.nanoseconds := Nat.min_eq_left hlongest
    have hshows : ManualClock.Shows limit ⟨moment.nanoseconds⟩ :=
      ⟨Nat.le_trans (Nat.le_add_right _ _) hlimit, Nat.le_trans (Nat.le_add_right _ _) hlongest⟩
    have hoffset : (ManualClock.advance limit ⟨moment.nanoseconds⟩ span).offset
        = moment.nanoseconds + span.nanoseconds :=
      (hshows.advance_eq (hmin.symm ▸ hlimit)).trans hmin
    have hnow := (hshows.advance span).now_eq
    rw [hoffset] at hnow
    exact hnow
  unmoved _ _ := rfl

namespace Template

theorem map_later_beforeRetry (template : Template π) (number : UInt32) (failure : Failure)
    (delay : Span) (count : Nat) :
    (template.beforeRetry number failure delay).map (Action.later count)
      = template.beforeRetry number failure delay := by
  rw [beforeRetry, notifyAll]
  split
  · simp only [List.map_append, List.map_cons, List.map_map, List.map_nil]
    rfl
  · simp only [List.map_append, List.map_cons, List.map_map, List.map_nil]
    rfl

theorem map_later_succeeded (template : Template π) (attempts : UInt32) (count : Nat) :
    (template.succeeded attempts).map (Action.later count) = template.succeeded attempts := by
  rw [succeeded, notifyAll, List.map_append, List.map_map]
  split
  · rfl
  · rfl

theorem map_later_gaveUp (template : Template π) (attempts : UInt32) (failure : Failure)
    (count : Nat) :
    (template.gaveUp attempts failure).map (Action.later count)
      = template.gaveUp attempts failure := by
  rw [gaveUp, notifyAll, List.map_cons, List.map_map]
  rfl

theorem map_later_retrialActions (template : Template π) (number : UInt32) (retrial : Retrial σ)
    (count : Nat) :
    (template.retrialActions number retrial).map (Action.later count)
      = template.retrialActions number { retrial with called := retrial.called.later count } := by
  rw [retrialActions, List.map_append, List.map_cons, Action.map_later_map_log,
    map_later_beforeRetry]
  rfl

/-- The sequence of a policy that reported the failures of `past` since its start. -/
def sequenceAfter (template : Template Policy) (start : Instant) (past : List Report)
    (number : UInt32) : Sequence (template.map Policy.rule).policy.State :=
  { state := template.policy.executionAfter start past
    attempts := number
    failures := past.map Report.failure }

theorem started_eq (template : Template Policy) (now : Instant) :
    (template.map Policy.rule).started now = template.sequenceAfter now [] 1 := by
  rw [started, sequenceAfter, ← template.policy.start_fst now]
  rfl

theorem execute_eq (template : Template Policy) (timeline : Timeline) (now : Instant)
    (attempts : List (Attempt α)) :
    template.execute timeline now attempts
      = ((template.map Policy.rule).resume timeline (template.sequenceAfter now [] 1) now
          attempts).after ((template.policy.start now).2.map .log) := by
  rw [← started_eq]
  rfl

section Steps

variable {template : Template Policy} {timeline timeline' : Timeline} {start now : Instant}
  {past : List Report} {number : UInt32} {count : Nat} {attempt : Attempt α}
  {rest : List (Attempt α)}

theorem Retried.retried_eq
    {retrial : Retrial (template.map Policy.rule).policy.State}
    (h : (template.map Policy.rule).Retried timeline (template.sequenceAfter start past number) now
      attempt retrial) :
    (template.sequenceAfter start past number).retried retrial
      = template.sequenceAfter start (past ++ [retrial.report]) (number + 1) := by
  have hnext := congrArg Consultation.next (h.consultation_eq rfl)
  rw [Sequence.retried, hnext, sequenceAfter, sequenceAfter, List.map_append]
  rfl

/-- A consultation that happens later gives the same answer and writes the same. -/
theorem consult_later (template : Template Policy) (start : Instant) (past : List Report)
    (number : UInt32) (report : Report) (count : Nat) :
    let consult (start : Instant) (past : List Report) (moment : Instant) :=
      (template.map Policy.rule).policy.consult (template.sequenceAfter start past number).state
        report.failure moment
    let later := consult (start.later count) (past.map (Report.later count))
      (report.moment.later count)
    later.retry = (consult start past report.moment).retry
      ∧ later.log = (consult start past report.moment).log := by
  intro consult later
  have hlater := template.policy.consult_executionAfter (start.later count)
    (past.map (Report.later count)) (report.later count)
  have hbefore := template.policy.consult_executionAfter start past report
  rw [Policy.allows_later, Policy.lines_later] at hlater
  exact ⟨(congrArg Consultation.retry hlater).trans (congrArg Consultation.retry hbefore).symm,
    (congrArg Consultation.log hlater).trans (congrArg Consultation.log hbefore).symm⟩

/-- **One retrial.** What is retried later is retried before, after the same delay. -/
theorem Retried.later {retrial : Retrial (template.map Policy.rule).policy.State}
    (h : (template.map Policy.rule).Retried timeline
      (template.sequenceAfter (start.later count) (past.map (Report.later count)) number)
      (now.later count) attempt retrial)
    (hrun : timeline.run (now.later count) attempt.takes
      = (timeline'.run now attempt.takes).later count) :
    ∃ retrial', (template.map Policy.rule).Retried timeline'
        (template.sequenceAfter start past number) now attempt retrial'
      ∧ retrial.report = retrial'.report.later count
      ∧ (template.map Policy.rule).retrialActions number retrial
        = ((template.map Policy.rule).retrialActions number retrial').map (Action.later count) := by
  obtain ⟨called, ⟨failure, moment⟩, consultation, delay⟩ := retrial
  obtain rfl : called = now.later count := h.called
  obtain rfl : moment = (timeline'.run now attempt.takes).later count := h.reported.trans hrun
  obtain rfl : consultation = (template.map Policy.rule).policy.consult _ failure
    ((timeline'.run now attempt.takes).later count) := h.consulted
  obtain ⟨hanswer, hlog⟩ := consult_later template start past number
    ⟨failure, timeline'.run now attempt.takes⟩ count
  refine ⟨⟨now, ⟨failure, timeline'.run now attempt.takes⟩, _, delay⟩,
    ⟨rfl, rfl, h.failed, rfl, hanswer.symm.trans h.allowed, h.delayed⟩, rfl, ?_⟩
  rw [map_later_retrialActions, retrialActions, retrialActions, hlog]

/-- **The last step** is the same later. -/
theorem Halts.later {run : Run α}
    (h : (template.map Policy.rule).Halts timeline
      (template.sequenceAfter (start.later count) (past.map (Report.later count)) number)
      (now.later count) (attempt :: rest) run)
    (hrun : timeline.run (now.later count) attempt.takes
      = (timeline'.run now attempt.takes).later count) :
    ∃ run', (template.map Policy.rule).Halts timeline'
        (template.sequenceAfter start past number) now (attempt :: rest) run'
      ∧ run = run'.later count := by
  have hfailures : (past.map (Report.later count)).map Report.failure
      = past.map Report.failure := by
    rw [List.map_map]
    rfl
  cases h with
  | succeeded houtcome =>
      refine ⟨_, .succeeded houtcome, ?_⟩
      rw [Run.later, List.map_cons, map_later_succeeded, hrun]
      rfl
  | @refused _ _ failure consultation houtcome hconsult hrefused =>
      rw [hrun] at hconsult
      subst hconsult
      obtain ⟨hanswer, hlog⟩ := consult_later template start past number
        ⟨failure, timeline'.run now attempt.takes⟩ count
      refine ⟨_, .refused houtcome rfl (hanswer.symm.trans hrefused), ?_⟩
      rw [Run.later, List.map_append, List.map_cons, Action.map_later_map_log, map_later_gaveUp,
        hrun, hlog]
      simp only [sequenceAfter, hfailures]
      rfl
  | @broken _ _ failure consultation error houtcome hconsult hallowed hdelay =>
      rw [hrun] at hconsult
      subst hconsult
      obtain ⟨hanswer, hlog⟩ := consult_later template start past number
        ⟨failure, timeline'.run now attempt.takes⟩ count
      refine ⟨_, .broken houtcome rfl (hanswer.symm.trans hallowed) hdelay, ?_⟩
      rw [Run.later, List.map_cons, Action.map_later_map_log, hrun, hlog]
      rfl

end Steps

section Run

variable {template : Template Policy} {timeline timeline' : Timeline} {ceiling ceiling' : Nat}
  (hcounts : timeline.CountsUpTo ceiling) (hcounts' : timeline'.CountsUpTo ceiling')
include hcounts hcounts'

/-- **A sequence** is the same later, if both clocks have room for its calls. -/
theorem resume_later {start now : Instant} {past : List Report} {number : UInt32} {count : Nat}
    {attempts : List (Attempt α)} {run : Run α}
    (hrun : (template.map Policy.rule).resume timeline
      (template.sequenceAfter (start.later count) (past.map (Report.later count)) number)
      (now.later count) attempts = run)
    (hroom : now.nanoseconds + count + run.running attempts ≤ ceiling)
    (hroom' : now.nanoseconds + run.running attempts ≤ ceiling') :
    run = ((template.map Policy.rule).resume timeline' (template.sequenceAfter start past number)
      now attempts).later count := by
  -- What is left of the room is enough for the calls that are still to be made.
  induction attempts generalizing now past number run with
  | nil =>
      subst hrun
      rfl
  | cons attempt rest ih =>
      have hfirst : 1 ≤ run.calls.length := by
        rw [← hrun]
        exact (template.map Policy.rule).length_calls_resume_cons timeline _ _ attempt rest
      have hrunning := run.running_cons hfirst attempt rest
      have hdone : timeline'.run now attempt.takes = now.later attempt.takes.nanoseconds :=
        hcounts'.run_eq (by omega)
      have hmoment : timeline.run (now.later count) attempt.takes
          = (timeline'.run now attempt.takes).later count := by
        rw [hdone, Instant.later_comm]
        apply hcounts.run_eq
        rw [Instant.nanoseconds_later]
        omega
      rcases (template.map Policy.rule).retried_or_halts timeline
        (template.sequenceAfter (start.later count) (past.map (Report.later count)) number)
        (now.later count) attempt rest with ⟨retrial, hretried⟩ | ⟨halt, hhalts⟩
      · -- Both sequences go on, at moments that are as far apart as before.
        obtain ⟨retrial', hretried', hreport, hactions⟩ := hretried.later hmoment
        have hnext : (template.sequenceAfter (start.later count) (past.map (Report.later count))
            number).retried retrial = template.sequenceAfter (start.later count)
              ((past ++ [retrial'.report]).map (Report.later count)) (number + 1) := by
          rw [hretried.retried_eq, hreport, List.map_append, List.map_singleton]
        have hpause' : timeline'.pause retrial'.report.moment retrial'.delay
            = now.later attempt.takes.nanoseconds := by
          rw [hcounts'.unmoved.pause_eq, hretried'.reported, hdone]
        have hpause : timeline.pause retrial.report.moment retrial.delay
            = (now.later attempt.takes.nanoseconds).later count := by
          rw [hcounts.unmoved.pause_eq, hreport, Report.later, hretried'.reported, hdone]
        have hcalls := hretried.calls_eq rest
        rw [hrun, hnext, hpause] at hcalls
        rw [hcalls, List.length_cons, Nat.add_sub_cancel] at hrunning
        rw [← hrun, hretried.resume_eq, hretried'.resume_eq, Run.later_after, hnext, hpause,
          hretried'.retried_eq, hpause', ih rfl ?_ ?_]
        · exact congrArg (Run.after · _) hactions
        · rw [Run.running, Instant.nanoseconds_later]
          omega
        · rw [Run.running, Instant.nanoseconds_later]
          omega
      · obtain ⟨halt', hhalts', hlater⟩ := hhalts.later hmoment
        rw [← hrun, hhalts.resume_eq, hhalts'.resume_eq, hlater]

/-- **A run** is the same later, under the same condition. -/
theorem execute_later {now : Instant} {count : Nat} {attempts : List (Attempt α)} {run : Run α}
    (hrun : template.execute timeline (now.later count) attempts = run)
    (hroom : now.nanoseconds + count + run.running attempts ≤ ceiling)
    (hroom' : now.nanoseconds + run.running attempts ≤ ceiling') :
    run = (template.execute timeline' now attempts).later count := by
  have hafter := template.execute_eq timeline (now.later count) attempts
  have hcalls : run.calls = ((template.map Policy.rule).resume timeline
      (template.sequenceAfter (now.later count) [] 1) (now.later count) attempts).calls := by
    rw [← hrun, hafter, Run.calls_after, filterMap_map_log _ fun _ => rfl, List.nil_append]
  rw [Run.running, hcalls] at hroom hroom'
  have hresume : (template.map Policy.rule).resume timeline
      (template.sequenceAfter (now.later count) [] 1) (now.later count) attempts
      = ((template.map Policy.rule).resume timeline' (template.sequenceAfter now [] 1) now
          attempts).later count :=
    resume_later hcounts hcounts' rfl hroom hroom'
  rw [← hrun, hafter, template.execute_eq timeline' now, Run.later_after,
    Action.map_later_map_log, template.policy.start_later, hresume]

end Run
end Template
end Retry
