import Retry.Proofs.Delay
import Retry.Proofs.Policy.Loosening
import Retry.Proofs.Sequence.Execute
import Retry.Proofs.Sequence.Schedule
import Retry.Proofs.Sequence.Simulation
import Retry.Proofs.Sequence.Waits

/-!
# Looser templates

A run under a looser policy with shorter waits goes on at least as long
(`Template.execute_loosened`). Up to the first refusal both executions have heard of the same
failures, and the second one has heard of each no later than the first. Past it their counts may
differ, for a looser predicate lets more failures be counted, but by then the first run is over.
-/

namespace Retry

variable {α : Type}

namespace Policy

/-- Two sequences that have heard of the same failures, none of which a predicate rejected, and
whose next calls begin at related moments. -/
structure Alongside (policy policy' : Policy) (start : Instant)
    (behind : Instant → Instant → Prop) (sequence : Sequence Execution) (now : Instant)
    (sequence' : Sequence Execution) (now' : Instant) : Prop where
  history : ∃ past past', sequence.state = policy.executionAfter start past
    ∧ sequence'.state = policy'.executionAfter start past'
    ∧ policy.Unfiltered past ∧ past'.map Report.failure = past.map Report.failure
  attempts : sequence'.attempts = sequence.attempts
  failures : sequence'.failures = sequence.failures
  behind : behind now now'

/-- After a common history the second policy allows what the first one allows, if the moments of the
reports are related. -/
def Permits (policy policy' : Policy) (start : Instant) (behind : Instant → Instant → Prop) :
    Prop :=
  ∀ past past' report report', policy.Unfiltered past →
    past'.map Report.failure = past.map Report.failure → report'.failure = report.failure →
    behind report.moment report'.moment → policy.allows start past report = true →
      policy'.allows start past' report' = true

variable {policy policy' : Policy} {start : Instant} {behind : Instant → Instant → Prop}

theorem Loosens.permits (h : policy.Loosens policy')
    (hle : ∀ {moment moment'}, behind moment moment' →
      moment'.nanoseconds ≤ moment.nanoseconds) : policy.Permits policy' start behind :=
  fun _ _ _ _ hpast hfailures hfailure hbehind =>
    h.allows hpast hfailures hfailure (hle hbehind)

theorem permits_of_bounds_eq_nil (hpolicy : policy' = policy) (hbounds : policy.bounds = []) :
    policy.Permits policy' start behind := by
  subst hpolicy
  exact fun _ _ _ _ _ hfailures hfailure _ hallows =>
    (allows_congr hbounds hfailures hfailure).trans hallows

theorem alongside_started (policy policy' : Policy) {now : Instant} (hbehind : behind now now) :
    policy.Alongside policy' now behind ⟨(policy.start now).1, 1, []⟩ now
      ⟨(policy'.start now).1, 1, []⟩ now :=
  ⟨⟨[], [], policy.start_fst now, policy'.start_fst now, List.forall_mem_nil _, rfl⟩, rfl, rfl,
    hbehind⟩

end Policy

namespace Template

variable {template template' : Template Policy} {timeline timeline' : Timeline}
  {start : Instant} {behind : Instant → Instant → Prop}

section Retried

variable {sequence : Sequence (template.map Policy.rule).policy.State}
  {sequence' : Sequence (template'.map Policy.rule).policy.State} {now now' : Instant}
  {attempt : Attempt α} {retrial : Retrial (template.map Policy.rule).policy.State}
  {retrial' : Retrial (template'.map Policy.rule).policy.State}

/-- What the first run retries, the second retries as well. -/
theorem Retried.exists_alongside
    (h : (template.map Policy.rule).Retried timeline sequence now attempt retrial)
    (halongside : template.policy.Alongside template'.policy start behind sequence now sequence'
      now')
    (hpermits : template.policy.Permits template'.policy start behind)
    (hreported : behind retrial.report.moment (timeline'.run now' attempt.takes))
    (hjitter' : template'.jitter = false) (hbackoff' : template'.backoff.NotNegative) :
    ∃ retrial', (template'.map Policy.rule).Retried timeline' sequence' now' attempt retrial' := by
  obtain ⟨past, past', hstate, hstate', hpast, hfailures⟩ := halongside.history
  let report' : Report := ⟨retrial.report.failure, timeline'.run now' attempt.takes⟩
  have hfailed' : attempt.outcome = .error report'.failure := h.failed
  have hallows' : template'.policy.allows start past' report' = true :=
    hpermits past past' retrial.report report' hpast hfailures rfl hreported (h.allows hstate)
  obtain ⟨delay', hdelay'⟩ := Backoff.exists_delay_eq hbackoff' sequence'.attempts
  have hdelayed' := (delay_of_not_jitter hjitter' attempt.factor sequence'.attempts).trans hdelay'
  exact exists_retried hstate' rfl hfailed' hallows' hdelayed'

theorem Retried.alongside
    (h : (template.map Policy.rule).Retried timeline sequence now attempt retrial)
    (h' : (template'.map Policy.rule).Retried timeline' sequence' now' attempt retrial')
    (halongside : template.policy.Alongside template'.policy start behind sequence now sequence'
      now') {next next' : Instant} (hnext : behind next next') :
    template.policy.Alongside template'.policy start behind (sequence.retried retrial) next
      (sequence'.retried retrial') next' := by
  obtain ⟨past, past', hstate, hstate', hpast, hfailures⟩ := halongside.history
  have hfailure : retrial'.report.failure = retrial.report.failure :=
    Except.error.inj (h'.failed.symm.trans h.failed)
  refine ⟨⟨past ++ [retrial.report], past' ++ [retrial'.report],
    congrArg Consultation.next (h.consultation_eq hstate),
    congrArg Consultation.next (h'.consultation_eq hstate'), ?_, ?_⟩, ?_, ?_, hnext⟩
  · -- What is retried was allowed, so no predicate rejected it.
    have haccepted := (Policy.parts_of_allows (h.allows hstate)).1
    exact List.forall_mem_append.mpr ⟨hpast, List.forall_mem_singleton.mpr haccepted⟩
  · rw [List.map_append, List.map_append, hfailures, List.map_singleton, hfailure]
    rfl
  · exact congrArg (· + 1) halongside.attempts
  · rw [Sequence.retried, Sequence.retried, halongside.failures, hfailure]

end Retried

theorem follows_alongside (hjitter : template.jitter = false) (hjitter' : template'.jitter = false)
    (hbackoff' : template'.backoff.NotNegative)
    (hpace : KeepsPace timeline template.backoff timeline' template'.backoff behind)
    (hpermits : template.policy.Permits template'.policy start behind) :
    Follows α (template.map Policy.rule) timeline (template'.map Policy.rule) timeline'
      (template.policy.Alongside template'.policy start behind) := by
  intro sequence now sequence' now' attempt retrial halongside hretried
  have hreported : behind retrial.report.moment (timeline'.run now' attempt.takes) := by
    rw [hretried.reported]
    exact hpace.run attempt.takes halongside.behind
  obtain ⟨retrial', hretried'⟩ :=
    hretried.exists_alongside halongside hpermits hreported hjitter' hbackoff'
  rw [← hretried'.reported] at hreported
  have hdelay : template.backoff.delay sequence.attempts = .ok retrial.delay :=
    (delay_of_not_jitter hjitter attempt.factor _).symm.trans hretried.delayed
  have hdelay' : template'.backoff.delay sequence.attempts = .ok retrial'.delay := by
    rw [← halongside.attempts]
    exact (delay_of_not_jitter hjitter' attempt.factor _).symm.trans hretried'.delayed
  exact ⟨retrial', hretried',
    hretried.alongside hretried' halongside (hpace.pause hreported hdelay hdelay')⟩

/-- **The last step.** A policy that does not look at the time ends both runs alike. -/
theorem Halts.alongside {sequence : Sequence (template.map Policy.rule).policy.State}
    {sequence' : Sequence (template'.map Policy.rule).policy.State} {now now' : Instant}
    {attempts : List (Attempt α)} {halt : Run α}
    (h : (template.map Policy.rule).Halts timeline sequence now attempts halt)
    (hwhole : halt.ending.Final ∨ attempts = []) (hpolicy : template'.policy = template.policy)
    (hbounds : template.policy.bounds = [])
    (halongside : template.policy.Alongside template'.policy start behind sequence now sequence'
      now') :
    ∃ halt', (template'.map Policy.rule).Halts timeline' sequence' now' attempts halt'
      ∧ halt'.ending = halt.ending := by
  obtain ⟨past, past', hstate, hstate', _, hfailures⟩ := halongside.history
  cases h with
  | unfinished => exact ⟨_, .unfinished, rfl⟩
  | succeeded houtcome => exact ⟨_, .succeeded houtcome, rfl⟩
  | @refused attempt rest failure consultation houtcome hconsult hrefused =>
      let report : Report := ⟨failure, timeline.run now attempt.takes⟩
      let report' : Report := ⟨failure, timeline'.run now' attempt.takes⟩
      have hrefuses : template.policy.allows start past report = false :=
        (congrArg Consultation.retry (hconsult.trans (consult_eq hstate report))).symm.trans
          hrefused
      have hsame : template.policy.allows start past' report'
          = template.policy.allows start past report :=
        Policy.allows_congr hbounds hfailures rfl
      have hrefused' := congrArg Consultation.retry (consult_eq hstate' report')
      rw [hpolicy, hsame, hrefuses] at hrefused'
      refine ⟨_, .refused houtcome rfl hrefused', ?_⟩
      rw [halongside.attempts, halongside.failures]
  | broken =>
      rcases hwhole with hfinal | hnil
      · cases hfinal
      · cases hnil

variable {now : Instant} {attempts : List (Attempt α)}

/-- Without jitter a run breaks off only where the attempts do. -/
theorem Course.whole (course : (template.map Policy.rule).Course timeline now attempts)
    (hjitter : template.jitter = false) (hbackoff : template.backoff.NotNegative) :
    course.halt.ending.Final ∨ course.rest = [] := by
  rcases course.halts.final_or with hfinal | hnil | ⟨attempt, _, error, hbroken⟩
  · exact Or.inl hfinal
  · exact Or.inr hnil
  · obtain ⟨delay, hdelay⟩ := Backoff.exists_delay_eq hbackoff course.last.attempts
    have hdelayed := (delay_of_not_jitter hjitter attempt.factor _).trans hdelay
    cases hdelayed.symm.trans hbroken

/-- **Looser templates.** Under a looser policy with shorter waits a run makes at least as many
calls, and up to the last call of the first run it tells of the same retries. A success is reached
at the same call. Under a policy that does not look at the time, the waits do not matter at all. -/
theorem execute_loosened (template template' : Template Policy) (timeline timeline' : Timeline)
    (now : Instant) (attempts : List (Attempt α)) (hjitter : template.jitter = false)
    (hjitter' : template'.jitter = false) (hbackoff : template.backoff.NotNegative)
    (hbackoff' : template'.backoff.NotNegative) :
    let run := template.execute timeline now attempts
    let run' := template'.execute timeline' now attempts
    (∀ count, template.policy.Loosens template'.policy →
        ShorterWaits timeline template.backoff timeline' template'.backoff →
        run.EndsAfter count →
          count ≤ run'.calls.length
            ∧ (∃ story : Story α, story.count = count
              ∧ story.outcomes = (attempts.take count).map Attempt.outcome
              ∧ run.signals = story.events.flatMap (Signal.round template.listeners)
              ∧ story.events.dropLast.flatMap (Signal.round template'.listeners)
                <+: run'.signals)
            ∧ ∀ value, run.ending = .returned value →
              run'.EndsAfter count ∧ run'.ending = .returned value)
      ∧ (template'.policy = template.policy → template.policy.bounds = [] →
        template'.listeners = template.listeners →
          run'.signals = run.signals ∧ run'.calls.length = run.calls.length
            ∧ run'.events = run.events ∧ run'.ending = run.ending) := by
  intro run run'
  refine ⟨fun count hloosens hwaits hends => ?_, fun hpolicy hbounds hlisteners => ?_⟩
  · obtain ⟨behind, hpace, hbehind⟩ := hwaits.exists_keepsPace
    obtain ⟨course, story, hfinal, hstory, rfl⟩ := exists_course_of_endsAfter hends
    obtain ⟨retrials', last', moment', hretries', -⟩ := course.retries.follow
      (follows_alongside hjitter hjitter' hbackoff' hpace (hloosens.permits hbehind))
      (Policy.alongside_started _ _ (hpace.start now))
    rw [hstory.count_eq]
    refine ⟨Course.le_length_calls hretries' (course.rest_ne_nil hfinal), ⟨story, hstory.count_eq,
      hstory.count_eq ▸ hstory.fits.outcomes, hstory.signals_eq,
      hstory.signals_prefix hretries'⟩, fun value hvalue => ?_⟩
    exact Course.endsAfter_of_returned hretries' (course.ending_eq.symm.trans hvalue)
  · -- Nothing has to be known of the moments.
    have hpace : KeepsPace timeline template.backoff timeline' template'.backoff fun _ _ => True :=
      ⟨fun _ => trivial, fun _ _ => trivial, fun _ _ _ => trivial⟩
    obtain ⟨course⟩ := (template.map Policy.rule).nonempty_course timeline now attempts
    obtain ⟨retrials', last', moment', hretries', halongside⟩ := course.retries.follow
      (follows_alongside hjitter hjitter' hbackoff' hpace
        (Policy.permits_of_bounds_eq_nil hpolicy hbounds))
      (Policy.alongside_started _ _ trivial)
    have hwhole := course.whole hjitter hbackoff
    obtain ⟨halt', hhalts', hending⟩ := course.halts.alongside hwhole hpolicy hbounds halongside
    obtain ⟨hsignals, hsame⟩ := Course.run_congr hretries' hhalts' hwhole hending hlisteners
    refine ⟨hsignals, ?_, ?_, hsame⟩
    · rw [run'.length_calls_eq, run.length_calls_eq]
      exact congrArg (List.count Signal.call) hsignals
    · rw [run'.events_eq, run.events_eq]
      exact congrArg (List.filterMap Signal.heard?) hsignals

/-- A bound on time is dropped and nothing is waited for: the success of the third call is reached
all the same, on the same clock and on one that waits do not move. Without the bound, the wait makes
no difference. -/
theorem execute_loosened_of_dropped_bound :
    let transient (failure : Failure) : Bool := failure.kind != "Fatal"
    let template := ((Template.new (Policy.retryIf transient
      (.both (.attempts ⟨2⟩) (.present (.duration ⟨.ofSeconds 5, .monotonic⟩))))).withBackoff
        (.fixed (.ofSeconds 1))).withListener
    let template' := ((Template.new (Policy.retryIf (fun _ => true)
      (.both (.attempts ⟨3⟩) .absent))).withBackoff .none).withListener
    let waiting := template'.withBackoff (.fixed (.ofSeconds 1))
    let failing : Attempt Nat :=
      ⟨.error ⟨⟨"Transient", "transient", none⟩, []⟩, .ofSeconds 1, 1⟩
    let attempts := [failing, failing, ⟨.ok 7, .ofSeconds 1, 1⟩]
    let manual := Timeline.manual ManualClock.longestOffset
    let run := template.execute .timer .origin attempts
    template.jitter = false ∧ template'.jitter = false
      ∧ template.backoff.NotNegative ∧ template'.backoff.NotNegative
      ∧ template.policy.Loosens template'.policy
      ∧ ShorterWaits .timer template.backoff .timer template'.backoff
      ∧ ShorterWaits .timer template.backoff manual template'.backoff
      ∧ run.EndsAfter 3 ∧ run.ending = .returned 7
      ∧ (template'.execute .timer .origin attempts).ending = .returned 7
      ∧ (template'.execute manual .origin attempts).EndsAfter 3
      ∧ waiting.policy = template'.policy ∧ template'.policy.bounds = []
      ∧ (waiting.execute .timer .origin attempts).signals
        = (template'.execute manual .origin attempts).signals := by
  intro transient template template' waiting failing attempts manual run
  have hloosens : template.policy.Loosens template'.policy :=
    .retryIf (fun _ _ => rfl) (.both (.attempts (by decide)) (.dropped _))
  have htimer : ShorterWaits .timer template.backoff .timer template'.backoff := by
    apply ShorterWaits.delays Timeline.ticks_timer Timeline.ticks_timer
    intro number delay delay' _ hnone
    rw [← Except.ok.inj hnone]
    exact Nat.zero_le _
  have hmanual := ShorterWaits.of_manual template.backoff template'.backoff
    ManualClock.longestOffset
  have hends : run.EndsAfter 3 := by
    unfold run attempts failing template transient
    decide
  have hreturned : run.ending = .returned 7 := by
    unfold run attempts failing template transient
    rfl
  have hloosened (timeline : Timeline) := execute_loosened template template' .timer timeline
    .origin attempts rfl rfl trivial trivial
  have hwaiting := execute_loosened template' waiting manual .timer .origin attempts rfl rfl
    trivial trivial
  have hontimer := ((hloosened .timer).1 3 hloosens htimer hends).2.2 7 hreturned
  have honmanual := ((hloosened manual).1 3 hloosens hmanual hends).2.2 7 hreturned
  exact ⟨rfl, rfl, trivial, trivial, hloosens, htimer, hmanual, hends, hreturned, hontimer.2,
    honmanual.1, rfl, rfl, (hwaiting.2 rfl rfl rfl).1⟩

end Template

end Retry
