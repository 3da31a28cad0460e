import Retry.Proofs.Policy.Meaning
import Retry.Sequence

/-!
# The course of a sequence

A run makes attempts that fail and are followed by another call, and then one step ends it. A
retrial is the first kind of step with all that it shows, `Template.Retries` puts retrials in a
row, and `Template.Halts` is the last step. Every run is a row of retrials and a last step
(`Template.exists_retries_halts`), so what holds of a whole run is an invariant of one retrial and
a case distinction on the last step.
-/

namespace Retry

variable {α σ : Type} {π : Type u}

/-- The moment of the call that follows a delay. A delay of zero is no wait. -/
def Timeline.pause (timeline : Timeline) (moment : Instant) (delay : Span) : Instant :=
  if delay = Span.zero then moment else timeline.wait moment delay

/-- A failure that is followed by another call. -/
structure Retrial (σ : Type) where
  called : Instant
  report : Report
  consultation : Consultation σ
  delay : Span

def Sequence.retried (sequence : Sequence σ) (retrial : Retrial σ) : Sequence σ :=
  { state := retrial.consultation.next
    attempts := sequence.attempts + 1
    failures := sequence.failures ++ [retrial.report.failure] }

namespace Template

/-! ### One attempt -/

/-- What happens in a retrial whose call has the given number. -/
def retrialActions (template : Template π) (number : UInt32) (retrial : Retrial σ) :
    List Action :=
  .call retrial.called :: retrial.consultation.log.map .log
    ++ template.beforeRetry number retrial.report.failure retrial.delay

section Steps

variable (template : Template Rule) (timeline : Timeline)

/-- A sequence that calls the operation at `now` fails, and the failure is followed by another
call. -/
structure Retried (sequence : Sequence template.policy.State) (now : Instant)
    (attempt : Attempt α) (retrial : Retrial template.policy.State) : Prop where
  called : retrial.called = now
  reported : retrial.report.moment = timeline.run now attempt.takes
  failed : attempt.outcome = .error retrial.report.failure
  consulted : retrial.consultation
    = template.policy.consult sequence.state retrial.report.failure retrial.report.moment
  allowed : retrial.consultation.retry = true
  delayed : template.delay attempt.factor sequence.attempts = .ok retrial.delay

/-- How a sequence that calls the operation next at `now` makes its last step. -/
inductive Halts (sequence : Sequence template.policy.State) (now : Instant) :
    List (Attempt α) → Run α → Prop
  | unfinished : Halts sequence now [] { trace := [], ending := .unfinished, finish := now }
  | succeeded {attempt : Attempt α} {rest : List (Attempt α)} {value : α}
      (houtcome : attempt.outcome = .ok value) :
      Halts sequence now (attempt :: rest)
        { trace := .call now :: template.succeeded sequence.attempts
          ending := .returned value
          finish := timeline.run now attempt.takes }
  | refused {attempt : Attempt α} {rest : List (Attempt α)} {failure : Failure}
      {consultation : Consultation template.policy.State}
      (houtcome : attempt.outcome = .error failure)
      (hconsult : consultation
        = template.policy.consult sequence.state failure (timeline.run now attempt.takes))
      (hrefused : consultation.retry = false) :
      Halts sequence now (attempt :: rest)
        { trace := .call now :: consultation.log.map .log
            ++ template.gaveUp sequence.attempts failure
          ending := .exhausted
            { attempts := sequence.attempts, last := failure, suppressed := sequence.failures }
          finish := timeline.run now attempt.takes }
  | broken {attempt : Attempt α} {rest : List (Attempt α)} {failure : Failure}
      {consultation : Consultation template.policy.State} {error : Span.ConversionError}
      (houtcome : attempt.outcome = .error failure)
      (hconsult : consultation
        = template.policy.consult sequence.state failure (timeline.run now attempt.takes))
      (hallowed : consultation.retry = true)
      (hdelay : template.delay attempt.factor sequence.attempts = .error error) :
      Halts sequence now (attempt :: rest)
        { trace := .call now :: consultation.log.map .log
          ending := .broken error
          finish := timeline.run now attempt.takes }

/-- **The last step.** It is the whole run of a sequence that makes no other. -/
theorem Halts.resume_eq {template : Template Rule} {timeline : Timeline}
    {sequence : Sequence template.policy.State} {now : Instant} {attempts : List (Attempt α)}
    {run : Run α} (h : template.Halts timeline sequence now attempts run) :
    template.resume timeline sequence now attempts = run := by
  cases h with
  | unfinished => rfl
  | succeeded houtcome => simp only [resume, houtcome]
  | refused houtcome hconsult hrefused =>
      subst hconsult
      simp only [resume, houtcome, hrefused, Bool.false_eq_true, if_false]
  | broken houtcome hconsult hallowed hdelay =>
      subst hconsult
      simp only [resume, houtcome, hallowed, if_true, hdelay]

/-- **One retrial.** The rest of the run is that of the next sequence, after the wait. -/
theorem Retried.resume_eq {template : Template Rule} {timeline : Timeline}
    {sequence : Sequence template.policy.State} {now : Instant} {attempt : Attempt α}
    {retrial : Retrial template.policy.State}
    (h : template.Retried timeline sequence now attempt retrial) (rest : List (Attempt α)) :
    template.resume timeline sequence now (attempt :: rest)
      = (template.resume timeline (sequence.retried retrial)
          (timeline.pause retrial.report.moment retrial.delay) rest).after
        (template.retrialActions sequence.attempts retrial) := by
  simp only [resume, h.failed, ← h.reported, ← h.consulted, h.allowed, if_true, h.delayed]
  rw [retrialActions, h.called]
  rfl

theorem retried_or_halts (sequence : Sequence template.policy.State) (now : Instant)
    (attempt : Attempt α) (rest : List (Attempt α)) :
    (∃ retrial, template.Retried timeline sequence now attempt retrial)
      ∨ ∃ run, template.Halts timeline sequence now (attempt :: rest) run := by
  cases houtcome : attempt.outcome with
  | ok value => exact Or.inr ⟨_, .succeeded houtcome⟩
  | error failure =>
      cases hanswer : (template.policy.consult sequence.state failure
          (timeline.run now attempt.takes)).retry with
      | false => exact Or.inr ⟨_, .refused houtcome rfl hanswer⟩
      | true =>
          cases hdelay : template.delay attempt.factor sequence.attempts with
          | error error => exact Or.inr ⟨_, .broken houtcome rfl hanswer hdelay⟩
          | ok delay =>
              exact Or.inl ⟨⟨now, ⟨failure, timeline.run now attempt.takes⟩, _, delay⟩,
                rfl, rfl, houtcome, rfl, hanswer, hdelay⟩

/-! ### Many attempts -/

/-- From one sequence to a later one every attempt is retried. -/
inductive Retries : Sequence template.policy.State → Instant → List (Attempt α) →
    List (Retrial template.policy.State) → Sequence template.policy.State → Instant → Prop
  | refl (sequence : Sequence template.policy.State) (now : Instant) :
      Retries sequence now [] [] sequence now
  | step {sequence last : Sequence template.policy.State} {now moment : Instant}
      {attempt : Attempt α} {attempts : List (Attempt α)}
      {retrial : Retrial template.policy.State} {retrials : List (Retrial template.policy.State)}
      (first : template.Retried timeline sequence now attempt retrial)
      (rest : Retries (sequence.retried retrial)
        (timeline.pause retrial.report.moment retrial.delay) attempts retrials last moment) :
      Retries sequence now (attempt :: attempts) (retrial :: retrials) last moment

end Steps

/-- What happens in retrials one after another, the first of which has the given number. -/
def retrialsActions (template : Template π) : UInt32 → List (Retrial σ) → List Action
  | _, [] => []
  | number, retrial :: rest =>
    template.retrialActions number retrial ++ template.retrialsActions (number + 1) rest

end Template

namespace Run

theorem after_nil (run : Run α) : run.after [] = run := rfl

theorem after_after (run : Run α) (first second : List Action) :
    (run.after second).after first = run.after (first ++ second) := by
  rw [after, after, after, List.append_assoc]

@[simp]
theorem after_ending (run : Run α) (actions : List Action) :
    (run.after actions).ending = run.ending := rfl

end Run

namespace Template.Retries

variable {template : Template Rule} {timeline : Timeline}
  {sequence last : Sequence template.policy.State} {now moment : Instant}
  {attempts : List (Attempt α)} {retrials : List (Retrial template.policy.State)}

/-- **Many retrials.** The rest of the run is that of the last sequence. -/
theorem resume_append
    (h : template.Retries timeline sequence now attempts retrials last moment)
    (rest : List (Attempt α)) :
    template.resume timeline sequence now (attempts ++ rest)
      = (template.resume timeline last moment rest).after
        (template.retrialsActions sequence.attempts retrials) := by
  induction h with
  | refl sequence now => rw [List.nil_append, retrialsActions, Run.after_nil]
  | step first _ ih =>
      rw [List.cons_append, first.resume_eq, ih, Run.after_after, retrialsActions]
      rfl

theorem length_eq (h : template.Retries timeline sequence now attempts retrials last moment) :
    retrials.length = attempts.length := by
  induction h with
  | refl => rfl
  | step _ _ ih => rw [List.length_cons, List.length_cons, ih]

theorem map_outcome (h : template.Retries timeline sequence now attempts retrials last moment) :
    attempts.map Attempt.outcome
      = (retrials.map fun retrial => retrial.report.failure).map .error := by
  induction h with
  | refl => rfl
  | step first _ ih => rw [List.map_cons, List.map_cons, List.map_cons, ih, first.failed]

theorem failures_eq (h : template.Retries timeline sequence now attempts retrials last moment) :
    last.failures = sequence.failures ++ retrials.map fun retrial => retrial.report.failure := by
  induction h with
  | refl => rw [List.map_nil, List.append_nil]
  | step _ _ ih =>
      rw [ih, List.map_cons]
      simp only [Sequence.retried, List.append_assoc, List.singleton_append]

theorem attempts_eq (h : template.Retries timeline sequence now attempts retrials last moment) :
    last.attempts = sequence.attempts + UInt32.ofNat retrials.length := by
  induction h with
  | refl => rw [List.length_nil]; exact (UInt32.add_zero _).symm
  | step _ _ ih =>
      rw [ih, List.length_cons, UInt32.ofNat_add, Sequence.retried, UInt32.add_assoc,
        UInt32.add_comm 1]
      rfl

theorem allowed (h : template.Retries timeline sequence now attempts retrials last moment) :
    ∀ retrial ∈ retrials, retrial.consultation.retry = true := by
  induction h with
  | refl => simp
  | step first _ ih =>
      intro retrial hmem
      rcases List.mem_cons.mp hmem with rfl | hmem
      · exact first.allowed
      · exact ih retrial hmem

theorem exists_attempt
    (h : template.Retries timeline sequence now attempts retrials last moment) {index : Nat}
    {retrial : Retrial template.policy.State} (hretrial : retrials[index]? = some retrial) :
    ∃ attempt, attempts[index]? = some attempt
      ∧ attempt.outcome = .error retrial.report.failure
      ∧ retrial.report.moment = timeline.run retrial.called attempt.takes
      ∧ template.delay attempt.factor (sequence.attempts + UInt32.ofNat index)
        = .ok retrial.delay := by
  induction h generalizing index with
  | refl => simp at hretrial
  | @step sequence last now moment attempt attempts first retrials hfirst hrest ih =>
      cases index with
      | zero =>
          rw [List.getElem?_cons_zero, Option.some_inj] at hretrial
          subst hretrial
          refine ⟨attempt, rfl, hfirst.failed, ?_, ?_⟩
          · rw [hfirst.called, hfirst.reported]
          · rw [← hfirst.delayed]
            exact congrArg _ (UInt32.add_zero _)
      | succ index =>
          obtain ⟨attempt, hattempt, hfailed, hreported, hdelayed⟩ := ih hretrial
          refine ⟨attempt, hattempt, hfailed, hreported, ?_⟩
          rw [← hdelayed, Sequence.retried, UInt32.ofNat_add, UInt32.add_assoc,
            UInt32.add_comm (UInt32.ofNat index)]
          rfl

/-- Each call but the first begins where the pause before it ends. -/
theorem called_append_singleton
    (h : template.Retries timeline sequence now attempts retrials last moment) :
    retrials.map Retrial.called ++ [moment]
      = now :: retrials.map fun retrial =>
        timeline.pause retrial.report.moment retrial.delay := by
  induction h with
  | refl => rfl
  | step first _ ih => rw [List.map_cons, List.cons_append, ih, first.called, List.map_cons]

end Template.Retries

/-- **The course of a run.** A row of retrials, and then one last step. -/
theorem Template.exists_retries_halts (template : Template Rule) (timeline : Timeline)
    (sequence : Sequence template.policy.State) (now : Instant) (attempts : List (Attempt α)) :
    ∃ (earlier rest : List (Attempt α)) (retrials : List (Retrial template.policy.State))
      (last : Sequence template.policy.State) (moment : Instant) (run : Run α),
      attempts = earlier ++ rest
        ∧ template.Retries timeline sequence now earlier retrials last moment
        ∧ template.Halts timeline last moment rest run := by
  induction attempts generalizing sequence now with
  | nil => exact ⟨[], [], [], sequence, now, _, rfl, .refl sequence now, .unfinished⟩
  | cons attempt attempts ih =>
      rcases template.retried_or_halts timeline sequence now attempt attempts with
        ⟨retrial, hretried⟩ | ⟨run, hhalts⟩
      · obtain ⟨earlier, rest, retrials, last, moment, run, hsplit, hretries, hhalts⟩ :=
          ih (sequence.retried retrial) (timeline.pause retrial.report.moment retrial.delay)
        exact ⟨attempt :: earlier, rest, retrial :: retrials, last, moment, run,
          by rw [hsplit, List.cons_append], .step hretried hretries, hhalts⟩
      · exact ⟨[], attempt :: attempts, [], sequence, now, run, rfl, .refl sequence now, hhalts⟩

def Template.started (template : Template Rule) (now : Instant) :
    Sequence template.policy.State :=
  { state := (template.policy.start now).1, attempts := 1, failures := [] }

theorem Template.Retries.run_append {template : Template Rule} {timeline : Timeline}
    {now moment : Instant} {last : Sequence template.policy.State} {earlier : List (Attempt α)}
    {retrials : List (Retrial template.policy.State)}
    (h : template.Retries timeline (template.started now) now earlier retrials last moment)
    (rest : List (Attempt α)) :
    template.run timeline now (earlier ++ rest)
      = (template.resume timeline last moment rest).after
        ((template.policy.start now).2.map .log ++ template.retrialsActions 1 retrials) := by
  rw [← Run.after_after]
  exact congrArg (Run.after _) (h.resume_append rest)

/-- A whole run in its parts: the attempts that are retried, and the last step. -/
structure Template.Course (template : Template Rule) (timeline : Timeline) (now : Instant)
    (attempts : List (Attempt α)) where
  earlier : List (Attempt α)
  rest : List (Attempt α)
  retrials : List (Retrial template.policy.State)
  last : Sequence template.policy.State
  moment : Instant
  halt : Run α
  attempts_eq : attempts = earlier ++ rest
  retries : template.Retries timeline (template.started now) now earlier retrials last moment
  halts : template.Halts timeline last moment rest halt

theorem Template.nonempty_course (template : Template Rule) (timeline : Timeline)
    (now : Instant) (attempts : List (Attempt α)) :
    Nonempty (template.Course timeline now attempts) := by
  obtain ⟨earlier, rest, retrials, last, moment, halt, hsplit, hretries, hhalts⟩ :=
    template.exists_retries_halts timeline (template.started now) now attempts
  exact ⟨earlier, rest, retrials, last, moment, halt, hsplit, hretries, hhalts⟩

namespace Template.Course

variable {template : Template Rule} {timeline : Timeline} {now : Instant}
  {attempts : List (Attempt α)} (course : template.Course timeline now attempts)

theorem run_eq : template.run timeline now attempts
    = course.halt.after ((template.policy.start now).2.map .log
        ++ template.retrialsActions 1 course.retrials) := by
  have hrun := course.retries.run_append course.rest
  rwa [course.halts.resume_eq, ← course.attempts_eq] at hrun

theorem ending_eq : (template.run timeline now attempts).ending = course.halt.ending := by
  rw [course.run_eq, Run.after_ending]

theorem length_attempts : attempts.length = course.retrials.length + course.rest.length := by
  rw [course.retries.length_eq, ← List.length_append, ← course.attempts_eq]

theorem mem_attempts {attempt : Attempt α} (hmem : attempt ∈ course.rest) :
    attempt ∈ attempts := by
  rw [course.attempts_eq]
  exact List.mem_append_right _ hmem

theorem exists_attempt {index : Nat} {retrial : Retrial template.policy.State}
    (hretrial : course.retrials[index]? = some retrial) :
    ∃ attempt, attempts[index]? = some attempt
      ∧ attempt.outcome = .error retrial.report.failure
      ∧ retrial.report.moment = timeline.run retrial.called attempt.takes
      ∧ template.delay attempt.factor (UInt32.ofNat (index + 1)) = .ok retrial.delay := by
  obtain ⟨attempt, hattempt, hfailed, hreported, hdelayed⟩ :=
    course.retries.exists_attempt hretrial
  refine ⟨attempt, ?_, hfailed, hreported, ?_⟩
  · have hlt := (List.getElem?_eq_some_iff.mp hattempt).1
    exact ((congrArg (·[index]?) course.attempts_eq).trans
      (List.getElem?_append_left hlt)).trans hattempt
  · rw [← hdelayed, UInt32.ofNat_add, UInt32.add_comm]
    rfl

end Template.Course

end Retry
