import Mathlib.Order.Bounds.Basic
import Retry.Proofs.Sequence.Ending

/-!
# Where a sequence stops

A run ends at its first attempt that succeeds or whose failure the policy refuses, and nowhere else
(`Template.run_stops_first`). The failures up to there reach one execution of the policy, each of
them once and in order; the run returns the value, or the last failure with all the earlier ones.

What the policy answers is defined apart from the run: `Template.reports` are the failures that an
execution would hear of if only a success ended the run, and `Rule.consultations` is what the
execution replies to them. A row of retrials is a beginning of both.
-/

namespace Retry

variable {α : Type} {π : Type u}

/-- A line that the loop writes, apart from those of the policy. -/
def Entry.ofLoop : Entry → Bool
  | .retrying .. | .givingUp .. | .succeeded .. => true
  | _ => false

theorem Entry.ofLoop_of_mem_last {attempts : UInt32} {outcome : Except Failure α} {line : Entry}
    (hline : line ∈ Entry.last attempts outcome) : line.ofLoop := by
  cases outcome with
  | ok value =>
      rw [Entry.last] at hline
      split at hline
      · rw [List.mem_singleton.mp hline]
        rfl
      · cases hline
  | error failure =>
      rw [List.mem_singleton.mp hline]
      rfl

def Attempt.failure? (attempt : Attempt α) : Option Failure :=
  match attempt.outcome with
  | .ok _ => none
  | .error failure => some failure

/-- What a rule replies to reports one after another, from a state on. -/
def Rule.consultations (rule : Rule) : rule.State → List Report → List (Consultation rule.State)
  | _, [] => []
  | state, report :: rest =>
    let consultation := rule.consult state report.failure report.moment
    consultation :: rule.consultations consultation.next rest

namespace Template

/-- The failures up to the first success, as they are reported if each of them is followed by
another call. The first call has the given number and begins at `moment`. -/
def reports (template : Template π) (timeline : Timeline) :
    Nat → Instant → List (Attempt α) → List Report
  | _, _, [] => []
  | number, moment, attempt :: rest =>
    let done := timeline.run moment attempt.takes
    match attempt.outcome with
    | .ok _ => []
    | .error failure =>
      ⟨failure, done⟩ :: match template.delay attempt.factor (UInt32.ofNat number) with
        | .error _ => []
        | .ok delay =>
          template.reports timeline (number + 1) (timeline.pause done delay) rest

/-- What a new execution of the policy replies to the reports of the attempts. -/
def consultations (template : Template Rule) (timeline : Timeline) (now : Instant)
    (attempts : List (Attempt α)) : List (Consultation template.policy.State) :=
  template.policy.consultations (template.policy.start now).1
    (template.reports timeline 1 now attempts)

/-- The attempt of the given number, counted from one, succeeds, or the policy refuses its
failure. -/
inductive Stops (template : Template Rule) (timeline : Timeline) (now : Instant)
    (attempts : List (Attempt α)) : Nat → Prop
  | success {index : Nat} {attempt : Attempt α} {value : α}
      (hattempt : attempts[index]? = some attempt) (houtcome : attempt.outcome = .ok value) :
      Stops template timeline now attempts (index + 1)
  | refusal {index : Nat} {consultation : Consultation template.policy.State}
      (hconsultation : (template.consultations timeline now attempts)[index]? = some consultation)
      (hrefused : consultation.retry = false) :
      Stops template timeline now attempts (index + 1)

theorem length_consultations (rule : Rule) (state : rule.State) (reports : List Report) :
    (rule.consultations state reports).length = reports.length := by
  induction reports generalizing state with
  | nil => rfl
  | cons report reports ih => rw [Rule.consultations, List.length_cons, ih, List.length_cons]

theorem reports_of_ok (template : Template π) (timeline : Timeline) (number : Nat)
    (now : Instant) {attempt : Attempt α} (rest : List (Attempt α)) {value : α}
    (houtcome : attempt.outcome = .ok value) :
    template.reports timeline number now (attempt :: rest) = [] := by
  rw [reports, houtcome]

theorem take_one_consultations (template : Template Rule) (timeline : Timeline)
    (state : template.policy.State) (number : Nat) (now : Instant) {attempt : Attempt α}
    (rest : List (Attempt α)) {failure : Failure} (houtcome : attempt.outcome = .error failure) :
    (template.policy.consultations state
        (template.reports timeline number now (attempt :: rest))).take 1
      = [template.policy.consult state failure (timeline.run now attempt.takes)] := by
  rw [reports, houtcome]
  rfl

/-! ### Retrials make a beginning -/

section Retries

variable {template : Template Rule} {timeline : Timeline}
  {sequence last : Sequence template.policy.State} {now moment : Instant}
  {attempts : List (Attempt α)} {retrials : List (Retrial template.policy.State)}

theorem Retries.reports_append
    (h : template.Retries timeline sequence now attempts retrials last moment) (number : Nat)
    (hnumber : sequence.attempts = UInt32.ofNat number) (rest : List (Attempt α)) :
    template.reports timeline number now (attempts ++ rest)
      = retrials.map Retrial.report
        ++ template.reports timeline (number + retrials.length) moment rest := by
  induction h generalizing number with
  | refl => rfl
  | step first _ ih =>
      have hnext : UInt32.ofNat number + 1 = UInt32.ofNat (number + 1) :=
        (UInt32.ofNat_add number 1).symm
      have htail := ih (number + 1) (by rw [Sequence.retried, hnumber, hnext])
      have hdelay := first.delayed
      rw [hnumber] at hdelay
      rw [List.cons_append, reports]
      simp only [first.failed, hdelay, ← first.reported, htail, List.map_cons, List.cons_append,
        List.length_cons, Nat.add_right_comm number 1, Nat.add_assoc]

theorem Retries.filterMap_failure?
    (h : template.Retries timeline sequence now attempts retrials last moment) :
    attempts.filterMap Attempt.failure? = retrials.map fun retrial => retrial.report.failure := by
  induction h with
  | refl => rfl
  | step first _ ih =>
      rw [List.filterMap_cons, Attempt.failure?, first.failed, ih, List.map_cons]

theorem Retries.consultations_append
    (h : template.Retries timeline sequence now attempts retrials last moment)
    (more : List Report) :
    template.policy.consultations sequence.state (retrials.map Retrial.report ++ more)
      = retrials.map Retrial.consultation
        ++ template.policy.consultations last.state more := by
  induction h with
  | refl => rfl
  | step first _ ih =>
      rw [List.map_cons, List.cons_append, Rule.consultations, ← first.consulted, List.map_cons,
        List.cons_append]
      exact congrArg _ ih

end Retries

theorem ofLoop_of_mem_retrialLines {σ : Type} {number : UInt32} {retrials : List (Retrial σ)}
    {line : Entry} (hline : line ∈ retrialLines number retrials) : line.ofLoop := by
  induction retrials generalizing number with
  | nil => cases hline
  | cons retrial retrials ih =>
      rw [retrialLines] at hline
      rcases List.mem_cons.mp hline with rfl | hline
      · rfl
      · exact ih hline

/-! ### The last step -/

section Halts

variable {template : Template Rule} {timeline : Timeline}
  {sequence : Sequence template.policy.State} {now : Instant} {attempts : List (Attempt α)}
  {run : Run α}

theorem Halts.stops (h : template.Halts timeline sequence now attempts run)
    (hfinal : run.ending.Final) (number : Nat) :
    (∃ attempt value, attempts[0]? = some attempt ∧ attempt.outcome = .ok value)
      ∨ ∃ consultation, (template.policy.consultations sequence.state
          (template.reports timeline number now attempts))[0]? = some consultation
        ∧ consultation.retry = false := by
  cases h with
  | unfinished => cases hfinal
  | succeeded houtcome => exact Or.inl ⟨_, _, rfl, houtcome⟩
  | refused houtcome hconsult hrefused =>
      subst hconsult
      refine Or.inr ⟨_, ?_, hrefused⟩
      rw [← List.getElem?_take_of_lt Nat.zero_lt_one,
        take_one_consultations template timeline sequence.state number now _ houtcome]
      rfl
  | broken => cases hfinal

theorem Halts.map_failure_reports (h : template.Halts timeline sequence now attempts run)
    (hfinal : run.ending.Final) (number : Nat) :
    ((template.reports timeline number now attempts).take 1).map Report.failure
      = (attempts.take 1).filterMap Attempt.failure? := by
  cases h with
  | unfinished => cases hfinal
  | succeeded houtcome =>
      rw [reports_of_ok template timeline number now _ houtcome, List.take_succ_cons,
        List.filterMap_cons, Attempt.failure?, houtcome]
      rfl
  | refused houtcome hconsult hrefused =>
      rw [reports, houtcome, List.take_succ_cons, List.take_succ_cons, List.filterMap_cons,
        Attempt.failure?, houtcome]
      rfl
  | broken => cases hfinal

/-- A last step that ends the run makes a call and consults the policy about its failure, if there
is one. Then the end is written and told. -/
theorem Halts.exists_last (h : template.Halts timeline sequence now attempts run)
    (hfinal : run.ending.Final) (number : Nat) :
    ∃ attempt rest, attempts = attempt :: rest
      ∧ run.finish = timeline.run now attempt.takes
      ∧ run.trace = .call now
        :: (Consultation.transcript ((template.policy.consultations sequence.state
            (template.reports timeline number now attempts)).take 1)
          (Entry.last sequence.attempts attempt.outcome)).map .log
        ++ template.notifyAll (.last sequence.attempts attempt.outcome) := by
  cases h with
  | unfinished => cases hfinal
  | @succeeded attempt rest value houtcome =>
      refine ⟨attempt, rest, rfl, rfl, ?_⟩
      rw [reports_of_ok template timeline number now _ houtcome, houtcome, succeeded_eq]
      rfl
  | @refused attempt rest failure consultation houtcome hconsult hrefused =>
      refine ⟨attempt, rest, rfl, rfl, ?_⟩
      rw [take_one_consultations template timeline sequence.state number now _ houtcome,
        ← hconsult, houtcome, gaveUp_eq α]
      simp only [Entry.last, Consultation.transcript, List.map_append, List.append_assoc,
        List.cons_append]
  | broken => cases hfinal

theorem Halts.exists_log_eq (h : template.Halts timeline sequence now attempts run)
    (hfinal : run.ending.Final) (number : Nat) :
    ∃ lines : List Entry, (∀ line ∈ lines, line.ofLoop)
      ∧ ((template.policy.consultations sequence.state
          (template.reports timeline number now attempts)).take 1).length ≤ lines.length
      ∧ run.log = Consultation.transcript ((template.policy.consultations sequence.state
          (template.reports timeline number now attempts)).take 1) lines := by
  obtain ⟨attempt, rest, rfl, _, htrace⟩ := h.exists_last hfinal number
  refine ⟨Entry.last sequence.attempts attempt.outcome, ?_, ?_, ?_⟩
  · exact fun line => Entry.ofLoop_of_mem_last
  · cases houtcome : attempt.outcome with
    | ok value =>
        rw [reports_of_ok template timeline number now rest houtcome]
        exact Nat.zero_le _
    | error failure => exact List.length_take_le 1 _
  · rw [Run.log_eq, htrace, List.cons_append, List.filterMap_cons, List.filterMap_append,
      filterMap_entry?_map_log, template.filterMap_notifyAll _ fun _ _ => rfl, List.append_nil]
    rfl

end Halts

/-! ### The first attempt that stops a run -/

namespace Course

variable {template : Template Rule} {timeline : Timeline} {now : Instant}
  {attempts : List (Attempt α)} (course : template.Course timeline now attempts)

theorem reports_eq : template.reports timeline 1 now attempts
    = course.retrials.map Retrial.report
      ++ template.reports timeline (1 + course.retrials.length) course.moment course.rest := by
  have happend := course.retries.reports_append 1 rfl course.rest
  rwa [← course.attempts_eq] at happend

theorem consultations_eq : template.consultations timeline now attempts
    = course.retrials.map Retrial.consultation
      ++ template.policy.consultations course.last.state
        (template.reports timeline (1 + course.retrials.length) course.moment course.rest) := by
  rw [consultations, course.reports_eq]
  exact course.retries.consultations_append _

/-- What the policy replies to the failure of the last step, if there is one. -/
def closing : List (Consultation template.policy.State) :=
  (template.policy.consultations course.last.state
    (template.reports timeline (1 + course.retrials.length) course.moment course.rest)).take 1

theorem take_consultations :
    (template.consultations timeline now attempts).take (course.retrials.length + 1)
      = course.retrials.map Retrial.consultation ++ course.closing := by
  rw [course.consultations_eq, ← List.length_map (f := Retrial.consultation),
    List.take_length_add_append, closing, List.length_map]

/-- No attempt that was retried stops the run. -/
theorem not_stops {number : Nat} (hnumber : number ≤ course.retrials.length) :
    ¬ template.Stops timeline now attempts number := by
  intro hstops
  cases hstops with
  | @success index attempt value hattempt houtcome =>
      obtain ⟨retrial, hretrial⟩ : ∃ retrial, course.retrials[index]? = some retrial :=
        ⟨_, List.getElem?_eq_getElem (by omega)⟩
      obtain ⟨attempt', hattempt', hfailed, _⟩ := course.exists_attempt hretrial
      obtain rfl := Option.some_inj.mp (hattempt'.symm.trans hattempt)
      cases hfailed.symm.trans houtcome
  | @refusal index consultation hconsultation hrefused =>
      rw [course.consultations_eq, List.getElem?_append_left (by rw [List.length_map]; omega)]
        at hconsultation
      obtain ⟨retrial, hretrial, rfl⟩ := List.mem_map.mp (List.mem_of_getElem? hconsultation)
      cases (course.retries.allowed retrial hretrial).symm.trans hrefused

theorem not_stops_of_rest_eq_nil (hrest : course.rest = []) (number : Nat) :
    ¬ template.Stops timeline now attempts number := by
  intro hstops
  refine course.not_stops ?_ hstops
  cases hstops with
  | success hattempt _ =>
      have hlt := (List.getElem?_eq_some_iff.mp hattempt).1
      rw [course.length_attempts, hrest] at hlt
      exact hlt
  | refusal hconsultation _ =>
      have hlt := (List.getElem?_eq_some_iff.mp hconsultation).1
      rw [course.consultations_eq, hrest, List.length_append, List.length_map,
        length_consultations] at hlt
      exact hlt

/-- A last step that ends the run is the first attempt that stops it. -/
theorem isLeast_stops (hfinal : course.halt.ending.Final) :
    IsLeast {number | template.Stops timeline now attempts number}
      (course.retrials.length + 1) := by
  refine ⟨?_, fun number hstops => ?_⟩
  · rcases course.halts.stops hfinal (1 + course.retrials.length) with
      ⟨attempt, value, hattempt, houtcome⟩ | ⟨consultation, hconsultation, hrefused⟩
    · exact .success (course.getElem?_attempts.trans hattempt) houtcome
    · refine .refusal ?_ hrefused
      rw [course.consultations_eq, List.getElem?_append_right (by rw [List.length_map]),
        List.length_map, Nat.sub_self, hconsultation]
  · by_contra hlt
    exact course.not_stops (by omega) hstops

theorem map_failure_reports (hfinal : course.halt.ending.Final) :
    ((template.reports timeline 1 now attempts).take (course.retrials.length + 1)).map
        Report.failure
      = (attempts.take (course.retrials.length + 1)).filterMap Attempt.failure? := by
  rw [course.take_attempts, course.reports_eq, List.filterMap_append,
    course.retries.filterMap_failure?,
    ← course.halts.map_failure_reports hfinal (1 + course.retrials.length)]
  have hlength : course.retrials.length = (course.retrials.map Retrial.report).length :=
    (List.length_map Retrial.report).symm
  rw [List.take_append, List.take_of_length_le (by omega), List.map_append, List.map_map,
    ← hlength, Nat.add_sub_cancel_left]
  rfl

/-- The consultations of a run are in its log, each of them followed by one line of the loop. -/
theorem exists_log_eq (hfinal : course.halt.ending.Final) :
    ∃ lines : List Entry, (∀ line ∈ lines, line.ofLoop)
      ∧ ((template.consultations timeline now attempts).take
          (course.retrials.length + 1)).length ≤ lines.length
      ∧ (template.run timeline now attempts).log
        = (template.policy.start now).2
          ++ Consultation.transcript ((template.consultations timeline now attempts).take
            (course.retrials.length + 1)) lines := by
  obtain ⟨lines, hloop, hlength, hlog⟩ :=
    course.halts.exists_log_eq hfinal (1 + course.retrials.length)
  have htake := course.take_consultations
  rw [closing] at htake
  refine ⟨retrialLines 1 course.retrials ++ lines, ?_, ?_, ?_⟩
  · intro line hline
    rcases List.mem_append.mp hline with hline | hline
    · exact ofLoop_of_mem_retrialLines hline
    · exact hloop line hline
  · rw [htake, List.length_append, List.length_append, List.length_map, length_retrialLines]
    omega
  · rw [htake, Consultation.transcript_append _ _ (by rw [length_retrialLines, List.length_map]),
      ← hlog, ← List.append_assoc, course.log_eq]

end Course

/-! ### The whole run -/

/-- A run ends where the first attempt stops it, if every delay can be computed. -/
theorem endsAfter_iff (template : Template Rule) (timeline : Timeline) (now : Instant)
    (attempts : List (Attempt α))
    (hdelay : ∀ attempt ∈ attempts, ∀ number, ∃ delay,
      template.delay attempt.factor number = .ok delay) (count : Nat) :
    (template.run timeline now attempts).EndsAfter count
      ↔ IsLeast {number | template.Stops timeline now attempts number} count := by
  obtain ⟨course⟩ := template.nonempty_course timeline now attempts
  constructor
  · rintro ⟨hfinal, hcalls⟩
    rw [course.ending_eq] at hfinal
    rw [← hcalls, course.length_calls hfinal]
    exact course.isLeast_stops hfinal
  · intro hleast
    have hfinal : course.halt.ending.Final := by
      rcases course.halts.final_or with hfinal | hrest | ⟨attempt, hmem, error, hbroken⟩
      · exact hfinal
      · exact absurd hleast.1 (course.not_stops_of_rest_eq_nil hrest count)
      · obtain ⟨delay, hok⟩ := hdelay attempt (course.mem_attempts hmem) course.last.attempts
        cases hok.symm.trans hbroken
    refine ⟨by rwa [course.ending_eq], ?_⟩
    rw [course.length_calls hfinal]
    exact (course.isLeast_stops hfinal).unique hleast

/-- **The loop.** A run that ends makes its last call at the first attempt that succeeds or whose
failure is refused. It returns the value or every failure, in order. The failures are put to one
execution of the policy, each of them once and in order, and between two consultations the loop
writes one line. -/
theorem run_stops_first (template : Template Rule) (timeline : Timeline) (now : Instant)
    (attempts : List (Attempt α)) (count : Nat) (hsize : count < UInt32.size)
    (hends : (template.run timeline now attempts).EndsAfter count) :
    IsLeast {number | template.Stops timeline now attempts number} count
      ∧ count ≤ attempts.length
      ∧ (template.run timeline now attempts).ending.Tells
        ((attempts.take count).map Attempt.outcome)
      ∧ ((template.reports timeline 1 now attempts).take count).map Report.failure
        = (attempts.take count).filterMap Attempt.failure?
      ∧ ∃ lines : List Entry, (∀ line ∈ lines, line.ofLoop)
        ∧ ((template.consultations timeline now attempts).take count).length ≤ lines.length
        ∧ (template.run timeline now attempts).log
          = (template.policy.start now).2
            ++ Consultation.transcript
              ((template.consultations timeline now attempts).take count) lines := by
  obtain ⟨course⟩ := template.nonempty_course timeline now attempts
  obtain ⟨hfinal, rfl⟩ := hends
  rw [course.ending_eq] at hfinal ⊢
  rw [course.length_calls hfinal] at hsize ⊢
  have hrest : course.rest ≠ [] := course.rest_ne_nil hfinal
  have hlength := course.length_attempts
  have hpos := List.length_pos_iff.mpr hrest
  exact ⟨course.isLeast_stops hfinal, by omega, course.tells hfinal hsize,
    course.map_failure_reports hfinal, course.exists_log_eq hfinal⟩

/-- Two failures under a bound of one retry and a bound on time: the second one is refused, ten
seconds after the first. -/
theorem run_stops_first_of_one_retry :
    let template := ((Template.new (Policy.rule (.both (.duration ⟨.ofSeconds 20, .monotonic⟩)
      (.attempts ⟨1⟩)))).withBackoff (.fixed (.ofSeconds 10))).withListener
    let failing : Attempt Nat := ⟨.error ⟨⟨"Broken", "broken", none⟩, []⟩, .zero, 1⟩
    let attempts := [failing, failing, ⟨.ok 1, .zero, 1⟩]
    let run := template.run .timer .origin attempts
    2 < UInt32.size ∧ run.EndsAfter 2
      ∧ IsLeast {number | template.Stops .timer .origin attempts number} 2
      ∧ run.ending.Tells ((attempts.take 2).map Attempt.outcome) := by
  intro template failing attempts run
  have hsize : 2 < UInt32.size := by decide
  have hends : run.EndsAfter 2 := by
    unfold run attempts failing template
    decide
  obtain ⟨hleast, _, htells, _⟩ :=
    run_stops_first template .timer .origin attempts 2 hsize hends
  exact ⟨hsize, hends, hleast, htells⟩

end Template

end Retry
