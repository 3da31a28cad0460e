import Retry.Proofs.Policy.Parts
import Retry.Proofs.Sequence.Ending

/-!
# The course of a sequence under a policy

Around a policy, the state of a sequence is the execution whose history is what the retrials
reported. So each retrial was allowed by the meaning of the policy on the reports before it.
-/

namespace Retry.Template

variable {α : Type} {template : Template Policy} {timeline : Timeline}

section Retried

variable {sequence : Sequence (template.map Policy.rule).policy.State} {now start : Instant}
  {attempt : Attempt α} {retrial : Retrial (template.map Policy.rule).policy.State}
  {past : List Report}

theorem consult_eq (hstate : sequence.state = template.policy.executionAfter start past)
    (report : Report) :
    (template.map Policy.rule).policy.consult sequence.state report.failure report.moment
      = { retry := template.policy.allows start past report
          next := template.policy.executionAfter start (past ++ [report])
          log := template.policy.lines start report } := by
  rw [hstate]
  exact template.policy.consult_executionAfter start past report

theorem Retried.consultation_eq
    (h : (template.map Policy.rule).Retried timeline sequence now attempt retrial)
    (hstate : sequence.state = template.policy.executionAfter start past) :
    retrial.consultation
      = { retry := template.policy.allows start past retrial.report
          next := template.policy.executionAfter start (past ++ [retrial.report])
          log := template.policy.lines start retrial.report } :=
  h.consulted.trans (consult_eq hstate retrial.report)

theorem Retried.allows
    (h : (template.map Policy.rule).Retried timeline sequence now attempt retrial)
    (hstate : sequence.state = template.policy.executionAfter start past) :
    template.policy.allows start past retrial.report = true :=
  (congrArg Consultation.retry (h.consultation_eq hstate)).symm.trans h.allowed

/-- What the policy allows is retried, if the delay can be computed. -/
theorem exists_retried (hstate : sequence.state = template.policy.executionAfter start past)
    {report : Report} (hmoment : report.moment = timeline.run now attempt.takes)
    (hfailed : attempt.outcome = .error report.failure)
    (hallows : template.policy.allows start past report = true) {delay : Span}
    (hdelay : template.delay attempt.factor sequence.attempts = .ok delay) :
    ∃ retrial, (template.map Policy.rule).Retried timeline sequence now attempt retrial := by
  have hanswer := congrArg Consultation.retry (consult_eq hstate report)
  exact ⟨⟨now, report, _, delay⟩, rfl, hmoment, hfailed, rfl, hanswer.trans hallows, hdelay⟩

end Retried

section Retries

variable {sequence last : Sequence (template.map Policy.rule).policy.State}
  {now moment start : Instant} {attempts : List (Attempt α)}
  {retrials : List (Retrial (template.map Policy.rule).policy.State)} {past : List Report}

theorem Retries.state_eq
    (h : (template.map Policy.rule).Retries timeline sequence now attempts retrials last moment)
    (hstate : sequence.state = template.policy.executionAfter start past) :
    last.state
      = template.policy.executionAfter start (past ++ retrials.map Retrial.report) := by
  induction h generalizing past with
  | refl => rw [hstate, List.map_nil, List.append_nil]
  | @step sequence last now moment attempt attempts first retrials hfirst hrest ih =>
      have hnext := congrArg Consultation.next (hfirst.consultation_eq hstate)
      rw [ih hnext, List.map_cons, List.append_assoc, List.singleton_append]

/-- The policy allowed each report after those before it. -/
theorem Retries.allows
    (h : (template.map Policy.rule).Retries timeline sequence now attempts retrials last moment)
    (hstate : sequence.state = template.policy.executionAfter start past) {index : Nat}
    {retrial : Retrial (template.map Policy.rule).policy.State}
    (hretrial : retrials[index]? = some retrial) :
    template.policy.allows start (past ++ (retrials.take index).map Retrial.report)
      retrial.report = true := by
  induction h generalizing past index with
  | refl => simp at hretrial
  | @step sequence last now moment attempt attempts first retrials hfirst hrest ih =>
      cases index with
      | zero =>
          rw [List.getElem?_cons_zero, Option.some_inj] at hretrial
          rw [← hretrial, List.take_zero, List.map_nil, List.append_nil]
          exact hfirst.allows hstate
      | succ index =>
          have hnext := ih (congrArg Consultation.next (hfirst.consultation_eq hstate)) hretrial
          rwa [List.append_assoc, List.singleton_append, ← List.map_cons,
            ← List.take_succ_cons] at hnext

end Retries

theorem Halts.stops_execution {sequence : Sequence (template.map Policy.rule).policy.State}
    {moment start : Instant} {rest : List (Attempt α)} {run : Run α} {past : List Report}
    (h : (template.map Policy.rule).Halts timeline sequence moment rest run)
    (hfinal : run.ending.Final)
    (hstate : sequence.state = template.policy.executionAfter start past) :
    ∃ attempt, rest[0]? = some attempt
      ∧ ((∃ value, attempt.outcome = .ok value)
        ∨ ∃ failure, attempt.outcome = .error failure
          ∧ template.policy.allows start past ⟨failure, timeline.run moment attempt.takes⟩
            = false) := by
  cases h with
  | unfinished => cases hfinal
  | succeeded houtcome => exact ⟨_, rfl, Or.inl ⟨_, houtcome⟩⟩
  | @refused attempt rest failure consultation houtcome hconsult hrefused =>
      refine ⟨attempt, rfl, Or.inr ⟨failure, houtcome, ?_⟩⟩
      have hanswer := consult_eq hstate ⟨failure, timeline.run moment attempt.takes⟩
      exact (congrArg Consultation.retry (hconsult.trans hanswer)).symm.trans hrefused
  | broken => cases hfinal

namespace Course

variable {now : Instant} {attempts : List (Attempt α)}
  (course : (template.map Policy.rule).Course timeline now attempts)

/-- The execution before the last step has the reports of all retrials as its history. -/
theorem state_eq : course.last.state
    = template.policy.executionAfter now (course.retrials.map Retrial.report) :=
  course.retries.state_eq (template.policy.start_fst now)

theorem allows {index : Nat} {retrial : Retrial (template.map Policy.rule).policy.State}
    (hretrial : course.retrials[index]? = some retrial) :
    template.policy.allows now ((course.retrials.take index).map Retrial.report)
      retrial.report = true :=
  course.retries.allows (template.policy.start_fst now) hretrial

/-- No predicate rejected a failure that was retried. -/
theorem unfiltered : template.policy.Unfiltered (course.retrials.map Retrial.report) := by
  intro report hmem
  obtain ⟨retrial, hretrial, rfl⟩ := List.mem_map.mp hmem
  obtain ⟨index, hindex⟩ := List.mem_iff_getElem?.mp hretrial
  exact (Policy.parts_of_allows (course.allows hindex)).1

/-- A retrial was counted by every bound on attempts, and each of them allowed it. -/
theorem min_le_maximum {index : Nat}
    {retrial : Retrial (template.map Policy.rule).policy.State}
    (hretrial : course.retrials[index]? = some retrial) {limit : AttemptLimit}
    (hlimit : limit ∈ template.policy.limits) :
    min (index + 1) AttemptCount.ceiling ≤ limit.maximum.toNat := by
  have hpast : template.policy.Unfiltered ((course.retrials.take index).map Retrial.report) :=
    fun report hmem => course.unfiltered report (((List.take_sublist index _).map _).subset hmem)
  have hlt := (List.getElem?_eq_some_iff.mp hretrial).1
  have hkept := ((Policy.allows_iff hpast).mp (course.allows hretrial)).2.1 limit hlimit
  rwa [List.length_map, List.length_take, Nat.min_eq_left (Nat.le_of_lt hlt)] at hkept

/-- A bound below the largest number of 32 bits limits the retrials. -/
theorem length_retrials_le {limit : AttemptLimit} (hmem : limit ∈ template.policy.limits)
    (hlimit : limit.maximum.toNat < AttemptCount.ceiling) :
    course.retrials.length ≤ limit.maximum.toNat := by
  refine Nat.le_of_not_lt fun hlt => ?_
  have hkept := course.min_le_maximum (List.getElem?_eq_getElem hlt) hmem
  omega

end Course

end Retry.Template
