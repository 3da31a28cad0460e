import Retry.Proofs.Sequence.Composition

/-!
# The algebra of rules

A rule is judged here by its answers alone, whatever its states are. What it answers next depends
on the reports it was consulted about since its start (`Rule.allows`), and rules that are put
together answer in terms of the answers of their parts: a conjunction asks both parts about the
whole history, and a predicate cuts what it rejects out of the history of the part it guards. No
state occurs in these equations, so the laws of conjunction, predicates and absent parts are laws
of truth values and of filtered lists.
-/

namespace Retry

namespace Rule

/-- The state after some more reports. -/
def after (rule : Rule) (state : rule.State) (past : List Report) : rule.State :=
  past.foldl (fun state report => (rule.consult state report.failure report.moment).next) state

/-- The state of a rule that was started at `start` and consulted about the reports of `past`. -/
def stateAfter (rule : Rule) (start : Instant) (past : List Report) : rule.State :=
  rule.after (rule.start start).1 past

/-- What a rule that was started at `start` answers about `report` after the reports of `past`. -/
def allows (rule : Rule) (start : Instant) (past : List Report) (report : Report) : Bool :=
  (rule.consult (rule.stateAfter start past) report.failure report.moment).retry

theorem getElem?_consultations (rule : Rule) (state : rule.State) (reports : List Report)
    (index : Nat) :
    (rule.consultations state reports)[index]?
      = reports[index]?.map fun report =>
          rule.consult (rule.after state (reports.take index)) report.failure report.moment := by
  induction reports generalizing state index with
  | nil => rfl
  | cons report reports ih =>
      cases index with
      | zero => rfl
      | succ index =>
          rw [consultations, List.getElem?_cons_succ, List.getElem?_cons_succ, ih,
            List.take_succ_cons]
          rfl

theorem getElem?_answers (rule : Rule) (start : Instant) (reports : List Report) (index : Nat) :
    (rule.answers start reports)[index]?
      = reports[index]?.map (rule.allows start (reports.take index)) := by
  rw [answers, List.getElem?_map, getElem?_consultations, Option.map_map]
  rfl

/-- Two rules give the same answers to all reports, also to those that follow a refusal, if they
are started at the same moment. -/
def SameAnswers (rule rule' : Rule) : Prop :=
  ∀ start reports, rule.answers start reports = rule'.answers start reports

theorem sameAnswers_iff {rule rule' : Rule} :
    rule.SameAnswers rule' ↔
      ∀ start past report, rule.allows start past report = rule'.allows start past report := by
  constructor
  · intro hsame start past report
    have hanswer := congrArg (·[past.length]?) (hsame start (past ++ [report]))
    simp only [getElem?_answers, List.getElem?_concat_length, List.take_left, Option.map_some]
      at hanswer
    exact Option.some.inj hanswer
  · intro hallows start reports
    apply List.ext_getElem?
    intro index
    rw [getElem?_answers, getElem?_answers]
    congr 1
    funext report
    exact hallows start (reports.take index) report

/-! ### Histories of the parts -/

theorem after_both (first second : Rule) (state : first.State) (state' : second.State)
    (past : List Report) :
    (both first second).after (state, state') past
      = (first.after state past, second.after state' past) := by
  induction past generalizing state state' with
  | nil => rfl
  | cons report past ih => exact ih _ _

theorem after_retryIf (accepts : Failure → Bool) (inner : Rule) (state : inner.State)
    (past : List Report) :
    (retryIf accepts inner).after state past
      = inner.after state (past.filter fun report => accepts report.failure) := by
  induction past generalizing state with
  | nil => rfl
  | cons report past ih =>
      let rest (consultation : Consultation inner.State) : inner.State :=
        inner.after consultation.next (past.filter fun report => accepts report.failure)
      have hstep : (retryIf accepts inner).after state (report :: past)
          = rest (.filtered accepts report.failure state
            (inner.consult state report.failure report.moment)) := ih _
      by_cases haccepted : accepts report.failure = true
      · have hkept : (report :: past).filter (fun report => accepts report.failure)
            = report :: past.filter fun report => accepts report.failure :=
          List.filter_cons_of_pos haccepted
        rw [hkept]
        exact hstep.trans (congrArg rest (if_pos haccepted))
      · have hdropped : (report :: past).filter (fun report => accepts report.failure)
            = past.filter fun report => accepts report.failure :=
          List.filter_cons_of_neg haccepted
        rw [hdropped]
        exact hstep.trans (congrArg rest (if_neg haccepted))

theorem after_optional (present : Bool) (rule : Rule) (state : Option rule.State)
    (past : List Report) :
    (optional present rule).after state past = state.map (rule.after · past) := by
  induction past generalizing state with
  | nil => exact Option.map_id'.symm
  | cons report past ih =>
      cases state with
      | none => exact ih none
      | some state => exact ih (some _)

/-! ### Answers of the parts -/

section Parts

variable (first second inner : Rule) (start : Instant) (past : List Report) (report : Report)

theorem allows_both : (both first second).allows start past report
    = (first.allows start past report && second.allows start past report) := by
  have hstate : (both first second).stateAfter start past
      = (first.stateAfter start past, second.stateAfter start past) := after_both _ _ _ _ past
  rw [allows, hstate]
  rfl

theorem allows_retryIf (accepts : Failure → Bool) : (retryIf accepts inner).allows start past report
    = (accepts report.failure
      && inner.allows start (past.filter fun report => accepts report.failure) report) := by
  have hstate : (retryIf accepts inner).stateAfter start past
      = inner.stateAfter start (past.filter fun report => accepts report.failure) :=
    after_retryIf accepts inner _ past
  rw [allows, hstate]
  by_cases haccepted : accepts report.failure = true
  · rw [haccepted, Bool.true_and]
    exact congrArg Consultation.retry (if_pos haccepted)
  · rw [Bool.eq_false_iff.mpr haccepted, Bool.false_and]
    exact congrArg Consultation.retry (if_neg haccepted)

theorem allows_optional (present : Bool) : (optional present inner).allows start past report
    = (!present || inner.allows start past report) := by
  have hstate : (optional present inner).stateAfter start past
      = ((optional present inner).start start).1.map (inner.after · past) :=
    after_optional present inner _ past
  rw [allows, hstate]
  cases present with
  | false => rfl
  | true => rfl

end Parts

/-! ### Laws -/

section Laws

variable (first second third : Rule) (accepts accepts' : Failure → Bool)

theorem both_comm : (both first second).SameAnswers (both second first) := by
  rw [sameAnswers_iff]
  intro start past report
  rw [allows_both, allows_both, Bool.and_comm]

theorem both_assoc :
    (both (both first second) third).SameAnswers (both first (both second third)) := by
  rw [sameAnswers_iff]
  intro start past report
  rw [allows_both, allows_both, allows_both, allows_both, Bool.and_assoc]

theorem both_self : (both first first).SameAnswers first := by
  rw [sameAnswers_iff]
  intro start past report
  rw [allows_both, Bool.and_self]

theorem both_absent (absent : Rule) : (both first (optional false absent)).SameAnswers first := by
  rw [sameAnswers_iff]
  intro start past report
  rw [allows_both, allows_optional, Bool.not_false, Bool.true_or, Bool.and_true]

theorem absent_both (absent : Rule) : (both (optional false absent) first).SameAnswers first :=
  fun start reports =>
    (both_comm _ first start reports).trans (both_absent first absent start reports)

theorem optional_present : (optional true first).SameAnswers first := by
  rw [sameAnswers_iff]
  intro start past report
  rw [allows_optional, Bool.not_true, Bool.false_or]

/-- Two predicates on top of each other let the same histories through as their conjunction. -/
theorem retryIf_retryIf : (retryIf accepts' (retryIf accepts first)).SameAnswers
    (retryIf (fun failure => accepts failure && accepts' failure) first) := by
  rw [sameAnswers_iff]
  intro start past report
  rw [allows_retryIf, allows_retryIf, allows_retryIf, List.filter_filter, ← Bool.and_assoc,
    Bool.and_comm (accepts' report.failure)]

/-- Both sides of a conjunction under a predicate see what each of them would see under it. -/
theorem retryIf_both : (retryIf accepts (both first second)).SameAnswers
    (both (retryIf accepts first) (retryIf accepts second)) := by
  rw [sameAnswers_iff]
  intro start past report
  rw [allows_retryIf, allows_both, allows_both, allows_retryIf, allows_retryIf]
  cases accepts report.failure with
  | false => rfl
  | true => simp only [Bool.true_and]

/-- **Algebra.** Judged by their answers to all reports, conjunctions of rules are commutative,
associative and idempotent, an absent rule is their unit, and a present one is the rule itself.
Predicates on top of each other are their conjunction, and a predicate distributes over a
conjunction of rules. -/
theorem combinators_lawful (absent : Rule) :
    (both first second).SameAnswers (both second first)
      ∧ (both (both first second) third).SameAnswers (both first (both second third))
      ∧ (both first first).SameAnswers first
      ∧ (both (optional false absent) first).SameAnswers first
      ∧ (both first (optional false absent)).SameAnswers first
      ∧ (optional true first).SameAnswers first
      ∧ (retryIf accepts' (retryIf accepts first)).SameAnswers
        (retryIf (fun failure => accepts failure && accepts' failure) first)
      ∧ (retryIf accepts (both first second)).SameAnswers
        (both (retryIf accepts first) (retryIf accepts second)) :=
  ⟨both_comm first second, both_assoc first second third, both_self first,
    absent_both first absent, both_absent first absent, optional_present first,
    retryIf_retryIf first accepts accepts', retryIf_both first second accepts⟩

end Laws

/-- Equal answers of the parts make equal answers of the whole. -/
theorem SameAnswers.both {first first' second second' : Rule} (h : first.SameAnswers first')
    (h' : second.SameAnswers second') :
    (Rule.both first second).SameAnswers (.both first' second') := by
  rw [sameAnswers_iff] at h h' ⊢
  intro start past report
  rw [allows_both, allows_both, h, h']

theorem SameAnswers.retryIf {inner inner' : Rule} (h : inner.SameAnswers inner')
    (accepts : Failure → Bool) :
    (Rule.retryIf accepts inner).SameAnswers (.retryIf accepts inner') := by
  rw [sameAnswers_iff] at h ⊢
  intro start past report
  rw [allows_retryIf, allows_retryIf, h]

end Rule

/-! ### Trees -/

namespace Policy

theorem after_executionAfter (policy : Policy) (start : Instant) (past more : List Report) :
    policy.rule.after (policy.executionAfter start past) more
      = policy.executionAfter start (past ++ more) := by
  induction more generalizing past with
  | nil => rw [List.append_nil]; rfl
  | cons report more ih =>
      have hnext : ((policy.executionAfter start past).consult report.failure report.moment).next
          = policy.executionAfter start (past ++ [report]) := by
        rw [consult_executionAfter]
      have hrest := ih (past ++ [report])
      rw [List.append_assoc, List.singleton_append] at hrest
      exact (congrArg (policy.rule.after · more) hnext).trans hrest

theorem allows_rule (policy : Policy) (start : Instant) (past : List Report) (report : Report) :
    policy.rule.allows start past report = policy.allows start past report := by
  have hstate : policy.rule.stateAfter start past = policy.executionAfter start past := by
    have hstart : (policy.rule.start start).1 = policy.executionAfter start [] :=
      policy.start_fst start
    rw [Rule.stateAfter, hstart, after_executionAfter, List.nil_append]
  rw [Rule.allows, hstate]
  exact congrArg Consultation.retry (policy.consult_executionAfter start past report)

/-- **Trees of policies** answer as their parts do when these are put together as rules. -/
theorem rule_combined (first second : Policy) (accepts : Failure → Bool) (rule : Rule) :
    (both first second).rule.SameAnswers (.both first.rule second.rule)
      ∧ (retryIf accepts first).rule.SameAnswers (.retryIf accepts first.rule)
      ∧ (present first).rule.SameAnswers (.optional true first.rule)
      ∧ absent.rule.SameAnswers (.optional false rule) := by
  simp only [Rule.sameAnswers_iff, allows_rule, Rule.allows_both, Rule.allows_retryIf,
    Rule.allows_optional]
  exact ⟨fun _ _ _ => rfl, fun _ _ _ => rfl, fun _ _ _ => rfl, fun _ _ _ => rfl⟩

end Policy

end Retry
