import Retry.Proofs.Policy.Parts

/-!
# Refusals last

A policy that refuses a failure which all of its predicates accept has run out of attempts or of
time somewhere in its tree, and neither comes back while the clock does not go back. So the
execution refuses everything from then on (`Policy.refusal_lasts`), whether its predicates keep
later failures from the bound that ran out or not.
-/

namespace Retry

/-- What an execution answers to reports one after another. -/
def Execution.answers : Execution → List Report → List Bool
  | _, [] => []
  | execution, report :: rest =>
    let consultation := execution.consult report.failure report.moment
    consultation.retry :: consultation.next.answers rest

/-- The clock did not go back from one report to the next. -/
def Report.InOrder (reports : List Report) : Prop :=
  reports.Pairwise fun earlier later => earlier.moment.nanoseconds ≤ later.moment.nanoseconds

instance (reports : List Report) : Decidable (Report.InOrder reports) :=
  inferInstanceAs (Decidable (reports.Pairwise _))

namespace Policy

theorem answers_executionAfter (policy : Policy) (start : Instant) (past reports : List Report)
    (index : Nat) :
    ((policy.executionAfter start past).answers reports)[index]?
      = reports[index]?.map (policy.allows start (past ++ reports.take index)) := by
  induction reports generalizing past index with
  | nil => rfl
  | cons report reports ih =>
      rw [Execution.answers, policy.consult_executionAfter start past report]
      cases index with
      | zero =>
          rw [List.take_zero, List.append_nil]
          rfl
      | succ index =>
          rw [List.getElem?_cons_succ, List.getElem?_cons_succ, ih, List.append_assoc,
            List.singleton_append, List.take_succ_cons]

variable {policy : Policy} {start : Instant}

/-- **One bound ran out.** What it refused it refuses later as well. -/
theorem not_allows_later {past between : List Report} {report later : Report}
    (haccepts : ∀ accepts ∈ policy.predicates, accepts report.failure = true)
    (hrefused : policy.allows start past report = false)
    (hforward : report.moment.nanoseconds ≤ later.moment.nanoseconds) :
    policy.allows start (past ++ report :: between) later = false := by
  induction policy generalizing past between with
  | attempts limit =>
      -- The count stood beyond the bound, at its ceiling at most, and counts do not go down.
      rw [allows, decide_eq_false_iff_not] at hrefused ⊢
      rw [List.length_append, List.length_cons]
      omega
  | duration limit =>
      rw [allows, decide_eq_false_iff_not] at hrefused ⊢
      have hsince := Instant.since_le_since hforward start
      exact fun hwithin => hrefused (Nat.le_trans hsince hwithin)
  | both first second ihfirst ihsecond =>
      obtain ⟨hfirst, hsecond⟩ := List.forall_mem_append.mp haccepts
      rw [allows, Bool.and_eq_false_iff] at hrefused ⊢
      exact hrefused.imp (ihfirst hfirst) (ihsecond hsecond)
  | retryIf accepts inner ih =>
      obtain ⟨haccepted, hinner⟩ := List.forall_mem_cons.mp haccepts
      rw [allows, haccepted, Bool.true_and] at hrefused
      have hkept : (past ++ report :: between).filter (fun earlier => accepts earlier.failure)
          = past.filter (fun earlier => accepts earlier.failure)
            ++ report :: between.filter fun earlier => accepts earlier.failure := by
        rw [List.filter_append, List.filter_cons, if_pos haccepted]
      rw [allows, hkept, ih hinner hrefused, Bool.and_false]
  | absent => cases hrefused
  | present policy ih => exact ih haccepts hrefused

theorem not_allows_take {reports : List Report} (horder : Report.InOrder reports)
    {first second : Nat} (hlt : first < second) {report later : Report}
    (hreport : reports[first]? = some report) (hlater : reports[second]? = some later)
    (haccepts : ∀ accepts ∈ policy.predicates, accepts report.failure = true)
    (hrefused : policy.allows start (reports.take first) report = false) :
    policy.allows start (reports.take second) later = false := by
  obtain ⟨hfirst, rfl⟩ := List.getElem?_eq_some_iff.mp hreport
  obtain ⟨hsecond, rfl⟩ := List.getElem?_eq_some_iff.mp hlater
  have hlength : first < (reports.take second).length := by
    rw [List.length_take]
    omega
  have hsplit : reports.take second
      = reports.take first ++ reports[first] :: (reports.take second).drop (first + 1) := by
    calc reports.take second
        = (reports.take second).take first ++ (reports.take second).drop first :=
          (List.take_append_drop first _).symm
      _ = reports.take first ++ reports[first] :: (reports.take second).drop (first + 1) := by
          rw [List.take_take, Nat.min_eq_left (Nat.le_of_lt hlt),
            List.drop_eq_getElem_cons hlength, List.getElem_take]
  rw [hsplit]
  exact not_allows_later haccepts hrefused
    (List.pairwise_iff_getElem.mp horder first second hfirst hsecond hlt)

/-- **Refusals last.** Once an execution refuses a failure that all predicates of its policy accept,
it refuses every later one, as long as the clock does not go back. Without predicates it never
allows anything after its first refusal. -/
theorem refusal_lasts (policy : Policy) (start : Instant) (reports : List Report)
    (horder : Report.InOrder reports) :
    let answers := (policy.start start).1.answers reports
    (∀ (index : Nat) (report : Report), reports[index]? = some report →
        (∀ accepts ∈ policy.predicates, accepts report.failure = true) →
        answers[index]? = some false → ∀ answer ∈ answers.drop (index + 1), answer = false)
      ∧ (policy.predicates = [] →
        answers.Pairwise fun earlier later => earlier = false → later = false) := by
  intro answers
  have hanswer : ∀ index, answers[index]?
      = reports[index]?.map (policy.allows start (reports.take index)) := by
    intro index
    have hhistory := policy.answers_executionAfter start [] reports index
    rwa [← policy.start_fst, List.nil_append] at hhistory
  have hlasts : ∀ (first second : Nat) (report : Report) (answer : Bool), first < second →
      reports[first]? = some report →
      (∀ accepts ∈ policy.predicates, accepts report.failure = true) →
      answers[first]? = some false → answers[second]? = some answer → answer = false := by
    intro first second report answer hlt hreport haccepts hrefused hsecond
    rw [hanswer, hreport, Option.map_some, Option.some_inj] at hrefused
    rw [hanswer, Option.map_eq_some_iff] at hsecond
    obtain ⟨later, hlater, rfl⟩ := hsecond
    exact not_allows_take horder hlt hreport hlater haccepts hrefused
  refine ⟨?_, fun hnone => ?_⟩
  · intro index report hreport haccepts hrefused answer hmem
    obtain ⟨offset, hoffset⟩ := List.mem_iff_getElem?.mp hmem
    rw [List.getElem?_drop] at hoffset
    exact hlasts index _ report answer (by omega) hreport haccepts hrefused hoffset
  · rw [List.pairwise_iff_getElem]
    intro first second hfirst hsecond hlt hrefused
    have hfalse : answers[first]? = some false := by
      rw [List.getElem?_eq_getElem hfirst, hrefused]
    obtain ⟨report, hreport, _⟩ := Option.map_eq_some_iff.mp ((hanswer first).symm.trans hfalse)
    refine hlasts first second report _ hlt hreport ?_ hfalse (List.getElem?_eq_getElem hsecond)
    rw [hnone]
    exact List.forall_mem_nil _

/-- A bound of one retry refuses the second failure that reaches it, and then everything, whether
the predicate lets it pass or not. -/
theorem refusal_lasts_past_filter :
    let policy := Policy.retryIf (fun failure => failure.kind != "Fatal")
      (.both (.attempts ⟨1⟩) (.present (.duration ⟨.ofSeconds 60, .monotonic⟩)))
    let transient : Failure := ⟨⟨"Transient", "transient", none⟩, []⟩
    let fatal : Failure := ⟨⟨"Fatal", "fatal", none⟩, []⟩
    let reports : List Report :=
      [⟨fatal, ⟨1⟩⟩, ⟨transient, ⟨2⟩⟩, ⟨transient, ⟨3⟩⟩, ⟨fatal, ⟨4⟩⟩, ⟨transient, ⟨4⟩⟩]
    let answers := (policy.start .origin).1.answers reports
    Report.InOrder reports
      ∧ answers = [false, true, false, false, false]
      ∧ (∀ accepts ∈ policy.predicates, accepts transient = true)
      ∧ ∀ answer ∈ answers.drop 3, answer = false := by
  intro policy transient fatal reports answers
  have horder : Report.InOrder reports := by
    unfold reports
    decide
  have hanswers : answers = [false, true, false, false, false] := by
    unfold answers reports policy transient fatal
    decide
  have haccepts : ∀ accepts ∈ policy.predicates, accepts transient = true := by
    intro accepts hmem
    rw [List.mem_singleton.mp hmem]
    rfl
  refine ⟨horder, hanswers, haccepts, ?_⟩
  exact (refusal_lasts policy .origin reports horder).1 2 ⟨transient, ⟨3⟩⟩ rfl haccepts
    (congrArg (·[2]?) hanswers)

end Policy

end Retry
