import Retry.Policy.Basic

/-!
# What a policy answers

An execution is determined by its history: the moment of its start and the failures that it was
consulted about since. `Policy.executionAfter` is the execution with a given history, and
`Policy.allows` is what it answers about the next failure.

The bounds on attempts are why the whole history matters. A predicate keeps what it rejects from
the policy inside it, so each bound counts its own part of the history; both sides of a conjunction
see all that reaches it, even what the other side refuses.
-/

namespace Retry

/-- A failure, and the moment at which a policy is consulted about it. -/
structure Report where
  failure : Failure
  moment : Instant
deriving DecidableEq

/-- The largest number of 32 bits, at which a count of attempts stops. -/
def AttemptCount.ceiling : Nat := UInt32.size - 1

namespace AttemptCount

theorem toNat_bump (count : UInt32) : (bump count).toNat = min (count.toNat + 1) ceiling := by
  unfold bump
  split
  · rename_i hfull
    rw [hfull]
    decide
  · rename_i hroom
    have hlt := count.toNat_lt
    have hne : count.toNat ≠ 4294967295 := fun heq => hroom (UInt32.toNat_inj.mp heq)
    rw [UInt32.toNat_add]
    simp only [ceiling, UInt32.size, UInt32.reduceToNat]
    omega

theorem toNat_ofNat_min (n : Nat) : (UInt32.ofNat (min n ceiling)).toNat = min n ceiling :=
  UInt32.toNat_ofNat_of_lt' (Nat.lt_of_le_of_lt (Nat.min_le_right n ceiling) (by decide))

theorem bump_ofNat_min (n : Nat) :
    bump (UInt32.ofNat (min n ceiling)) = UInt32.ofNat (min (n + 1) ceiling) := by
  rw [← UInt32.toNat_inj, toNat_bump, toNat_ofNat_min, toNat_ofNat_min]
  omega

end AttemptCount

namespace Policy

/-- What an execution that was started at `start` answers about `report` after the reports of
`past`. A bound on attempts counts the reports of its own history, this one included, up to the
largest number of 32 bits. -/
def allows (start : Instant) : Policy → List Report → Report → Bool
  | .attempts limit, past, _ =>
    min (past.length + 1) AttemptCount.ceiling ≤ limit.maximum.toNat
  | .duration limit, _, report => report.moment.since start ≤ limit.bound
  | .both first second, past, report =>
    first.allows start past report && second.allows start past report
  | .retryIf accepts inner, past, report =>
    accepts report.failure
      && inner.allows start (past.filter fun earlier => accepts earlier.failure) report
  | .absent, _, _ => true
  | .present policy, past, report => policy.allows start past report

/-- What is written to the log about `report`. Nothing is written about what a predicate keeps
from the policy inside it. -/
def lines (start : Instant) (report : Report) : Policy → List Entry
  | .attempts _ => []
  | .duration limit =>
    let elapsed := report.moment.since start
    [.measured elapsed limit.bound (elapsed ≤ limit.bound)]
  | .both first second => first.lines start report ++ second.lines start report
  | .retryIf accepts inner =>
    if accepts report.failure then inner.lines start report else [.rejected report.failure]
  | .absent => []
  | .present policy => policy.lines start report

/-- The execution that was started at `start` and consulted about the reports of `past`. -/
def executionAfter (start : Instant) : Policy → List Report → Execution
  | .attempts limit, past =>
    .attempts ⟨limit.maximum, UInt32.ofNat (min past.length AttemptCount.ceiling)⟩
  | .duration limit, _ => .duration ⟨start, limit.bound, limit.source⟩
  | .both first second, past =>
    .both (first.executionAfter start past) (second.executionAfter start past)
  | .retryIf accepts inner, past =>
    .retryIf accepts
      (inner.executionAfter start (past.filter fun earlier => accepts earlier.failure))
  | .absent, _ => .absent
  | .present policy, past => .present (policy.executionAfter start past)

theorem start_fst (policy : Policy) (now : Instant) :
    (policy.start now).1 = policy.executionAfter now [] := by
  induction policy with
  | attempts limit => rfl
  | duration limit => rfl
  | both first second ihfirst ihsecond =>
      simp only [start, executionAfter, ihfirst, ihsecond]
  | retryIf accepts inner ih => simp only [start, executionAfter, ih, List.filter_nil]
  | absent => rfl
  | present policy ih => simp only [start, executionAfter, ih]

/-- **One consultation.** An execution answers by its history, and the failure joins the history
whatever the answer is. -/
theorem consult_executionAfter (policy : Policy) (start : Instant) (past : List Report)
    (report : Report) :
    (policy.executionAfter start past).consult report.failure report.moment =
      { retry := policy.allows start past report
        next := policy.executionAfter start (past ++ [report])
        log := policy.lines start report } := by
  induction policy generalizing past with
  | attempts limit =>
      simp only [executionAfter, Execution.consult, AttemptCount.consult,
        AttemptCount.bump_ofNat_min, Consultation.map, allows, lines, List.length_append,
        List.length_singleton, UInt32.le_iff_toNat_le, AttemptCount.toNat_ofNat_min]
  | duration limit => rfl
  | both first second ihfirst ihsecond =>
      simp only [executionAfter, Execution.consult, ihfirst, ihsecond, Consultation.both, allows,
        lines]
  | retryIf accepts inner ih =>
      by_cases haccepts : accepts report.failure
      · simp only [executionAfter, Execution.consult, ih, Consultation.filtered, haccepts,
          Consultation.map, allows, lines, List.filter_append, List.filter_cons_of_pos,
          List.filter_nil, if_true, Bool.true_and]
      · simp only [executionAfter, Execution.consult, Consultation.filtered, haccepts,
          Consultation.map, allows, lines, List.filter_append, List.filter_nil, if_false,
          List.append_nil, Bool.false_and, Bool.false_eq_true, not_false_eq_true,
          List.filter_cons_of_neg]
  | absent => rfl
  | present policy ih =>
      simp only [executionAfter, Execution.consult, ih, Consultation.map, allows, lines]

end Policy

end Retry
