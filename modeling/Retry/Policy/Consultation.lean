import Retry.Log

/-!
# Consulting a policy

To consult a policy about a failure gives an answer, the state to consult next time, and what is
written to the log on the way. A rule is anything that can be started and consulted; rules
combine as policies do. The two ways in which answers combine are defined once, on consultations.
-/

namespace Retry

structure Consultation (σ : Type) where
  retry : Bool
  next : σ
  log : List Entry

namespace Consultation

/-- The same answer with the state seen as part of a larger one. -/
def map {σ τ : Type} (f : σ → τ) (consultation : Consultation σ) : Consultation τ :=
  { retry := consultation.retry, next := f consultation.next, log := consultation.log }

/-- Both sides are consulted, the first one first, even if it refuses. -/
def both {σ τ υ : Type} (join : σ → τ → υ) (first : Consultation σ) (second : Consultation τ) :
    Consultation υ :=
  { retry := first.retry && second.retry
    next := join first.next second.next
    log := first.log ++ second.log }

/-- The answer about a failure that a predicate may reject. Rejection leaves the state alone. -/
def filtered {σ : Type} (accepts : Failure → Bool) (failure : Failure) (state : σ)
    (inner : Consultation σ) : Consultation σ :=
  if accepts failure then inner
  else { retry := false, next := state, log := [.rejected failure] }

def allow {σ : Type} (state : σ) : Consultation σ := { retry := true, next := state, log := [] }

@[simp]
theorem both_retry {σ τ υ : Type} (join : σ → τ → υ) (first : Consultation σ)
    (second : Consultation τ) :
    (both join first second).retry = (first.retry && second.retry) := rfl

end Consultation

/-- Anything that decides about failures one at a time, with a state of its own. The answer may
depend on the state, the failure and the time, and on nothing else. -/
structure Rule where
  State : Type
  start : Instant → State × List Entry
  consult : State → Failure → Instant → Consultation State

namespace Rule

/-- Retries while both rules allow it. Both see every failure. -/
def both (first second : Rule) : Rule where
  State := first.State × second.State
  start now :=
    let a := first.start now
    let b := second.start now
    ((a.1, b.1), a.2 ++ b.2)
  consult state failure now :=
    Consultation.both Prod.mk (first.consult state.1 failure now)
      (second.consult state.2 failure now)

/-- Refuses what the predicate rejects, and leaves the rest to another rule. -/
def retryIf (accepts : Failure → Bool) (inner : Rule) : Rule where
  State := inner.State
  start := inner.start
  consult state failure now :=
    Consultation.filtered accepts failure state (inner.consult state failure now)

/-- A rule that may be absent. An absent rule refuses nothing. -/
def optional (present : Bool) (rule : Rule) : Rule where
  State := Option rule.State
  start now :=
    if present then
      let started := rule.start now
      (some started.1, started.2)
    else (none, [])
  consult state failure now :=
    match state with
    | some state => (rule.consult state failure now).map some
    | none => .allow none

end Rule

end Retry
