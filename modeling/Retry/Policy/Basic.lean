import Retry.Policy.AttemptLimit
import Retry.Policy.TimeLimit

/-!
# Policies

A policy is a tree of bounds and predicates. Starting it gives an execution, a tree of the same
shape that holds the state of one retry sequence; every sequence has an execution of its own.
-/

namespace Retry

/-- Decides after each failure whether the operation is tried again. -/
inductive Policy where
  | attempts (limit : AttemptLimit)
  | duration (limit : TimeLimit)
  | both (first second : Policy)
  /-- Never retry what the predicate rejects; leave the rest to the inner policy. -/
  | retryIf (accepts : Failure → Bool) (inner : Policy)
  | absent
  | present (policy : Policy)

inductive Execution where
  | attempts (count : AttemptCount)
  | duration (watch : Stopwatch)
  | both (first second : Execution)
  | retryIf (accepts : Failure → Bool) (inner : Execution)
  | absent
  | present (execution : Execution)

namespace Policy

def start (now : Instant) : Policy → Execution × List Entry
  | .attempts limit => (.attempts limit.start, [])
  | .duration limit =>
    let started := limit.start now
    (.duration started.1, started.2)
  | .both first second =>
    let a := first.start now
    let b := second.start now
    (.both a.1 b.1, a.2 ++ b.2)
  | .retryIf accepts inner =>
    let started := inner.start now
    (.retryIf accepts started.1, started.2)
  | .absent => (.absent, [])
  | .present policy =>
    let started := policy.start now
    (.present started.1, started.2)

/-- The policy in a sentence, if all of its parts can be put into one. -/
def text? : Policy → Option String
  | .attempts limit => some limit.text
  | .duration limit => some limit.text
  | .both first second => return (← first.text?) ++ " && " ++ (← second.text?)
  | .retryIf .. => none
  | .absent => none
  | .present _ => none

/-- The policy as it is shown while the clock stands at `now`. -/
def outline (now : Instant) : Policy → Outline
  | .attempts limit => limit.outline
  | .duration limit => limit.outline now
  | .both first second =>
    .record "And" [("first", first.outline now), ("second", second.outline now)]
  | .retryIf _ inner => .record "RetryIf" [("inner", inner.outline now)]
  | .absent => .optional none
  | .present policy => .optional (some (policy.outline now))

end Policy

namespace Execution

def consult (failure : Failure) (now : Instant) : Execution → Consultation Execution
  | .attempts count => count.consult.map .attempts
  | .duration watch => (watch.consult now).map .duration
  | .both first second =>
    Consultation.both .both (first.consult failure now) (second.consult failure now)
  | .retryIf accepts inner =>
    (Consultation.filtered accepts failure inner (inner.consult failure now)).map
      (.retryIf accepts)
  | .absent => .allow .absent
  | .present execution => (execution.consult failure now).map .present

/-- The execution in a sentence, if all of its parts can be put into one. -/
def text? : Execution → Option String
  | .duration watch => some watch.text
  | .both first second => return (← first.text?) ++ " && " ++ (← second.text?)
  | .attempts _ => none
  | .retryIf .. => none
  | .absent => none
  | .present _ => none

/-- The execution as it is shown while the clock stands at `now`. -/
def outline (now : Instant) : Execution → Outline
  | .attempts count => count.outline
  | .duration watch => watch.outline now
  | .both first second =>
    .record "And" [("first", first.outline now), ("second", second.outline now)]
  | .retryIf _ inner => .record "RetryIf" [("inner", inner.outline now)]
  | .absent => .optional none
  | .present execution => .optional (some (execution.outline now))

end Execution

def Policy.rule (policy : Policy) : Rule where
  State := Execution
  start now := policy.start now
  consult execution failure now := execution.consult failure now

end Retry
