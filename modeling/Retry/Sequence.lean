import Retry.Template

/-!
# Retry sequences

A sequence calls an operation until it succeeds or the policy refuses another attempt. What comes
from outside, call by call, is a list of attempts; the sequence is a function of it that recurses
on the list. Its result is a trace of everything that happened, in order, and how it ended. If
the list ends first, so does the trace, and the ending says so.
-/

namespace Retry

/-- What comes from outside at one call of the operation. -/
structure Attempt (α : Type) where
  outcome : Except Failure α
  takes : Span
  /-- The factor that chance gives the jitter of the delay after it. -/
  factor : Binary64

inductive Event where
  | retry (attempt : UInt32) (failure : Failure)
  /-- The operation succeeded after a number of attempts. -/
  | success (attempts : UInt32)
  | exhausted (attempts : UInt32) (failure : Failure)
deriving DecidableEq

def Event.text : Event → String
  | .retry attempt failure => "retry " ++ toString attempt.toNat ++ " " ++ failure.message
  | .success attempts => "success " ++ toString attempts.toNat
  | .exhausted attempts failure =>
    "exhausted " ++ toString attempts.toNat ++ " " ++ failure.message

inductive Action where
  | call (moment : Instant)
  | log (entry : Entry)
  /-- The listener of the given number hears of an event. -/
  | notify (listener : Nat) (event : Event)
  | wait (delay : Span)
deriving DecidableEq

structure Exhaustion where
  attempts : UInt32
  last : Failure
  suppressed : List Failure
deriving DecidableEq

namespace Exhaustion

def message (error : Exhaustion) : String :=
  "Retry policy exhausted after " ++ toString error.attempts.toNat ++ " attempt(s): "
    ++ error.last.message

/-- The error as it is shown, each failure by its kind. -/
def outline (error : Exhaustion) : Outline :=
  .record "RetryError"
    [("attempts", .ofNat error.attempts.toNat), ("last", .word error.last.kind),
     ("suppressed", .list (error.suppressed.map fun failure => .word failure.kind))]

end Exhaustion

inductive Ending (α : Type) where
  | returned (value : α)
  | exhausted (error : Exhaustion)
  /-- A delay could not be computed. -/
  | broken (error : Span.ConversionError)
  /-- The attempts at hand were used up. -/
  | unfinished

structure Run (α : Type) where
  trace : List Action
  ending : Ending α
  finish : Instant

namespace Run

def after (actions : List Action) (run : Run α) : Run α :=
  { run with trace := actions ++ run.trace }

def calls (run : Run α) : List Instant :=
  run.trace.filterMap fun
    | .call moment => some moment
    | _ => none

/-- What the listeners heard, each event with the number of its listener. -/
def events (run : Run α) : List (Nat × Event) :=
  run.trace.filterMap fun
    | .notify listener event => some (listener, event)
    | _ => none

def log (run : Run α) : List Entry :=
  run.trace.filterMap fun
    | .log entry => some entry
    | _ => none

def waits (run : Run α) : List Span :=
  run.trace.filterMap fun
    | .wait delay => some delay
    | _ => none

end Run

structure Sequence (σ : Type) where
  state : σ
  /-- The number of the next call, counted from one in 32 bits. -/
  attempts : UInt32
  failures : List Failure

namespace Template

variable {α : Type}

/-- Every listener hears of an event, in order of registration. -/
def notifyAll (template : Template π) (event : Event) : List Action :=
  (List.range template.listeners).map (.notify · event)

/-- What is written and heard at the end of a sequence that succeeded. -/
def succeeded (template : Template π) (attempts : UInt32) : List Action :=
  (if 1 < attempts then [.log (.succeeded attempts)] else [])
    ++ template.notifyAll (.success attempts)

/-- What is written and heard when the policy refuses another attempt. -/
def gaveUp (template : Template π) (attempts : UInt32) (failure : Failure) : List Action :=
  .log (.givingUp attempts failure) :: template.notifyAll (.exhausted attempts failure)

/-- What is written, heard and waited before another attempt. A delay of zero is no wait. -/
def beforeRetry (template : Template π) (attempt : UInt32) (failure : Failure) (delay : Span) :
    List Action :=
  .log (.retrying attempt failure delay) :: template.notifyAll (.retry attempt failure)
    ++ (if delay = Span.zero then [] else [.wait delay])

/-- The rest of a sequence that calls the operation next at `now`. -/
def resume (template : Template Rule) (timeline : Timeline) :
    Sequence template.policy.State → Instant → List (Attempt α) → Run α
  | _, now, [] => { trace := [], ending := .unfinished, finish := now }
  | sequence, now, attempt :: rest =>
    let done := timeline.run now attempt.takes
    match attempt.outcome with
    | .ok value =>
      { trace := .call now :: template.succeeded sequence.attempts
        ending := .returned value
        finish := done }
    | .error failure =>
      let consultation := template.policy.consult sequence.state failure done
      let consulted := .call now :: consultation.log.map .log
      if consultation.retry then
        match template.delay attempt.factor sequence.attempts with
        | .error error => { trace := consulted, ending := .broken error, finish := done }
        | .ok delay =>
          let next :=
            { state := consultation.next
              attempts := sequence.attempts + 1
              failures := sequence.failures ++ [failure] }
          let moment := if delay = Span.zero then done else timeline.wait done delay
          (template.resume timeline next moment rest).after
            (consulted ++ template.beforeRetry sequence.attempts failure delay)
      else
        { trace := consulted ++ template.gaveUp sequence.attempts failure
          ending := .exhausted
            { attempts := sequence.attempts, last := failure, suppressed := sequence.failures }
          finish := done }

/-- A whole sequence from `now`, with a new state of its rule. -/
def run (template : Template Rule) (timeline : Timeline) (now : Instant)
    (attempts : List (Attempt α)) : Run α :=
  let started := template.policy.start now
  (template.resume timeline { state := started.1, attempts := 1, failures := [] } now
    attempts).after (started.2.map .log)

def execute (template : Template Policy) (timeline : Timeline) (now : Instant)
    (attempts : List (Attempt α)) : Run α :=
  (template.map Policy.rule).run timeline now attempts

end Template

end Retry
