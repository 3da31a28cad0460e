import Retry.Backoff
import Retry.Clock
import Retry.Failure.Basic

/-!
# The log of a retry sequence

Each constructor is one thing that is worth a line in the log, with the values its line shows.
-/

namespace Retry

inductive Level where
  | trace
  | debug
  | warn
deriving DecidableEq

def Level.text : Level → String
  | .trace => "TRACE"
  | .debug => "DEBUG"
  | .warn => "WARN"

inductive Entry where
  | started (bound : Span)
  | measured (elapsed bound : Span) (retry : Bool)
  | rejected (failure : Failure)
  /-- An attempt failed and another follows after a delay. -/
  | retrying (attempt : UInt32) (failure : Failure) (delay : Span)
  | givingUp (attempts : UInt32) (failure : Failure)
  /-- The operation succeeded, and not at the first attempt. -/
  | succeeded (attempts : UInt32)
  | built (attempts : Nat) (milliseconds : Option Int) (backoff : Backoff)
deriving DecidableEq

namespace Entry

/-- A sequence that is given up is worth a warning, the start of a bound on time only a trace. -/
def level : Entry → Level
  | .started .. => .trace
  | .givingUp .. => .warn
  | _ => .debug

/-- How an execution bounded in time is shown in sentences. -/
def boundedExecution (bound : Span) : String :=
  "MaxRetryDurationExecution[retry_start_time=" ++ Instant.text ++ ", max_retry_duration="
    ++ toString bound.milliseconds ++ "ms]"

def message : Entry → String
  | .started bound => "Starting " ++ boundedExecution bound
  | .measured elapsed bound retry =>
    "Retry sequence elapsed " ++ toString elapsed.milliseconds ++ "ms of "
      ++ toString bound.milliseconds ++ "ms, retry = " ++ (Outline.ofBool retry).inline
  | .rejected failure => "Failure rejected by retry predicate: " ++ failure.message
  | .retrying attempt failure delay =>
    "Attempt " ++ toString attempt.toNat ++ " failed: " ++ failure.message ++ ". Retrying in "
      ++ toString delay.milliseconds ++ "ms"
  | .givingUp attempts failure =>
    "Giving up after " ++ toString attempts.toNat ++ " attempt(s), last failure: "
      ++ failure.message
  | .succeeded attempts =>
    "Operation succeeded after " ++ toString attempts.toNat ++ " attempts"
  | .built attempts milliseconds backoff =>
    "Built retry template from config: attempts = " ++ toString attempts ++ ", duration = "
      ++ (Outline.optional (milliseconds.map .ofInt)).inline ++ ", backoff = "
      ++ backoff.outline.inline

def text (entry : Entry) : String := entry.level.text ++ " " ++ entry.message

end Entry

end Retry
