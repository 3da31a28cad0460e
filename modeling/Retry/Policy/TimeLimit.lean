import Retry.Policy.Consultation

/-!
# A bound on time

A sequence may go on while the time since its start is within the bound, the bound included. The
bound and the start of a sequence are fixed when it starts.
-/

namespace Retry

structure TimeLimit where
  bound : Span
  source : TimeSource
deriving DecidableEq

structure Stopwatch where
  start : Instant
  bound : Span
  source : TimeSource
deriving DecidableEq

namespace TimeLimit

/-- The bound unless another is given: three seconds of the clock of the process. -/
def default : TimeLimit := ⟨.ofSeconds 3, .monotonic⟩

def new? (bound : Span) (source : TimeSource) : Except SettingsError TimeLimit :=
  if bound = Span.zero then .error .zeroDuration else .ok ⟨bound, source⟩

/-- Replaces the bound by one above zero. Sequences that were started keep theirs. -/
def setBound? (limit : TimeLimit) (bound : Span) : Except SettingsError TimeLimit :=
  if bound = Span.zero then .error .zeroDuration else .ok { limit with bound := bound }

def start (limit : TimeLimit) (now : Instant) : Stopwatch × List Entry :=
  (⟨now, limit.bound, limit.source⟩, [.started limit.bound])

def text (limit : TimeLimit) : String :=
  "MaxRetryDurationPolicy[max_retry_duration=" ++ toString limit.bound.milliseconds ++ "ms]"

/-- The policy as it is shown while its clock stands at `now`. -/
def outline (limit : TimeLimit) (now : Instant) : Outline :=
  .record "MaxRetryDurationPolicy"
    [("max_retry_duration", .ofSpan limit.bound), ("clock", limit.source.outline now)]

end TimeLimit

namespace Stopwatch

def elapsed (watch : Stopwatch) (now : Instant) : Span := now.since watch.start

/-- Whether more time has passed than the bound allows. -/
def isExpired (watch : Stopwatch) (now : Instant) : Bool := watch.bound < watch.elapsed now

/-- Allows a retry within the bound. To consult changes nothing. -/
def consult (watch : Stopwatch) (now : Instant) : Consultation Stopwatch :=
  let elapsed := watch.elapsed now
  let retry := elapsed ≤ watch.bound
  { retry := retry, next := watch, log := [.measured elapsed watch.bound retry] }

def text (watch : Stopwatch) : String := Entry.boundedExecution watch.bound

/-- The sequence as it is shown while its clock stands at `now`. -/
def outline (watch : Stopwatch) (now : Instant) : Outline :=
  .record "MaxRetryDurationExecution"
    [("retry_start_time", .word Instant.text), ("max_retry_duration", .ofSpan watch.bound),
     ("clock", watch.source.outline now)]

end Stopwatch

end Retry
