import Retry.Template

/-!
# Settings

The settings of a template are plain data, as they are kept in a file. They may ask for what makes
no sense: to build a template from them checks everything first.
-/

namespace Retry

inductive BackoffSettings where
  | none
  | fixed (intervalMs : UInt64)
  | exponential (initialMs : UInt64) (multiplier : Binary64) (maxMs : UInt64)
deriving DecidableEq

structure Settings where
  maxAttempts : Int64 := 3
  /-- The bound on the time of a whole sequence, in milliseconds. -/
  maxDurationMs : Option Int64 := none
  backoff : BackoffSettings := .none
  jitter : Bool := false
deriving DecidableEq

namespace BackoffSettings

def build : BackoffSettings → Except SettingsError Backoff
  | .none => .ok .none
  | .fixed intervalMs => .ok (.fixed (.ofMilliseconds intervalMs))
  | .exponential initialMs multiplier maxMs =>
    Backoff.exponential? (.ofMilliseconds initialMs) multiplier (.ofMilliseconds maxMs)

/-- Whether two settings are equal, their multipliers numerically so. -/
def equals : BackoffSettings → BackoffSettings → Bool
  | .none, .none => true
  | .fixed intervalMs, .fixed intervalMs' => intervalMs = intervalMs'
  | .exponential initialMs multiplier maxMs, .exponential initialMs' multiplier' maxMs' =>
    initialMs = initialMs' && multiplier.equals multiplier' && maxMs = maxMs'
  | _, _ => false

def outline : BackoffSettings → Outline
  | .none => .word "None"
  | .fixed intervalMs => .record "Fixed" [("interval_ms", .ofNat intervalMs.toNat)]
  | .exponential initialMs multiplier maxMs =>
    .record "Exponential"
      [("initial_ms", .ofNat initialMs.toNat), ("multiplier", .ofNumber multiplier),
       ("max_ms", .ofNat maxMs.toNat)]

end BackoffSettings

namespace Settings

/-- The bound on attempts, if their number is one of 32 bits and not zero. -/
def attemptLimit (settings : Settings) : Except SettingsError AttemptLimit :=
  let attempts := settings.maxAttempts.toInt
  if 0 ≤ attempts ∧ attempts < UInt32.size then AttemptLimit.new? (UInt32.ofNat attempts.toNat)
  else .error (.attemptsOutOfRange attempts)

/-- A bound on time of a positive number of milliseconds. -/
def timeLimit (milliseconds : Int64) : Except SettingsError TimeLimit :=
  let count := milliseconds.toInt
  if 0 < count then TimeLimit.new? (.ofMilliseconds (UInt64.ofNat count.toNat)) .monotonic
  else .error (.durationNotPositive count)

/-- The policy of a bound on attempts and a bound on time that may be absent. -/
def policy (attempts : AttemptLimit) (duration : Option TimeLimit) : Policy :=
  .both (.attempts attempts)
    (match duration with
    | none => .absent
    | some limit => .present (.duration limit))

/-- The template with the configured settings, and what is written to the log. The attempts are
checked first, then the duration, then the backoff. -/
def build (settings : Settings) :
    Except SettingsError (Template Policy × List Entry) := do
  let attempts ← settings.attemptLimit
  let duration ← settings.maxDurationMs.mapM timeLimit
  let backoff ← settings.backoff.build
  let template := (Template.new (policy attempts duration)).withBackoff backoff
  let entry :=
    Entry.built attempts.maximum.toNat (settings.maxDurationMs.map Int64.toInt) backoff
  return (template.withJitter settings.jitter, [entry])

/-- Whether two settings are equal, their multipliers numerically so. -/
def equals (settings other : Settings) : Bool :=
  settings.maxAttempts = other.maxAttempts && settings.maxDurationMs = other.maxDurationMs
    && settings.backoff.equals other.backoff && settings.jitter = other.jitter

def outline (settings : Settings) : Outline :=
  .record "RetryConfig"
    [("max_attempts", .ofInt settings.maxAttempts.toInt),
     ("max_duration_ms",
       .optional (settings.maxDurationMs.map fun milliseconds => .ofInt milliseconds.toInt)),
     ("backoff", settings.backoff.outline), ("jitter", .ofBool settings.jitter)]

end Settings

end Retry
