import Retry.Decimal.Layout
import Retry.Span.Basic

/-!
# Settings that are refused

Each constructor is one reason why a policy, a backoff or a template cannot be built.
-/

namespace Retry

inductive SettingsError where
  /-- The number of attempts does not fit 32 bits. -/
  | attemptsOutOfRange (attempts : Int)
  | noAttempts
  | durationNotPositive (milliseconds : Int)
  | zeroDuration
  /-- The multiplier is below one, infinite or undefined. -/
  | multiplierRefused (multiplier : Binary64)
  | zeroInitialBackoff
  | initialAboveMaximum (initial maximum : Span)
deriving DecidableEq

namespace SettingsError

def reason : SettingsError → String
  | .attemptsOutOfRange attempts =>
    "Max attempts must be between 1 and " ++ toString (UInt32.size - 1) ++ ", got "
      ++ toString attempts
  | .noAttempts => "Max attempts must be greater than zero"
  | .durationNotPositive milliseconds =>
    "Max retry duration must be positive, got " ++ toString milliseconds ++ "ms"
  | .zeroDuration => "Max retry duration must be positive"
  | .multiplierRefused multiplier =>
    "Backoff multiplier must be a finite value >= 1.0, got "
      ++ multiplier.text Decimal.Layout.plain
  | .zeroInitialBackoff => "Initial backoff must be positive"
  | .initialAboveMaximum initial maximum =>
    "Initial backoff " ++ toString initial.milliseconds ++ "ms exceeds maximum "
      ++ toString maximum.milliseconds ++ "ms"

def message (error : SettingsError) : String := "Invalid configuration: " ++ error.reason

end SettingsError

end Retry
