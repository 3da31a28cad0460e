import Retry.Settings.Error
import Retry.Span.Seconds
import Retry.Text.Outline

/-!
# How long to wait between attempts

A backoff gives the delay before each retry. An exponential one multiplies its initial delay by a
power of its multiplier, in double precision, and never waits longer than its maximum.
-/

namespace Retry

inductive Backoff where
  | none
  | fixed (interval : Span)
  /-- Wait `initial * multiplier ^ (retry - 1)`, never more than `maximum`. -/
  | exponential (initial : Span) (multiplier : Binary64) (maximum : Span)
deriving DecidableEq

namespace Backoff

/-- An exponential backoff whose settings make sense: it grows, it starts above zero, and it
starts within its maximum. -/
def exponential? (initial : Span) (multiplier : Binary64) (maximum : Span) :
    Except SettingsError Backoff :=
  if !multiplier.isFinite ∨ multiplier < 1 then .error (.multiplierRefused multiplier)
  else if initial = Span.zero then .error .zeroInitialBackoff
  else if maximum < initial then .error (.initialAboveMaximum initial maximum)
  else .ok (.exponential initial multiplier maximum)

def greatestExponent : Nat := 2_147_483_647

/-- The exponent of the delay before a retry, counted from one. -/
def exponentOf (retry : UInt32) : Nat := min (retry.toNat - 1) greatestExponent

/-- The delay before the given retry. A product that is not finite or reaches the maximum gives
the maximum, and an initial delay of zero stays zero. It fails only on a negative product. -/
def delay (backoff : Backoff) (retry : UInt32) : Except Span.ConversionError Span :=
  match backoff with
  | .none => .ok Span.zero
  | .fixed interval => .ok interval
  | .exponential initial multiplier maximum =>
    if initial = Span.zero then .ok Span.zero
    else
      let seconds := initial.inSeconds * multiplier ^ exponentOf retry
      if !seconds.isFinite ∨ maximum.inSeconds ≤ seconds then .ok maximum
      else Span.ofSeconds? seconds

/-- Whether two backoffs have the same kind and numerically equal settings. -/
def equals : Backoff → Backoff → Bool
  | .none, .none => true
  | .fixed interval, .fixed interval' => interval = interval'
  | .exponential initial multiplier maximum, .exponential initial' multiplier' maximum' =>
    initial = initial' && multiplier.equals multiplier' && maximum = maximum'
  | _, _ => false

def outline : Backoff → Outline
  | .none => .word "None"
  | .fixed interval => .tuple "Fixed" [.ofSpan interval]
  | .exponential initial multiplier maximum =>
    .record "Exponential"
      [("initial", .ofSpan initial), ("multiplier", .ofNumber multiplier),
       ("max", .ofSpan maximum)]

end Backoff

end Retry
