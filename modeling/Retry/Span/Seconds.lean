import Retry.Binary64.Arithmetic
import Retry.Span.Basic

/-!
# Spans as numbers of seconds

A span becomes a number of double precision by adding its seconds and its part of a second, each
rounded. On the way back the exact value of the number is rounded to the nearest nanosecond.
-/

namespace Retry.Span

def inSeconds (span : Span) : Binary64 :=
  Binary64.ofNat span.seconds
    + Binary64.ofNat span.subsecond / Binary64.ofNat nanosecondsPerSecond

inductive ConversionError where
  | negative
  | tooLarge
deriving DecidableEq

def ConversionError.message : ConversionError → String
  | .negative => "cannot convert float seconds to Duration: value is negative"
  | .tooLarge => "cannot convert float seconds to Duration: value is either too big or NaN"

/-- The span nearest to a number of seconds, ties to the even nanosecond. A negative zero is no
time; any number below zero is refused, however small. -/
def ofSeconds? : Binary64 → Except ConversionError Span
  | .nan => .error .tooLarge
  | .infinity negative => .error (if negative then .negative else .tooLarge)
  | .finite negative units _ =>
    if negative ∧ units ≠ 0 then .error .negative
    else
      let count := nearestEven (units * nanosecondsPerSecond) Binary64.unitsPerOne
      if h : count < overflow then .ok ⟨count, h⟩ else .error .tooLarge

end Retry.Span
