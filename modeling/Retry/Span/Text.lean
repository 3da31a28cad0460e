import Retry.Rounding
import Retry.Span.Basic

/-!
# Spans as text

A span is written in the largest of its four units of which it holds at least one, with the exact
fraction and no zeros at its end: `1.5ms`, `100µs`, `0ns`.
-/

namespace Retry.Span

open scoped NatPower

/-- The digits of a fraction of `width` places, without the zeros at its end. -/
def fractionDigits (width value : Nat) : List Char :=
  let digits := Nat.toDigits 10 value
  let padded := List.replicate (width - digits.length) '0' ++ digits
  (padded.reverse.dropWhile (· = '0')).reverse

/-- The text of a count of nanoseconds in a unit of `10 ^ places` nanoseconds. -/
def textIn (places : Nat) (unit : String) (nanoseconds : Nat) : String :=
  let rest := nanoseconds % 10 ^ places
  let fraction := if rest = 0 then "" else "." ++ String.ofList (fractionDigits places rest)
  toString (nanoseconds / 10 ^ places) ++ fraction ++ unit

def text (span : Span) : String :=
  let count := span.nanoseconds
  if nanosecondsPerSecond ≤ count then textIn 9 "s" count
  else if nanosecondsPerMillisecond ≤ count then textIn 6 "ms" count
  else if nanosecondsPerMicrosecond ≤ count then textIn 3 "µs" count
  else textIn 0 "ns" count

end Retry.Span
