import Retry.Span.Seconds

/-!
# Jitter

A delay with jitter is the delay times a random factor between `lowest` and `highest`. The factor
is an argument here, so what holds for every factor of the range holds for every random choice.
-/

namespace Retry.Jitter

def lowest : Binary64 := 8 / 10

def highest : Binary64 := 12 / 10

def InRange (factor : Binary64) : Prop := lowest ≤ factor ∧ factor ≤ highest

/-- The delay times a factor, to the nearest nanosecond. A product too long for a span leaves the
delay as it is. -/
def scale (factor : Binary64) (delay : Span) : Except Span.ConversionError Span :=
  let seconds := delay.inSeconds * factor
  if seconds.isFinite ∧ seconds < Binary64.ofNat UInt64.size then Span.ofSeconds? seconds
  else .ok delay

def parts : Nat := 1_000_000_000_000

/-- Whether a delay lies between four and six fifths of `nominal`, give or take `slack`
nanoseconds and one of the `parts` of the nominal delay. -/
def near (slack : Nat) (nominal delay : Nat) : Bool :=
  let tolerance := 10 * (parts * slack + nominal)
  8 * parts * nominal ≤ 10 * parts * delay + tolerance
    && 10 * parts * delay ≤ 12 * parts * nominal + tolerance

end Retry.Jitter
