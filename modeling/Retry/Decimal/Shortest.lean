import Retry.Binary64.Basic

/-!
# The fewest digits that identify a number

Around every representable count of units lies the interval of reals that round to it. The
shortest decimal of a number is the one in that interval with the fewest digits; among those, the
nearest to the number. Every comparison is made in exact arithmetic of natural numbers.
-/

namespace Retry

/-- The decimal `coefficient * 10 ^ exponent`. -/
structure Decimal where
  coefficient : Nat
  exponent : Int
deriving DecidableEq, Repr

namespace Decimal

open scoped NatPower

/-- Which of two equally near decimals of one length is taken. -/
inductive Tie where
  | up
  | even
deriving DecidableEq

def digitCount (n : Nat) : Nat := (Nat.toDigits 10 n).length

/-- The interval of reals that round to a positive count of units, in quarters of a unit. The
distance to the neighbour below is half the gap where the count is a power of two above the
smallest gap. -/
structure RoundingInterval where
  lower : Nat
  upper : Nat
  /-- Whether the ends themselves round to the count: they do if its significand is even. -/
  closed : Bool

def RoundingInterval.of (units : Nat) : RoundingInterval :=
  let gap := Binary64.gap units
  let narrow := units = 2 ^ units.log2 ∧ 1 < gap
  { lower := 4 * units - (if narrow then gap else 2 * gap)
    upper := 4 * units + 2 * gap
    closed := units / gap % 2 = 0 }

def RoundingInterval.contains (interval : RoundingInterval) (decimal : Decimal) : Bool :=
  let value := 4 * Binary64.unitsPerOne * decimal.coefficient * 10 ^ decimal.exponent.toNat
  let lower := interval.lower * 10 ^ (-decimal.exponent).toNat
  let upper := interval.upper * 10 ^ (-decimal.exponent).toNat
  if interval.closed then lower ≤ value && value ≤ upper else lower < value && value < upper

/-- A number of places by which even the least unit can be moved to exceed one. -/
def liftingPlaces : Nat := 330

/-- The least `k` for which the value of a positive count is below `10 ^ k`. The value times `10 ^
liftingPlaces` is above one, so the digits of its integer part show the scale. -/
def scaleOf (units : Nat) : Int :=
  digitCount (units * 10 ^ liftingPlaces / Binary64.unitsPerOne) - liftingPlaces

/-- The coefficient of the last decimal with the given exponent that is not above a count. -/
def coefficientBelow (units : Nat) (exponent : Int) : Nat :=
  units * 10 ^ (-exponent).toNat / (Binary64.unitsPerOne * 10 ^ exponent.toNat)

/-- Of two neighbouring decimals, the one nearer to a count of units. -/
def nearer (tie : Tie) (units : Nat) (below above : Decimal) : Decimal :=
  let middle := (below.coefficient + above.coefficient) * 10 ^ below.exponent.toNat
    * Binary64.unitsPerOne
  let value := 2 * units * 10 ^ (-below.exponent).toNat
  if value < middle then below
  else if middle < value then above
  else match tie with
    | .up => above
    | .even => if below.coefficient % 2 = 0 then below else above

/-- The decimal of `length` digits that identifies a count, if there is one: it is a neighbour of
the count among the decimals of that length. -/
def ofLength? (tie : Tie) (units length : Nat) : Option Decimal :=
  let exponent := scaleOf units - length
  let below : Decimal := ⟨coefficientBelow units exponent, exponent⟩
  let above : Decimal := ⟨below.coefficient + 1, exponent⟩
  let interval := RoundingInterval.of units
  match interval.contains below, interval.contains above with
  | true, true => some (nearer tie units below above)
  | true, false => some below
  | false, true => some above
  | false, false => none

def exactly (units : Nat) : Decimal :=
  ⟨units * 5 ^ Binary64.fractionBits, -Binary64.fractionBits⟩

/-- Moves the zeros at the end of a coefficient into the exponent, at most `steps` of them. -/
def dropZeros : Nat → Decimal → Decimal
  | 0, decimal => decimal
  | steps + 1, decimal =>
    if decimal.coefficient % 10 = 0 then
      dropZeros steps ⟨decimal.coefficient / 10, decimal.exponent + 1⟩
    else decimal

/-- The shortest decimal that identifies a positive count of units. Seventeen digits always
suffice. -/
def shortest (tie : Tie) (units : Nat) : Decimal :=
  let found := (List.range' 1 17).findSome? (ofLength? tie units)
  dropZeros 17 (found.getD (exactly units))

end Decimal

end Retry
