/-!
# Powers and rounding

One rule of rounding serves the whole library: a quotient of natural numbers goes to the nearest
natural number, and a quotient that lies halfway goes to the even one. Modules that take powers of
natural numbers open `NatPower`, so that they mean the same power whatever else is in scope.
-/

namespace Retry

namespace NatPower

/-- The power of the core library, chosen before any other power of natural numbers. -/
scoped instance (priority := high) natPow : Pow Nat Nat := instPowNat

end NatPower

/-- The natural number nearest to `num / den`; of two equally near ones, the even one. -/
def nearestEven (num den : Nat) : Nat :=
  let quotient := num / den
  let excess := 2 * (num % den)
  if excess < den then quotient
  else if den < excess then quotient + 1
  else if quotient % 2 = 0 then quotient
  else quotient + 1

theorem nearestEven_bounds (num den : Nat) :
    num / den ≤ nearestEven num den ∧ nearestEven num den ≤ num / den + 1 := by
  simp only [nearestEven]
  split
  · omega
  · split
    · omega
    · split <;> omega

theorem nearestEven_mul (count den : Nat) (hden : 0 < den) :
    nearestEven (count * den) den = count := by
  simp [nearestEven, hden, Nat.mul_mod_left]

end Retry
