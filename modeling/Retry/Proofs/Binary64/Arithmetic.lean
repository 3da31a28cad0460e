import Retry.Binary64.Arithmetic
import Retry.Proofs.Binary64.Rounding

/-!
# Operations on finite numbers

The sum, the product and the quotient of two finite numbers that are not negative are one rounding
of the exact result. What is rounded is a quotient of counts, and only its value matters.
-/

namespace Retry.Binary64

open scoped NatPower

variable {a b num den scale : Nat}

theorem add_finite (ha : Representable a) (hb : Representable b) :
    finite false a ha + finite false b hb = ofQuotient false (a + b) 1 := by
  change add _ _ = _
  simp only [add, if_true]

theorem mul_finite (ha : Representable a) (hb : Representable b) :
    finite false a ha * finite false b hb = ofQuotient false (a * b) unitsPerOne := by
  change mul _ _ = _
  simp only [mul, Bool.bne_false]

theorem div_finite (ha : Representable a) (hb : Representable b) (hpos : 0 < b) :
    finite false a ha / finite false b hb = ofQuotient false (a * unitsPerOne) b := by
  change div _ _ = _
  simp only [div, Nat.ne_of_gt hpos, if_false, Bool.bne_false]

theorem roundUnits_mul_mul_right (hden : 0 < den) (hscale : 0 < scale) :
    roundUnits (num * scale) (den * scale) = roundUnits num den := by
  have hpos : 0 < den * scale := Nat.mul_pos hden hscale
  have hsame : num * scale * den = num * (den * scale) := by
    rw [Nat.mul_assoc, Nat.mul_comm scale]
  exact Nat.le_antisymm (roundUnits_mono hpos hden (Nat.le_of_eq hsame))
    (roundUnits_mono hden hpos (Nat.le_of_eq hsame.symm))

theorem ofQuotient_mul_mul_right (negative : Bool) (hden : 0 < den) (hscale : 0 < scale) :
    ofQuotient negative (num * scale) (den * scale) = ofQuotient negative num den := by
  simp only [ofQuotient, roundUnits_mul_mul_right hden hscale]

/-! ### Whole numbers -/

/-- Whole numbers are exact as long as they have at most 53 bits. -/
theorem representable_mul_unitsPerOne {n : Nat} (h : n ≤ 2 ^ precision) :
    Representable (n * unitsPerOne) where
  lt_overflow := by
    calc n * unitsPerOne ≤ 2 ^ precision * unitsPerOne := Nat.mul_le_mul_right _ h
      _ < overflowUnits := by decide +kernel
  gap_dvd := gap_dvd_mul_two_pow n fractionBits h

theorem ofNat_eq {n : Nat} (h : Representable (n * unitsPerOne)) :
    ofNat n = .finite false (n * unitsPerOne) h := by
  have hround : roundUnits (n * unitsPerOne) 1 = n * unitsPerOne := by
    have hmul := roundUnits_mul Nat.one_pos h.gap_dvd
    rwa [Nat.mul_one] at hmul
  rw [ofNat, ofQuotient_of_lt false (by rw [hround]; exact h.lt_overflow)]
  simp only [hround]

theorem ofNat_div_ofNat {m n : Nat} (hm : m ≤ 2 ^ precision) (hn : n ≤ 2 ^ precision)
    (hpos : 0 < n) : ofNat m / ofNat n = ofQuotient false (m * unitsPerOne) n := by
  rw [ofNat_eq (representable_mul_unitsPerOne hm), ofNat_eq (representable_mul_unitsPerOne hn),
    div_finite _ _ (Nat.mul_pos hpos unitsPerOne_pos)]
  exact ofQuotient_mul_mul_right false hpos unitsPerOne_pos

end Retry.Binary64
