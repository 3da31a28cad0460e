import Retry.Binary64.Basic
import Retry.Proofs.Rounding

/-!
# Rounding to a representable count

The grid of representable counts is coarser further up, so the rounding is monotone for two reasons:
on one grid it is that of the nearest number, and from one grid to a coarser one a power of two
lies between the results (`roundUnits_mono`). A count that is its own grid point is not moved, so
what is below it is rounded to at most it.
-/

namespace Retry.Binary64

open scoped NatPower

variable {num den num' den' count : Nat}

theorem gap_pos (units : Nat) : 0 < gap units := Nat.two_pow_pos _

theorem log2_le_log2 (h : num ≤ num') : num.log2 ≤ num'.log2 := by
  rcases Nat.eq_zero_or_pos num with rfl | hpos
  · exact Nat.zero_le _
  · rw [Nat.le_log2 (by omega)]
    exact Nat.le_trans (Nat.log2_self_le (by omega)) h

theorem gap_dvd_gap (h : num ≤ num') : gap num ∣ gap num' :=
  Nat.pow_dvd_pow 2 (Nat.sub_le_sub_right (Nat.add_le_add_right (log2_le_log2 h) 1) precision)

theorem gap_dvd_two_pow (exponent : Nat) : gap (2 ^ exponent) ∣ 2 ^ exponent := by
  have hdvd := gap_dvd_mul_two_pow 1 exponent (by decide)
  rwa [Nat.one_mul] at hdvd

theorem div_mul_gap (num den : Nat) :
    num / (den * gap (num / den)) = num / den / gap (num / den) :=
  (Nat.div_div_eq_div_mul num den _).symm

/-- A quotient whose integer part is below a grid point is not rounded past it. -/
theorem roundUnits_le_of_div_lt (hgrid : gap count ∣ count) (h : num / den < count) :
    roundUnits num den ≤ count := by
  have hdvd : gap (num / den) ∣ count :=
    Nat.dvd_trans (gap_dvd_gap (Nat.le_of_lt h)) hgrid
  obtain ⟨steps, hsteps⟩ := hdvd
  have hlt : num / den / gap (num / den) < steps := by
    rw [Nat.div_lt_iff_lt_mul (gap_pos _), Nat.mul_comm, ← hsteps]
    exact h
  have hnearest := (nearestEven_bounds num (den * gap (num / den))).2
  rw [div_mul_gap] at hnearest
  calc roundUnits num den
      ≤ steps * gap (num / den) := Nat.mul_le_mul_right _ (Nat.le_trans hnearest hlt)
    _ = count := by rw [Nat.mul_comm, ← hsteps]

/-- A quotient whose integer part reaches the power of two below it is not rounded under it. -/
theorem two_pow_log2_le_roundUnits (h : num / den ≠ 0) :
    2 ^ (num / den).log2 ≤ roundUnits num den := by
  have hgap : gap (2 ^ (num / den).log2) = gap (num / den) := by
    rw [gap, gap, Nat.log2_two_pow]
  obtain ⟨steps, hsteps⟩ := hgap ▸ gap_dvd_two_pow (num / den).log2
  have hle : steps ≤ num / den / gap (num / den) := by
    rw [Nat.le_div_iff_mul_le (gap_pos _), Nat.mul_comm, ← hsteps]
    exact Nat.log2_self_le h
  have hnearest := (nearestEven_bounds num (den * gap (num / den))).1
  rw [div_mul_gap] at hnearest
  calc 2 ^ (num / den).log2
      = steps * gap (num / den) := by rw [Nat.mul_comm, ← hsteps]
    _ ≤ roundUnits num den := Nat.mul_le_mul_right _ (Nat.le_trans hle hnearest)

theorem roundUnits_mul (hden : 0 < den) (hgrid : gap count ∣ count) :
    roundUnits (count * den) den = count := by
  obtain ⟨steps, hsteps⟩ := hgrid
  have hscale : count * den = steps * (den * gap count) := by
    rw [Nat.mul_comm den, ← Nat.mul_assoc, Nat.mul_comm steps, ← hsteps]
  rw [roundUnits, Nat.mul_div_cancel _ hden, hscale,
    nearestEven_mul _ _ (Nat.mul_pos hden (gap_pos count)), Nat.mul_comm, ← hsteps]

/-- **Rounding is monotone** in the value of the quotient. -/
theorem roundUnits_mono (hden : 0 < den) (hden' : 0 < den') (h : num * den' ≤ num' * den) :
    roundUnits num den ≤ roundUnits num' den' := by
  have hdiv : num / den ≤ num' / den' := by
    rw [Nat.le_div_iff_mul_le hden']
    refine Nat.le_of_mul_le_mul_right (Nat.le_trans ?_ h) hden
    rw [Nat.mul_right_comm]
    exact Nat.mul_le_mul_right den' (Nat.div_mul_le_self num den)
  by_cases hlog : (num / den).log2 = (num' / den').log2
  · have hgap : gap (num / den) = gap (num' / den') := by rw [gap, gap, hlog]
    have hscale := gap_pos (num' / den')
    rw [roundUnits, roundUnits, hgap]
    refine Nat.mul_le_mul_right _ (nearestEven_mono (Nat.mul_pos hden hscale)
      (Nat.mul_pos hden' hscale) ?_)
    rw [← Nat.mul_assoc, ← Nat.mul_assoc]
    exact Nat.mul_le_mul_right _ h
  · -- The grids differ: a power of two separates the integer parts.
    have hne : num' / den' ≠ 0 := by
      intro hzero
      rw [hzero] at hdiv hlog
      rw [Nat.le_zero.mp hdiv] at hlog
      exact hlog rfl
    have hlt : num / den < 2 ^ (num' / den').log2 := by
      have hlog_le := log2_le_log2 hdiv
      exact Nat.lt_of_lt_of_le Nat.lt_log2_self (Nat.pow_le_pow_right (by decide) (by omega))
    exact Nat.le_trans (roundUnits_le_of_div_lt (gap_dvd_two_pow _) hlt)
      (two_pow_log2_le_roundUnits hne)

theorem roundUnits_le (hden : 0 < den) (hgrid : gap count ∣ count) (h : num ≤ count * den) :
    roundUnits num den ≤ count := by
  calc roundUnits num den
      ≤ roundUnits (count * den) den := roundUnits_mono hden hden (Nat.mul_le_mul_right den h)
    _ = count := roundUnits_mul hden hgrid

/-! ### Finite results -/

theorem unitsPerOne_pos : 0 < unitsPerOne := Nat.two_pow_pos _

theorem overflowUnits_pos : 0 < overflowUnits := Nat.two_pow_pos _

theorem roundUnits_zero (den : Nat) : roundUnits 0 den = 0 := by
  simp [roundUnits, nearestEven]

theorem ofQuotient_of_lt (negative : Bool)
    (h : roundUnits num den < overflowUnits) :
    ofQuotient negative num den
      = .finite negative (roundUnits num den) (representable_roundUnits h) :=
  dif_pos h

theorem ofQuotient_of_le (negative : Bool)
    (h : overflowUnits ≤ roundUnits num den) :
    ofQuotient negative num den = .infinity negative :=
  dif_neg (Nat.not_lt.mpr h)

end Retry.Binary64
