import Retry.Proofs.Binary64.Nearest
import Retry.Proofs.Decimal.Shortest

/-!
# The interval of a count

The interval of a count was made to be the set of all quotients that are rounded to the count. Here
it is shown that it is (`roundUnits_of_contains`): its ends lie in the middle before and behind the
count, and they belong to it only if no odd neighbour could lose a tie there.
-/

namespace Retry.Decimal

open scoped NatPower
open Binary64

variable {units count : Nat} {decimal : Decimal}

/-- A decimal is the quotient of these two in least units. -/
def numerator (decimal : Decimal) : Nat :=
  unitsPerOne * decimal.coefficient * 10 ^ decimal.exponent.toNat

def denominator (decimal : Decimal) : Nat := 10 ^ (-decimal.exponent).toNat

theorem denominator_pos (decimal : Decimal) : 0 < decimal.denominator := Nat.pow_pos (by decide)

namespace RoundingInterval

theorem contains_iff_quotient {interval : RoundingInterval} : interval.contains decimal = true ↔
    if interval.closed = true then
      interval.lower * decimal.denominator ≤ 4 * decimal.numerator
        ∧ 4 * decimal.numerator ≤ interval.upper * decimal.denominator
    else
      interval.lower * decimal.denominator < 4 * decimal.numerator
        ∧ 4 * decimal.numerator < interval.upper * decimal.denominator := by
  rw [contains_iff, numerator, denominator, Nat.mul_assoc 4, Nat.mul_assoc 4]

/-- Where the gap grows, the point before it is at most one of the smaller gaps away. -/
theorem le_lower_of_lt (hgrid : gap count ∣ count) (hunits : gap units ∣ units)
    (hgap : gap count < gap units) :
    4 * count + 2 * gap count ≤ (of units).lower
      ∧ (4 * count + 2 * gap count = (of units).lower →
        count + gap count = units ∧ 2 * gap count = gap units) := by
  have hlog : count.log2 < units.log2 := by
    refine Nat.lt_of_not_le fun hle => absurd hgap (Nat.not_lt.mpr ?_)
    exact Nat.pow_le_pow_right (by decide) (by omega)
  have hunits_ne : units ≠ 0 := by
    rintro rfl
    simp at hlog
  have hlow : 2 ^ units.log2 ≤ units := Nat.log2_self_le hunits_ne
  have hcount : count < 2 ^ units.log2 := lt_two_pow_of_log2_lt hlog
  have hstep := add_gap_le_two_pow hgrid hcount
  have hpos := gap_pos count
  have hle := gap_le (Nat.pos_of_ne_zero hunits_ne)
  simp only [of]
  split
  · next hnarrow =>
    obtain ⟨hpower, -⟩ := hnarrow
    rcases Nat.lt_or_eq_of_le (Nat.succ_le_of_lt hlog) with hfar | hnear
    · -- Two powers of two lie between the counts.
      have hhalf : count < 2 ^ (units.log2 - 1) := lt_two_pow_of_log2_lt (by omega)
      have hstep' := add_gap_le_two_pow hgrid hhalf
      have hdouble : 2 ^ units.log2 = 2 ^ (units.log2 - 1) * 2 := by
        rw [← Nat.pow_succ, Nat.succ_eq_add_one, Nat.sub_add_cancel (by omega)]
      omega
    · have hdouble : gap units = 2 * gap count := by
        have hexponent : units.log2 + 1 - precision = count.log2 + 1 - precision + 1 := by
          have hlarge : precision ≤ count.log2 + 1 := by
            refine Nat.le_of_not_lt fun hsmall => ?_
            have hone : gap units = 1 := by
              rw [gap, show units.log2 + 1 - precision = 0 by omega, Nat.pow_zero]
            omega
          omega
        rw [gap, gap, hexponent, Nat.pow_succ, Nat.mul_comm]
      omega
  · next hwide =>
    have hone : 1 < gap units := Nat.lt_of_le_of_lt hpos hgap
    have hlt : 2 ^ units.log2 < units :=
      Nat.lt_of_le_of_ne hlow fun heq => hwide ⟨heq.symm, hone⟩
    have hpower : gap (2 ^ units.log2) = gap units := by rw [gap, gap, Nat.log2_two_pow]
    have hnext := add_gap_le (gap_dvd_two_pow _) hunits hlt
    omega

/-- The lower end is not below the middle behind a grid point before the count, in quarters of a
unit. If it is that middle, the point and the count are not both even. -/
theorem le_lower (hgrid : gap count ∣ count) (hunits : gap units ∣ units) (h : count < units) :
    4 * count + 2 * gap count ≤ (of units).lower
      ∧ (4 * count + 2 * gap count = (of units).lower → count / gap count % 2 = 0 →
        units / gap units % 2 = 1) := by
  have hpos := gap_pos count
  rcases Nat.lt_or_eq_of_le (gap_le_gap (Nat.le_of_lt h)) with hgap | hgap
  · obtain ⟨hle, heq⟩ := le_lower_of_lt hgrid hunits hgap
    refine ⟨hle, fun hlower heven => ?_⟩
    obtain ⟨hnext, hdouble⟩ := heq hlower
    obtain ⟨steps, hsteps⟩ := hgrid
    obtain ⟨steps', hsteps'⟩ := hunits
    rw [Nat.div_eq_of_eq_mul_right hpos hsteps] at heven
    -- The count is an even number of the smaller gaps, so the point before it is an odd one.
    have hodd : steps + 1 = 2 * steps' := by
      refine Nat.eq_of_mul_eq_mul_left hpos ?_
      rw [Nat.mul_succ, ← hsteps, hnext, hsteps', ← hdouble]
      grind
    omega
  · have hstep := add_gap_le hgrid hunits h
    obtain ⟨steps, hsteps⟩ := hgrid
    obtain ⟨steps', hsteps'⟩ := hunits
    rw [← hgap] at hsteps' ⊢
    rw [Nat.div_eq_of_eq_mul_right hpos hsteps, Nat.div_eq_of_eq_mul_right hpos hsteps']
    have hlower : (of units).lower = 4 * units - 2 * gap count
        ∨ (of units).lower = 4 * units - gap count := by
      simp only [of, ← hgap]
      split
      · exact Or.inr rfl
      · exact Or.inl rfl
    refine ⟨by omega, fun heq heven => ?_⟩
    have hsucc : steps' = steps + 1 := by
      refine Nat.eq_of_mul_eq_mul_left hpos ?_
      rw [Nat.mul_succ, ← hsteps, ← hsteps']
      omega
    omega

end RoundingInterval

/-! ### Decimals in the interval -/

theorem ends_of_contains (h : (RoundingInterval.of units).contains decimal = true) :
    (RoundingInterval.of units).lower * decimal.denominator ≤ 4 * decimal.numerator
      ∧ 2 * decimal.numerator ≤ (2 * units + gap units) * decimal.denominator
      ∧ ((RoundingInterval.of units).lower * decimal.denominator = 4 * decimal.numerator
        ∨ 2 * decimal.numerator = (2 * units + gap units) * decimal.denominator →
          units / gap units % 2 = 0) := by
  have hupper : (RoundingInterval.of units).upper * decimal.denominator
      = 2 * ((2 * units + gap units) * decimal.denominator) := by
    rw [← Nat.mul_assoc]
    congr 1
    simp only [RoundingInterval.of]
    omega
  rw [RoundingInterval.contains_iff_quotient, hupper] at h
  split at h
  · next hclosed =>
    refine ⟨h.1, by omega, fun _ => ?_⟩
    simpa [RoundingInterval.of] using hclosed
  · exact ⟨by omega, by omega, by omega⟩

/-- **What lies in the interval of a count is rounded to it.** -/
theorem roundUnits_of_contains (hunits : gap units ∣ units)
    (h : (RoundingInterval.of units).contains decimal = true) :
    roundUnits decimal.numerator decimal.denominator = units := by
  have hden := denominator_pos decimal
  obtain ⟨hlower, hupper, htie⟩ := ends_of_contains h
  refine Nat.le_antisymm ((roundUnits_le_iff hden hunits).mpr ?_) (Nat.le_of_not_lt fun hlt => ?_)
  · rcases Nat.lt_or_eq_of_le hupper with hlt | heq
    · exact Or.inl hlt
    · exact Or.inr ⟨heq, htie (Or.inr heq)⟩
  · have hgrid := gap_dvd_roundUnits decimal.numerator decimal.denominator
    have hmiddle := (roundUnits_le_iff hden hgrid).mp (Nat.le_refl _)
    generalize roundUnits decimal.numerator decimal.denominator = count at hlt hgrid hmiddle
    obtain ⟨hend, hodd⟩ := RoundingInterval.le_lower hgrid hunits hlt
    have hend' := Nat.mul_le_mul_right decimal.denominator hend
    have hdouble : (4 * count + 2 * gap count) * decimal.denominator
        = 2 * ((2 * count + gap count) * decimal.denominator) := by grind
    rcases hmiddle with hmiddle | ⟨hmiddle, heven⟩
    · omega
    · -- A tie at the lower end would be between two even counts.
      have hlower' : (RoundingInterval.of units).lower * decimal.denominator
          = 4 * decimal.numerator := by omega
      have heq : 4 * count + 2 * gap count = (RoundingInterval.of units).lower :=
        Nat.eq_of_mul_eq_mul_right hden (by omega)
      have heven' := htie (Or.inl hlower')
      have hodd' := hodd heq heven
      omega

end Retry.Decimal
