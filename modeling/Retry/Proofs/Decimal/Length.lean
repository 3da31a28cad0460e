import Retry.Proofs.Decimal.Interval

/-!
# Seventeen digits

Among the decimals of seventeen digits two neighbours are closer to each other than two
representable counts, so one of the neighbours of a count lies in its interval. Hence the search
never fails, and the shortest decimal has at most seventeen digits (`coefficient_shortest_lt`).
-/

namespace Retry.Decimal

open scoped NatPower
open Binary64

variable {units : Nat} {decimal : Decimal}

theorem digitCount_pos (n : Nat) : 0 < digitCount n := Nat.length_toDigits_pos

theorem lt_ten_pow_digitCount (n : Nat) : n < 10 ^ digitCount n :=
  (Nat.length_toDigits_le_iff (by decide) (digitCount_pos n)).mp (Nat.le_refl _)

theorem ten_pow_le_of_digitCount {n : Nat} (h : 0 < n) : 10 ^ (digitCount n - 1) ≤ n := by
  rcases Nat.lt_or_ge 1 (digitCount n) with hlarge | hone
  · refine Nat.le_of_not_lt fun hlt => ?_
    have hle := (Nat.length_toDigits_le_iff (by decide) (by omega)).mpr hlt
    change digitCount n ≤ digitCount n - 1 at hle
    omega
  · rw [Nat.sub_eq_zero_of_le hone]
    exact h

/-! ### The scale of a count -/

/-- The value of a count, moved up so far that it is not below one. -/
def lifted (units : Nat) : Nat := units * 10 ^ liftingPlaces / unitsPerOne

theorem lifted_pos (h : 0 < units) : 0 < lifted units := by
  have hone : unitsPerOne ≤ 10 ^ liftingPlaces := by decide +kernel
  refine Nat.div_pos (Nat.le_trans hone ?_) unitsPerOne_pos
  exact Nat.le_mul_of_pos_left _ h

/-- The grid of the decimals of a length, at the place of a count: how the powers of ten go
together. -/
theorem ten_pow_scale (units length : Nat) :
    10 ^ (-(scaleOf units - length)).toNat * 10 ^ digitCount (lifted units)
      = 10 ^ (scaleOf units - length).toNat * 10 ^ liftingPlaces * 10 ^ length := by
  rw [← Nat.pow_add, ← Nat.pow_add, ← Nat.pow_add]
  congr 1
  have hscale : scaleOf units = digitCount (lifted units) - liftingPlaces := rfl
  omega

/-- A count of which all digits but the first `length` are dropped has `length` digits. -/
theorem coefficientBelow_lt (units length : Nat) :
    coefficientBelow units (scaleOf units - length) < 10 ^ length := by
  have hlifted : units * 10 ^ liftingPlaces < 10 ^ digitCount (lifted units) * unitsPerOne :=
    (Nat.div_lt_iff_lt_mul unitsPerOne_pos).mp (lt_ten_pow_digitCount _)
  have hpow := ten_pow_scale units length
  have hup : 0 < 10 ^ (scaleOf units - length).toNat := Nat.pow_pos (by decide)
  rw [coefficientBelow, Nat.div_lt_iff_lt_mul (Nat.mul_pos unitsPerOne_pos hup)]
  generalize 10 ^ (-(scaleOf units - length)).toNat = down at hpow ⊢
  generalize 10 ^ (scaleOf units - length).toNat = up at hpow hup ⊢
  generalize 10 ^ digitCount (lifted units) = lift at hlifted hpow
  have hlift : 0 < up * 10 ^ length := Nat.mul_pos hup (Nat.pow_pos (by decide))
  refine Nat.lt_of_mul_lt_mul_right (a := lift) ?_
  calc units * down * lift
      = units * 10 ^ liftingPlaces * (up * 10 ^ length) := by
        rw [Nat.mul_assoc, hpow]
        grind
    _ < lift * unitsPerOne * (up * 10 ^ length) := Nat.mul_lt_mul_of_pos_right hlifted hlift
    _ = 10 ^ length * (unitsPerOne * up) * lift := by grind

/-- Two neighbours of seventeen digits differ by at most the `10 ^ 16`-th part of the count. -/
theorem step_mul_le (h : 0 < units) :
    unitsPerOne * 10 ^ (scaleOf units - (17 : Nat)).toNat * 10 ^ (16 : Nat)
      ≤ units * 10 ^ (-(scaleOf units - (17 : Nat))).toNat := by
  have hlifted : 10 ^ (digitCount (lifted units) - 1) * unitsPerOne ≤ units * 10 ^ liftingPlaces :=
    (Nat.le_div_iff_mul_le unitsPerOne_pos).mp (ten_pow_le_of_digitCount (lifted_pos h))
  have hpow := ten_pow_scale units 17
  have hdigits := digitCount_pos (lifted units)
  have hlast : 10 ^ digitCount (lifted units) = 10 ^ (digitCount (lifted units) - 1) * 10 := by
    rw [← Nat.pow_succ, Nat.succ_eq_add_one, Nat.sub_add_cancel hdigits]
  rw [hlast] at hpow
  have hlift : 0 < 10 ^ (digitCount (lifted units) - 1) := Nat.pow_pos (by decide)
  generalize 10 ^ (-(scaleOf units - (17 : Nat))).toNat = down at hpow ⊢
  generalize 10 ^ (scaleOf units - (17 : Nat)).toNat = up at hpow ⊢
  generalize 10 ^ (digitCount (lifted units) - 1) = lift at hlifted hlift hpow
  generalize 10 ^ liftingPlaces = places at hlifted hpow
  refine Nat.le_of_mul_le_mul_right (c := lift) ?_ hlift
  calc unitsPerOne * up * 10 ^ (16 : Nat) * lift
      = lift * unitsPerOne * (up * 10 ^ (16 : Nat)) := by grind
    _ ≤ units * places * (up * 10 ^ (16 : Nat)) := Nat.mul_le_mul_right _ hlifted
    _ = units * down * lift := by
        refine Nat.eq_of_mul_eq_mul_right (show 0 < 10 by decide) ?_
        grind

/-! ### The neighbours of a count -/

theorem lt_mul_gap (units : Nat) : units < 2 ^ precision * gap units :=
  (Nat.div_lt_iff_lt_mul (gap_pos units)).mp (div_gap_lt units)

/-- Where the lower half of the interval is narrow, the count is the least of its grid. -/
theorem mul_two_le_of_narrow (hpower : units = 2 ^ units.log2) (hgap : 1 < gap units) :
    units * 2 ≤ 2 ^ precision * gap units := by
  have hlog : precision - 1 < units.log2 := by
    refine Nat.lt_of_not_le fun hle => ?_
    have hone : gap units = 1 := by
      rw [gap, Nat.sub_eq_zero_of_le (by simp only [precision] at hle ⊢; omega), Nat.pow_zero]
    omega
  have hexponent : precision + (units.log2 + 1 - precision) = units.log2 + 1 := by
    simp only [precision] at hlog ⊢
    omega
  refine Nat.le_of_eq ?_
  rw [gap, ← Nat.pow_add, hexponent, Nat.pow_succ, ← hpower]

theorem contains_of_between (units coefficient : Nat) (exponent : Int)
    (hlower : (RoundingInterval.of units).lower * 10 ^ (-exponent).toNat
      < 4 * (coefficient * (unitsPerOne * 10 ^ exponent.toNat)))
    (hupper : 4 * (coefficient * (unitsPerOne * 10 ^ exponent.toNat))
      < (RoundingInterval.of units).upper * 10 ^ (-exponent).toNat) :
    (RoundingInterval.of units).contains ⟨coefficient, exponent⟩ = true := by
  have hnum : numerator ⟨coefficient, exponent⟩
      = coefficient * (unitsPerOne * 10 ^ exponent.toNat) := by
    rw [numerator, Nat.mul_comm unitsPerOne, Nat.mul_assoc]
  rw [RoundingInterval.contains_iff_quotient, hnum, denominator]
  split
  · exact ⟨Nat.le_of_lt hlower, Nat.le_of_lt hupper⟩
  · exact ⟨hlower, hupper⟩

theorem ten_pow_large : 2 ^ precision < 10 ^ (16 : Nat) := by decide

section

variable {places step : Nat} (hstep : step * 10 ^ (16 : Nat) ≤ units * places)
include hstep

theorem step_lt_gap (hplaces : 0 < places) : step < gap units * places := by
  refine Nat.lt_of_mul_lt_mul_right (a := 10 ^ (16 : Nat)) ?_
  calc step * 10 ^ (16 : Nat) ≤ units * places := hstep
    _ < 2 ^ precision * gap units * places := Nat.mul_lt_mul_of_pos_right (lt_mul_gap units) hplaces
    _ = gap units * places * 2 ^ precision := by rw [Nat.mul_assoc, Nat.mul_comm]
    _ ≤ gap units * places * 10 ^ (16 : Nat) := Nat.mul_le_mul_left _ (Nat.le_of_lt ten_pow_large)

theorem two_mul_step_lt_gap (hplaces : 0 < places) (hpower : units = 2 ^ units.log2)
    (hgap : 1 < gap units) : 2 * step < gap units * places := by
  have hwidth := Nat.mul_pos (gap_pos units) hplaces
  refine Nat.lt_of_mul_lt_mul_right (a := 10 ^ (16 : Nat)) ?_
  calc 2 * step * 10 ^ (16 : Nat) = step * 10 ^ (16 : Nat) * 2 := by grind
    _ ≤ units * places * 2 := Nat.mul_le_mul_right 2 hstep
    _ = units * 2 * places := Nat.mul_right_comm ..
    _ ≤ 2 ^ precision * gap units * places :=
      Nat.mul_le_mul_right _ (mul_two_le_of_narrow hpower hgap)
    _ = gap units * places * 2 ^ precision := by rw [Nat.mul_assoc, Nat.mul_comm]
    _ < gap units * places * 10 ^ (16 : Nat) := Nat.mul_lt_mul_of_pos_left ten_pow_large hwidth

end

theorem lower_mul (units places : Nat) :
    units = 2 ^ units.log2 ∧ 1 < gap units
        ∧ (RoundingInterval.of units).lower * places
          = 4 * (units * places) - gap units * places
      ∨ (RoundingInterval.of units).lower * places
        = 4 * (units * places) - 2 * (gap units * places) := by
  simp only [RoundingInterval.of]
  split
  · next hnarrow =>
    exact Or.inl ⟨hnarrow.1, hnarrow.2, by simp only [Nat.sub_mul, Nat.mul_assoc]⟩
  · exact Or.inr (by simp only [Nat.sub_mul, Nat.mul_assoc])

theorem upper_mul (units places : Nat) : (RoundingInterval.of units).upper * places
    = 4 * (units * places) + 2 * (gap units * places) := by
  simp only [RoundingInterval.of, Nat.add_mul, Nat.mul_assoc]

/-- Neighbouring decimals that are closer than the interval is wide: one of them is in it. -/
theorem contains_below_or_above {below : Nat} {exponent : Int} (h : 0 < units)
    (hbelow : below * (unitsPerOne * 10 ^ exponent.toNat) ≤ units * 10 ^ (-exponent).toNat)
    (habove : units * 10 ^ (-exponent).toNat < (below + 1) * (unitsPerOne * 10 ^ exponent.toNat))
    (hstep : unitsPerOne * 10 ^ exponent.toNat * 10 ^ (16 : Nat) ≤ units * 10 ^ (-exponent).toNat) :
    (RoundingInterval.of units).contains ⟨below, exponent⟩ = true
      ∨ (RoundingInterval.of units).contains ⟨below + 1, exponent⟩ = true := by
  have hplaces : 0 < 10 ^ (-exponent).toNat := Nat.pow_pos (by decide)
  have hclose := step_lt_gap hstep hplaces
  have hhalf := two_mul_step_lt_gap hstep hplaces
  have hwidth := Nat.mul_le_mul_right (10 ^ (-exponent).toNat) (gap_le h)
  have hlower := lower_mul units (10 ^ (-exponent).toNat)
  have hnext : (below + 1) * (unitsPerOne * 10 ^ exponent.toNat)
      = below * (unitsPerOne * 10 ^ exponent.toNat) + unitsPerOne * 10 ^ exponent.toNat :=
    Nat.succ_mul ..
  have hbelow' := contains_of_between units below exponent
  have habove' := contains_of_between units (below + 1) exponent
  rw [hnext] at habove habove'
  rw [upper_mul] at hbelow' habove'
  generalize units * 10 ^ (-exponent).toNat = value at *
  generalize gap units * 10 ^ (-exponent).toNat = width at *
  generalize unitsPerOne * 10 ^ exponent.toNat = step at *
  generalize below * step = low at *
  rcases hlower with ⟨hpower, hgap, hlower⟩ | hlower
  · -- The lower half is half as wide, so it is the decimal above that is sure to be inside.
    have hnear := hhalf hpower hgap
    exact Or.inr (habove' (by omega) (by omega))
  · by_cases hfar : 4 * low ≤ 4 * value - 2 * width
    · exact Or.inr (habove' (by omega) (by omega))
    · exact Or.inl (hbelow' (by omega) (by omega))

theorem contains_neighbour {exponent : Int} (h : 0 < units)
    (hstep : unitsPerOne * 10 ^ exponent.toNat * 10 ^ (16 : Nat) ≤ units * 10 ^ (-exponent).toNat) :
    (RoundingInterval.of units).contains ⟨coefficientBelow units exponent, exponent⟩ = true
      ∨ (RoundingInterval.of units).contains ⟨coefficientBelow units exponent + 1, exponent⟩
        = true := by
  have hpos : 0 < unitsPerOne * 10 ^ exponent.toNat :=
    Nat.mul_pos unitsPerOne_pos (Nat.pow_pos (by decide))
  refine contains_below_or_above h ?_ ?_ hstep
  · exact Nat.div_mul_le_self ..
  · exact Nat.lt_mul_of_div_lt (Nat.lt_succ_self _) hpos

theorem ofLength?_isSome {tie : Tie} {length : Nat}
    (hcontains : (RoundingInterval.of units).contains
        ⟨coefficientBelow units (scaleOf units - length), scaleOf units - length⟩ = true
      ∨ (RoundingInterval.of units).contains
        ⟨coefficientBelow units (scaleOf units - length) + 1, scaleOf units - length⟩ = true) :
    (ofLength? tie units length).isSome = true := by
  unfold ofLength?
  simp only
  generalize (RoundingInterval.of units).contains _ = below at hcontains ⊢
  generalize (RoundingInterval.of units).contains _ = above at hcontains ⊢
  cases below with
  | true => cases above <;> rfl
  | false =>
      obtain rfl : above = true := by simpa using hcontains
      rfl

theorem ofLength?_seventeen (tie : Tie) (h : 0 < units) :
    (ofLength? tie units 17).isSome = true := by
  have hneighbour := contains_neighbour h (step_mul_le h)
  exact ofLength?_isSome hneighbour

/-! ### The length of the shortest decimal -/

theorem coefficient_le_of_ofLength? {tie : Tie} {length : Nat}
    (h : ofLength? tie units length = some decimal) : decimal.coefficient ≤ 10 ^ length := by
  have hlt := coefficientBelow_lt units length
  rcases (ofLength?_eq_some h).2 with heq | heq
  · rw [heq]
    exact Nat.le_of_lt hlt
  · rw [heq]
    exact Nat.succ_le_of_lt hlt

theorem coefficient_dropZeros_le (steps : Nat) (decimal : Decimal) :
    (dropZeros steps decimal).coefficient ≤ decimal.coefficient := by
  induction steps generalizing decimal with
  | zero => exact Nat.le_refl _
  | succ steps ih =>
      rw [dropZeros]
      split
      · exact Nat.le_trans (ih _) (Nat.div_le_self _ _)
      · exact Nat.le_refl _

/-- **The shortest decimal has at most seventeen digits.** -/
theorem coefficient_shortest_lt (tie : Tie) (h : 0 < units) :
    (shortest tie units).coefficient < 10 ^ (17 : Nat) := by
  have hfound : ∃ decimal, (List.range' 1 17).findSome? (ofLength? tie units) = some decimal := by
    rw [← Option.isSome_iff_exists, List.findSome?_isSome_iff]
    exact ⟨17, by decide, ofLength?_seventeen tie h⟩
  obtain ⟨decimal, hdecimal⟩ := hfound
  obtain ⟨length, hmem, hlength⟩ := List.exists_of_findSome?_eq_some hdecimal
  have hle : decimal.coefficient ≤ 10 ^ (17 : Nat) := by
    refine Nat.le_trans (coefficient_le_of_ofLength? hlength) (Nat.pow_le_pow_right (by decide) ?_)
    rw [List.mem_range'_1] at hmem
    omega
  rw [shortest, hdecimal, Option.getD_some, dropZeros]
  split
  · -- Even `10 ^ 17` itself has a zero to drop.
    refine Nat.lt_of_le_of_lt (coefficient_dropZeros_le _ _) ?_
    simp only
    omega
  · next hzero =>
    refine Nat.lt_of_le_of_ne hle ?_
    rintro heq
    rw [heq] at hzero
    exact hzero (by decide)

end Retry.Decimal
