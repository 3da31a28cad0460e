import Retry.Proofs.Binary64.Rounding

/-!
# Neighbours on the grid

A representable count is a point of a grid whose gaps grow upwards; `next` is the point after it. A
quotient is rounded to at most a point if it is not past the middle between the point and the next
one (`roundUnits_le_iff`), which says both where a quotient goes and how far it is moved.
-/

namespace Retry.Binary64

open scoped NatPower

variable {num den count count' : Nat}

theorem gap_le_gap (h : count ≤ count') : gap count ≤ gap count' :=
  Nat.le_of_dvd (gap_pos count') (gap_dvd_gap h)

/-- Between two grid points there is at least the gap of the lower one. -/
theorem add_gap_le (hgrid : gap count ∣ count) (hgrid' : gap count' ∣ count') (h : count < count') :
    count + gap count ≤ count' := by
  obtain ⟨steps, hsteps⟩ := hgrid
  obtain ⟨steps', hsteps'⟩ := Nat.dvd_trans (gap_dvd_gap (Nat.le_of_lt h)) hgrid'
  have hlt : steps < steps' := by
    refine Nat.lt_of_mul_lt_mul_left (a := gap count) ?_
    rwa [← hsteps, ← hsteps']
  calc count + gap count = gap count * (steps + 1) := by rw [Nat.mul_succ, ← hsteps]
    _ ≤ gap count * steps' := Nat.mul_le_mul_left _ hlt
    _ = count' := hsteps'.symm

theorem add_gap_le_two_pow {exponent : Nat} (hgrid : gap count ∣ count) (h : count < 2 ^ exponent) :
    count + gap count ≤ 2 ^ exponent :=
  add_gap_le hgrid (gap_dvd_two_pow exponent) h

theorem lt_two_pow_of_log2_lt {exponent : Nat} (h : count.log2 < exponent) : count < 2 ^ exponent :=
  Nat.lt_of_lt_of_le Nat.lt_log2_self (Nat.pow_le_pow_right (by decide) h)

/-- **Where a quotient is rounded to**: to at most a grid point unless it is past the middle before
the next one, or in the middle while the point is odd. -/
theorem roundUnits_le_iff (hden : 0 < den) (hgrid : gap count ∣ count) :
    roundUnits num den ≤ count
      ↔ 2 * num < (2 * count + gap count) * den
        ∨ 2 * num = (2 * count + gap count) * den ∧ count / gap count % 2 = 0 := by
  have hfloor : num < (num / den + 1) * den := by
    rw [Nat.mul_comm]
    exact Nat.lt_mul_div_succ num hden
  rcases Nat.lt_trichotomy (num / den).log2 count.log2 with hlt | heq | hgt
  · -- The quotient is in a lower range, so it is below the point itself.
    have hlog : 2 ^ count.log2 ≤ count := Nat.log2_self_le (by rintro rfl; simp at hlt)
    have hdiv : num / den < count := Nat.lt_of_lt_of_le (lt_two_pow_of_log2_lt hlt) hlog
    have hle : (num / den + 1) * den ≤ count * den := Nat.mul_le_mul_right den hdiv
    have hgap := Nat.mul_pos (gap_pos count) hden
    rw [Nat.add_mul, Nat.mul_assoc]
    exact iff_of_true (roundUnits_le_of_div_lt hgrid hdiv) (Or.inl (by omega))
  · have hgap : gap (num / den) = gap count := by rw [gap, gap, heq]
    have hpos := gap_pos count
    obtain ⟨steps, hsteps⟩ := hgrid
    have hmiddle : (2 * steps + 1) * (den * gap count) = (2 * count + gap count) * den := by
      have hcount : 2 * count + gap count = (2 * steps + 1) * gap count := by
        rw [Nat.add_mul, Nat.one_mul, Nat.mul_assoc, Nat.mul_comm steps, ← hsteps]
      rw [hcount, Nat.mul_comm den, Nat.mul_assoc]
    have hsteps' : count = steps * gap count := by rw [Nat.mul_comm, ← hsteps]
    rw [roundUnits, hgap]
    calc nearestEven num (den * gap count) * gap count ≤ count
        ↔ nearestEven num (den * gap count) * gap count ≤ steps * gap count := by rw [← hsteps']
      _ ↔ nearestEven num (den * gap count) ≤ steps := Nat.mul_le_mul_right_iff hpos
      _ ↔ _ := by
        rw [nearestEven_le_iff (Nat.mul_pos hden hpos), hmiddle]
        rw [Nat.div_eq_of_eq_mul_right hpos hsteps]
  · -- The quotient is in a higher range, so it is past the next point.
    have hne : num / den ≠ 0 := by
      intro hzero
      simp [hzero] at hgt
    have hcount : count < 2 ^ (num / den).log2 := lt_two_pow_of_log2_lt hgt
    have hdiv : count + gap count ≤ num / den :=
      Nat.le_trans (add_gap_le_two_pow hgrid hcount) (Nat.log2_self_le hne)
    have hnum : (count + gap count) * den ≤ num :=
      Nat.le_trans (Nat.mul_le_mul_right den hdiv) (Nat.div_mul_le_self num den)
    have hgap := Nat.mul_pos (gap_pos count) hden
    have hround := two_pow_log2_le_roundUnits hne
    rw [Nat.add_mul] at hnum
    rw [Nat.add_mul, Nat.mul_assoc]
    exact iff_of_false (by omega) (by omega)

/-- A quotient is not moved down by more than half a gap. -/
theorem le_roundUnits (hden : 0 < den) :
    2 * num ≤ (2 * roundUnits num den + gap (roundUnits num den)) * den := by
  rcases (roundUnits_le_iff hden (gap_dvd_roundUnits num den)).mp (Nat.le_refl _) with h | h
  · exact Nat.le_of_lt h
  · exact Nat.le_of_eq h.1

theorem gap_dvd_unitsPerOne : gap unitsPerOne ∣ unitsPerOne := gap_dvd_two_pow fractionBits

/-- The grid point after a count. -/
def next (count : Nat) : Nat := count + gap count

theorem gap_dvd_next (hgrid : gap count ∣ count) : gap (next count) ∣ next count := by
  obtain ⟨steps, hsteps⟩ := hgrid
  have hlt := div_gap_lt count
  rw [Nat.div_eq_of_eq_mul_right (gap_pos count) hsteps] at hlt
  have hnext : next count = (steps + 1) * gap count := by
    rw [next, Nat.add_mul, Nat.one_mul, Nat.mul_comm steps, ← hsteps]
  rw [hnext]
  exact gap_dvd_mul_two_pow _ _ hlt

/-! ### Relative errors -/

theorem gap_eq_one_or_mul_le (count : Nat) :
    gap count = 1 ∨ gap count * 2 ^ (precision - 1) ≤ count := by
  rcases Nat.lt_or_ge count.log2 precision with hlow | hhigh
  · left
    rw [gap, Nat.sub_eq_zero_of_le hlow, Nat.pow_zero]
  · right
    have hlog : count.log2 + 1 - precision + (precision - 1) = count.log2 := by
      simp only [precision] at hhigh ⊢
      omega
    rw [gap, ← Nat.pow_add, hlog]
    refine Nat.log2_self_le ?_
    rintro rfl
    simp [precision] at hhigh

/-- Half a gap is at most the `2 ^ precision`-th part of the count. -/
theorem mul_le_of_two_mul_le (h : 2 * num ≤ 2 * count + gap count) :
    num * 2 ^ precision ≤ count * (2 ^ precision + 1) := by
  have hpow : 2 ^ precision = 2 * 2 ^ (precision - 1) := by decide
  rcases gap_eq_one_or_mul_le count with hone | hle
  · have hcount : num ≤ count := by omega
    exact Nat.le_trans (Nat.mul_le_mul_right _ hcount) (Nat.mul_le_mul_left _ (Nat.le_succ _))
  · have hscaled : 2 * num * 2 ^ (precision - 1) ≤ (2 * count + gap count) * 2 ^ (precision - 1) :=
      Nat.mul_le_mul_right _ h
    rw [hpow]
    generalize 2 ^ (precision - 1) = part at hle hscaled
    grind

theorem two_mul_nearestEven_le (num den : Nat) :
    2 * (nearestEven num den * den) ≤ 2 * num + den := by
  have hnum : den * (num / den) + num % den = num := Nat.div_add_mod num den
  rw [Nat.mul_comm _ den]
  simp only [nearestEven]
  split
  · omega
  · split
    · rw [Nat.mul_succ]; omega
    · split
      · omega
      · rw [Nat.mul_succ]; omega

/-- A whole count is not moved by more than its `2 ^ precision`-th part. -/
theorem le_mul_roundUnits (count : Nat) :
    count * 2 ^ precision ≤ roundUnits count 1 * (2 ^ precision + 1) := by
  have h : 2 * count ≤ (2 * roundUnits count 1 + gap (roundUnits count 1)) * 1 :=
    le_roundUnits Nat.one_pos
  rw [Nat.mul_one] at h
  exact mul_le_of_two_mul_le h

/-- A quotient is not moved up by more than half a gap. -/
theorem two_mul_roundUnits_le (num den : Nat) :
    2 * (roundUnits num den * den) ≤ 2 * num + den * gap (num / den) := by
  calc 2 * (roundUnits num den * den)
      = 2 * (nearestEven num (den * gap (num / den)) * (den * gap (num / den))) := by
        rw [roundUnits, Nat.mul_assoc, Nat.mul_comm den]
    _ ≤ 2 * num + den * gap (num / den) := two_mul_nearestEven_le num _

theorem roundUnits_mul_le (count : Nat) :
    roundUnits count 1 * 2 ^ precision ≤ count * (2 ^ precision + 1) := by
  have h := two_mul_roundUnits_le count 1
  rw [Nat.mul_one, Nat.one_mul, Nat.div_one] at h
  exact mul_le_of_two_mul_le h

/-- Two relative errors do not take a quotient past the middle behind the second next point. -/
theorem lt_next_next {num' den' : Nat} (hden : 0 < den) (hden' : 0 < den')
    (hgrid : gap count ∣ count) (h : 2 * num ≤ (2 * count + gap count) * den)
    (herror : num' * den * (2 ^ precision * 2 ^ precision)
      ≤ num * den' * ((2 ^ precision + 1) * (2 ^ precision + 1))) :
    2 * num' < (2 * next (next count) + gap (next (next count))) * den' := by
  obtain ⟨steps, hsteps⟩ := hgrid
  have hlt := div_gap_lt count
  rw [Nat.div_eq_of_eq_mul_right (gap_pos count) hsteps] at hlt
  have hgap : gap count ≤ gap (next (next count)) :=
    gap_le_gap (Nat.le_trans (Nat.le_add_right ..) (Nat.le_add_right ..))
  have hgap' : gap count ≤ gap (next count) := gap_le_gap (Nat.le_add_right ..)
  have hnext : 2 * count + 5 * gap count ≤ 2 * next (next count) + gap (next (next count)) := by
    simp only [next] at hgap hgap' ⊢
    omega
  have hpos : 0 < gap count := gap_pos count
  -- Where the point is the last one before a power of two, this is (2 ^ 54 - 1) * (2 ^ 54 + 1).
  have hsquare : (2 * count + gap count) * ((2 ^ precision + 1) * (2 ^ precision + 1))
      < (2 * count + 5 * gap count) * (2 ^ precision * 2 ^ precision) := by
    obtain ⟨rest, hrest⟩ : ∃ rest, 2 ^ precision = steps + 1 + rest := Nat.exists_eq_add_of_le hlt
    generalize gap count = g at hsteps hpos ⊢
    subst hsteps
    calc (2 * (g * steps) + g) * ((2 ^ precision + 1) * (2 ^ precision + 1))
        < (2 * (g * steps) + g) * ((2 ^ precision + 1) * (2 ^ precision + 1))
          + g * (4 * rest * rest + 4 * rest * steps + 6 * rest + 1) :=
          Nat.lt_add_of_pos_right (Nat.mul_pos hpos (Nat.succ_pos _))
      _ = (2 * (g * steps) + 5 * g) * (2 ^ precision * 2 ^ precision) := by
          rw [hrest]
          grind
  refine Nat.lt_of_mul_lt_mul_right (a := den * (2 ^ precision * 2 ^ precision)) ?_
  calc 2 * num' * (den * (2 ^ precision * 2 ^ precision))
      = 2 * (num' * den * (2 ^ precision * 2 ^ precision)) := by grind
    _ ≤ 2 * (num * den' * ((2 ^ precision + 1) * (2 ^ precision + 1))) :=
      Nat.mul_le_mul_left 2 herror
    _ = 2 * num * (den' * ((2 ^ precision + 1) * (2 ^ precision + 1))) := by grind
    _ ≤ (2 * count + gap count) * den * (den' * ((2 ^ precision + 1) * (2 ^ precision + 1))) :=
      Nat.mul_le_mul_right _ h
    _ = (2 * count + gap count) * ((2 ^ precision + 1) * (2 ^ precision + 1)) * (den * den') := by
      grind
    _ < (2 * count + 5 * gap count) * (2 ^ precision * 2 ^ precision) * (den * den') :=
      Nat.mul_lt_mul_of_pos_right hsquare (Nat.mul_pos hden hden')
    _ ≤ (2 * next (next count) + gap (next (next count))) * (2 ^ precision * 2 ^ precision)
        * (den * den') := Nat.mul_le_mul_right _ (Nat.mul_le_mul_right _ hnext)
    _ = (2 * next (next count) + gap (next (next count))) * den'
        * (den * (2 ^ precision * 2 ^ precision)) := by grind

end Retry.Binary64
