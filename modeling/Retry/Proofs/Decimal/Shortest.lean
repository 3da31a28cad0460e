import Retry.Decimal.Shortest
import Retry.Proofs.Binary64.Rounding

/-!
# What the shortest decimal is

The search for the shortest decimal of a count tries one length after the other and takes the first
decimal that lies in the interval of the count. So the result lies there (`contains_shortest`), in
particular it is positive.
-/

namespace Retry.Decimal

open scoped NatPower
open Binary64

variable {units : Nat} {interval : RoundingInterval} {decimal : Decimal}

/-! ### The interval of a count -/

theorem gap_le (h : 0 < units) : gap units ≤ units := by
  have hlog : units.log2 + 1 - precision ≤ units.log2 := by
    simp only [precision]
    omega
  exact Nat.le_trans (Nat.pow_le_pow_right (by decide) hlog) (Nat.log2_self_le (by omega))

theorem RoundingInterval.two_mul_le_lower (h : 0 < units) : 2 * units ≤ (of units).lower := by
  have hgap := gap_le h
  simp only [of]
  split <;> omega

theorem RoundingInterval.lower_pos (h : 0 < units) : 0 < (of units).lower :=
  Nat.lt_of_lt_of_le (Nat.mul_pos Nat.two_pos h) (two_mul_le_lower h)

theorem RoundingInterval.lower_lt (h : 0 < units) : (of units).lower < 4 * units := by
  have hgap := gap_pos units
  simp only [of]
  split <;> omega

theorem RoundingInterval.lt_upper (units : Nat) : 4 * units < (of units).upper := by
  have hgap := gap_pos units
  simp only [of]
  omega

theorem RoundingInterval.contains_iff : interval.contains decimal = true ↔
    if interval.closed = true then
      interval.lower * 10 ^ (-decimal.exponent).toNat
          ≤ 4 * unitsPerOne * decimal.coefficient * 10 ^ decimal.exponent.toNat
        ∧ 4 * unitsPerOne * decimal.coefficient * 10 ^ decimal.exponent.toNat
          ≤ interval.upper * 10 ^ (-decimal.exponent).toNat
    else
      interval.lower * 10 ^ (-decimal.exponent).toNat
          < 4 * unitsPerOne * decimal.coefficient * 10 ^ decimal.exponent.toNat
        ∧ 4 * unitsPerOne * decimal.coefficient * 10 ^ decimal.exponent.toNat
          < interval.upper * 10 ^ (-decimal.exponent).toNat := by
  unfold contains
  split <;> simp

theorem RoundingInterval.pos_of_contains (h : 0 < units)
    (hcontains : (of units).contains decimal = true) : 0 < decimal.coefficient := by
  have hlower := Nat.mul_pos (lower_pos h) (Nat.pow_pos (n := (-decimal.exponent).toNat)
    (show 0 < 10 by decide))
  refine Nat.pos_of_ne_zero fun hzero => ?_
  rw [contains_iff, hzero, Nat.mul_zero, Nat.zero_mul] at hcontains
  split at hcontains <;> omega

/-- The zero at the end of a coefficient may as well be in the exponent. -/
theorem RoundingInterval.contains_mul_ten (interval : RoundingInterval) (coefficient : Nat)
    (exponent : Int) :
    interval.contains ⟨coefficient * 10, exponent⟩
      = interval.contains ⟨coefficient, exponent + 1⟩ := by
  rw [Bool.eq_iff_iff, contains_iff, contains_iff]
  rcases Int.lt_or_le exponent 0 with hneg | hnonneg
  · obtain ⟨places, hplaces⟩ : ∃ places, (-exponent).toNat = places + 1 :=
      ⟨(-exponent).toNat - 1, by omega⟩
    have hup : exponent.toNat = 0 := by omega
    have hup' : (exponent + 1).toNat = 0 := by omega
    have hdown : (-(exponent + 1)).toNat = places := by omega
    simp only [hplaces, hup, hup', hdown, Nat.pow_succ, Nat.pow_zero, Nat.mul_one, ← Nat.mul_assoc,
      Nat.mul_le_mul_right_iff (show 0 < 10 by decide),
      Nat.mul_lt_mul_right (show 0 < 10 by decide)]
  · have hdown : (-exponent).toNat = 0 := by omega
    have hdown' : (-(exponent + 1)).toNat = 0 := by omega
    have hup : (exponent + 1).toNat = exponent.toNat + 1 := by omega
    have hvalue : 4 * unitsPerOne * (coefficient * 10) * 10 ^ exponent.toNat
        = 4 * unitsPerOne * coefficient * 10 ^ (exponent.toNat + 1) := by
      rw [Nat.pow_succ, Nat.mul_comm (10 ^ exponent.toNat), ← Nat.mul_assoc, ← Nat.mul_assoc]
    simp only [hdown, hdown', hup, hvalue]

theorem contains_exactly (h : 0 < units) :
    (RoundingInterval.of units).contains (exactly units) = true := by
  have hten : unitsPerOne * 5 ^ fractionBits = 10 ^ fractionBits := by
    rw [unitsPerOne, ← Nat.mul_pow]
  have hvalue : 4 * unitsPerOne * (units * 5 ^ fractionBits) = 4 * units * 10 ^ fractionBits := by
    rw [Nat.mul_assoc, Nat.mul_left_comm unitsPerOne, hten, Nat.mul_assoc]
  have hpow : 0 < 10 ^ fractionBits := Nat.pow_pos (by decide)
  have hlower := Nat.mul_lt_mul_of_pos_right (RoundingInterval.lower_lt h) hpow
  have hupper := Nat.mul_lt_mul_of_pos_right (RoundingInterval.lt_upper units) hpow
  rw [RoundingInterval.contains_iff]
  simp only [exactly, Int.neg_neg, Int.toNat_natCast, Int.toNat_neg_natCast, Nat.pow_zero,
    Nat.mul_one, hvalue]
  split
  · exact ⟨Nat.le_of_lt hlower, Nat.le_of_lt hupper⟩
  · exact ⟨hlower, hupper⟩

/-! ### The search -/

theorem contains_dropZeros (interval : RoundingInterval) (steps : Nat) (decimal : Decimal) :
    interval.contains (dropZeros steps decimal) = interval.contains decimal := by
  induction steps generalizing decimal with
  | zero => rfl
  | succ steps ih =>
      rw [dropZeros]
      split
      · rename_i hzero
        rw [ih, ← RoundingInterval.contains_mul_ten,
          Nat.div_mul_cancel (Nat.dvd_of_mod_eq_zero hzero)]
      · rfl

theorem nearer_eq (tie : Tie) (units : Nat) (below above : Decimal) :
    nearer tie units below above = below ∨ nearer tie units below above = above := by
  unfold nearer
  simp only
  split
  · exact Or.inl rfl
  · split
    · exact Or.inr rfl
    · cases tie with
      | up => exact Or.inr rfl
      | even =>
          simp only
          split
          · exact Or.inl rfl
          · exact Or.inr rfl

theorem ofLength?_eq_some {tie : Tie} {length : Nat}
    (h : ofLength? tie units length = some decimal) :
    (RoundingInterval.of units).contains decimal = true
      ∧ (decimal.coefficient = coefficientBelow units (scaleOf units - length)
        ∨ decimal.coefficient = coefficientBelow units (scaleOf units - length) + 1) := by
  unfold ofLength? at h
  simp only at h
  generalize coefficientBelow units (scaleOf units - length) = coefficient at h ⊢
  split at h
  · next hbelow habove =>
    obtain rfl := Option.some.inj h
    rcases nearer_eq tie units ⟨coefficient, scaleOf units - length⟩
      ⟨coefficient + 1, scaleOf units - length⟩ with heq | heq
    · rw [heq]
      exact ⟨hbelow, Or.inl rfl⟩
    · rw [heq]
      exact ⟨habove, Or.inr rfl⟩
  · next hbelow _ =>
    obtain rfl := Option.some.inj h
    exact ⟨hbelow, Or.inl rfl⟩
  · next _ habove =>
    obtain rfl := Option.some.inj h
    exact ⟨habove, Or.inr rfl⟩
  · cases h

/-- **The shortest decimal lies in the interval of its count.** -/
theorem contains_shortest (tie : Tie) (h : 0 < units) :
    (RoundingInterval.of units).contains (shortest tie units) = true := by
  unfold shortest
  rw [contains_dropZeros]
  cases hfound : (List.range' 1 17).findSome? (ofLength? tie units) with
  | none =>
      rw [Option.getD_none]
      exact contains_exactly h
  | some decimal =>
      obtain ⟨length, -, hlength⟩ := List.exists_of_findSome?_eq_some hfound
      rw [Option.getD_some]
      exact (ofLength?_eq_some hlength).1

theorem coefficient_shortest_pos (tie : Tie) (h : 0 < units) :
    0 < (shortest tie units).coefficient :=
  RoundingInterval.pos_of_contains h (contains_shortest tie h)

end Retry.Decimal
