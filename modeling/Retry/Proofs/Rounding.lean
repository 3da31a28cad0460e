import Retry.Rounding

/-!
# Rounding to the nearest number

`nearestEven_le_iff` says what the rounding is without its algorithm: a number is not passed unless
the quotient lies more than halfway above it, or halfway above an odd one. Since only the value of
the quotient occurs there, the rounding is monotone.
-/

namespace Retry

variable {num den num' den' : Nat}

theorem nearestEven_le_iff (hden : 0 < den) (count : Nat) :
    nearestEven num den ≤ count
      ↔ 2 * num < (2 * count + 1) * den ∨ 2 * num = (2 * count + 1) * den ∧ count % 2 = 0 := by
  have hnum : den * (num / den) + num % den = num := Nat.div_add_mod num den
  have hrest : num % den < den := Nat.mod_lt num hden
  have hbounds := nearestEven_bounds num den
  rcases Nat.lt_trichotomy count (num / den) with hlt | rfl | hgt
  · have hmul : den * (count + 1) ≤ den * (num / den) := Nat.mul_le_mul_left den hlt
    rw [Nat.mul_add] at hmul
    rw [Nat.add_mul, Nat.mul_assoc, Nat.mul_comm count]
    omega
  · rw [Nat.add_mul, Nat.mul_assoc, Nat.mul_comm (num / den) den]
    simp only [nearestEven]
    split
    · omega
    · split
      · omega
      · split <;> omega
  · have hmul : den * (num / den + 1) ≤ den * count := Nat.mul_le_mul_left den hgt
    rw [Nat.mul_add] at hmul
    rw [Nat.add_mul, Nat.mul_assoc, Nat.mul_comm count]
    omega

/-- What is less than half away from a number is rounded to it. -/
theorem nearestEven_eq {count : Nat} (hden : 0 < den) (hbelow : 2 * num < (2 * count + 1) * den)
    (habove : 2 * count * den < 2 * num + den) : nearestEven num den = count := by
  refine Nat.le_antisymm ((nearestEven_le_iff hden count).mpr (Or.inl hbelow)) ?_
  apply Nat.le_of_not_lt
  intro hlt
  obtain ⟨less, rfl⟩ := Nat.exists_eq_add_one_of_ne_zero (Nat.ne_of_gt (Nat.zero_lt_of_lt hlt))
  have hless := (nearestEven_le_iff hden less).mp (Nat.le_of_lt_succ hlt)
  have hmiddle : 2 * (less + 1) * den = (2 * less + 1) * den + den := Nat.succ_mul ..
  omega

/-- **The rounding is monotone** in the value of the quotient. -/
theorem nearestEven_mono (hden : 0 < den) (hden' : 0 < den') (h : num * den' ≤ num' * den) :
    nearestEven num den ≤ nearestEven num' den' := by
  have hself := (nearestEven_le_iff hden' _).mp (Nat.le_refl (nearestEven num' den'))
  generalize nearestEven num' den' = count at hself ⊢
  rw [nearestEven_le_iff hden]
  have hnum : 2 * num * den' ≤ 2 * num' * den := by
    rw [Nat.mul_assoc, Nat.mul_assoc]
    exact Nat.mul_le_mul_left 2 h
  rcases hself with hlt | ⟨heq, heven⟩
  · left
    refine Nat.lt_of_mul_lt_mul_right (a := den') (Nat.lt_of_le_of_lt hnum ?_)
    rw [Nat.mul_right_comm (2 * count + 1)]
    exact Nat.mul_lt_mul_of_pos_right hlt hden
  · rw [heq, Nat.mul_right_comm (2 * count + 1)] at hnum
    rcases Nat.lt_or_eq_of_le (Nat.le_of_mul_le_mul_right hnum hden') with hlt | hle
    · exact Or.inl hlt
    · exact Or.inr ⟨hle, heven⟩

end Retry
