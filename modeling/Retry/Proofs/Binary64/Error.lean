import Retry.Proofs.Binary64.Nearest

/-!
# Relative errors

A rounding moves a number that is not too small by at most its `2 ^ precision`-th part. So a number
that was rounded some times on its way is that many roundings apart from the exact one
(`WithinRoundings`). Errors of this kind pass through sums and products as they are, and one after
the other they add up: the error of a computation is the number of its roundings.
-/

namespace Retry.Binary64

open scoped NatPower

variable {num den count first second x y z x' y' scale part : Nat}

/-- The first number exceeds the second one by at most `count` roundings. -/
def AtMostAbove (count x y : Nat) : Prop :=
  x * (2 ^ precision) ^ count ≤ y * (2 ^ precision + 1) ^ count

namespace AtMostAbove

theorem refl (count x : Nat) : AtMostAbove count x x :=
  Nat.mul_le_mul_left x (Nat.pow_le_pow_left (Nat.le_succ _) count)

/-- **One error after the other.** -/
theorem trans (h : AtMostAbove first x y) (h' : AtMostAbove second y z) :
    AtMostAbove (first + second) x z := by
  unfold AtMostAbove at *
  calc x * (2 ^ precision) ^ (first + second)
      = x * (2 ^ precision) ^ first * (2 ^ precision) ^ second := by rw [Nat.pow_add, Nat.mul_assoc]
    _ ≤ y * (2 ^ precision + 1) ^ first * (2 ^ precision) ^ second := Nat.mul_le_mul_right _ h
    _ = y * (2 ^ precision) ^ second * (2 ^ precision + 1) ^ first := Nat.mul_right_comm ..
    _ ≤ z * (2 ^ precision + 1) ^ second * (2 ^ precision + 1) ^ first := Nat.mul_le_mul_right _ h'
    _ = z * (2 ^ precision + 1) ^ (first + second) := by
      rw [Nat.pow_add, Nat.mul_assoc, Nat.mul_comm ((2 ^ precision + 1) ^ second)]

theorem add (h : AtMostAbove count x y) (h' : AtMostAbove count x' y') :
    AtMostAbove count (x + x') (y + y') := by
  unfold AtMostAbove at *
  rw [Nat.add_mul, Nat.add_mul]
  exact Nat.add_le_add h h'

theorem mul_right (h : AtMostAbove count x y) (scale : Nat) :
    AtMostAbove count (x * scale) (y * scale) := by
  unfold AtMostAbove at *
  rw [Nat.mul_right_comm, Nat.mul_right_comm y]
  exact Nat.mul_le_mul_right scale h

theorem of_mul_right (hscale : 0 < scale) (h : AtMostAbove count (x * scale) (y * scale)) :
    AtMostAbove count x y := by
  unfold AtMostAbove at *
  rw [Nat.mul_right_comm, Nat.mul_right_comm y] at h
  exact Nat.le_of_mul_le_mul_right h hscale

theorem of_le (h : AtMostAbove count x y) (hx : x' ≤ x) (hy : y ≤ y') : AtMostAbove count x' y' :=
  Nat.le_trans (Nat.mul_le_mul_right _ hx) (Nat.le_trans h (Nat.mul_le_mul_right _ hy))

/-- Some roundings together are less than a given part of a number. -/
theorem mul_le (h : AtMostAbove count x y)
    (hpart : part * (2 ^ precision + 1) ^ count ≤ (part + 1) * (2 ^ precision) ^ count) :
    x * part ≤ y * (part + 1) := by
  refine Nat.le_of_mul_le_mul_right ?_ (Nat.pow_pos (n := count) (Nat.two_pow_pos precision))
  calc x * part * (2 ^ precision) ^ count
      = x * (2 ^ precision) ^ count * part := Nat.mul_right_comm ..
    _ ≤ y * (2 ^ precision + 1) ^ count * part := Nat.mul_le_mul_right _ h
    _ = y * (part * (2 ^ precision + 1) ^ count) := by rw [Nat.mul_assoc, Nat.mul_comm part]
    _ ≤ y * ((part + 1) * (2 ^ precision) ^ count) := Nat.mul_le_mul_left _ hpart
    _ = y * (part + 1) * (2 ^ precision) ^ count := (Nat.mul_assoc ..).symm

end AtMostAbove

/-- Two numbers are at most `count` roundings apart. -/
structure WithinRoundings (count x y : Nat) : Prop where
  le : AtMostAbove count x y
  ge : AtMostAbove count y x

namespace WithinRoundings

theorem refl (count x : Nat) : WithinRoundings count x x := ⟨.refl count x, .refl count x⟩

theorem trans (h : WithinRoundings first x y) (h' : WithinRoundings second y z) :
    WithinRoundings (first + second) x z :=
  ⟨h.le.trans h'.le, Nat.add_comm second first ▸ h'.ge.trans h.ge⟩

theorem add (h : WithinRoundings count x y) (h' : WithinRoundings count x' y') :
    WithinRoundings count (x + x') (y + y') :=
  ⟨h.le.add h'.le, h.ge.add h'.ge⟩

theorem mul_right (h : WithinRoundings count x y) (scale : Nat) :
    WithinRoundings count (x * scale) (y * scale) :=
  ⟨h.le.mul_right scale, h.ge.mul_right scale⟩

theorem of_mul_right (hscale : 0 < scale) (h : WithinRoundings count (x * scale) (y * scale)) :
    WithinRoundings count x y :=
  ⟨h.le.of_mul_right hscale, h.ge.of_mul_right hscale⟩

end WithinRoundings

/-! ### One rounding -/

theorem two_mul_le_nearestEven (num : Nat) (hden : 0 < den) :
    2 * num ≤ 2 * (nearestEven num den * den) + den := by
  have hself := (nearestEven_le_iff hden _).mp (Nat.le_refl (nearestEven num den))
  have hmiddle : (2 * nearestEven num den + 1) * den = 2 * (nearestEven num den * den) + den := by
    rw [Nat.add_mul, Nat.one_mul, Nat.mul_assoc]
  omega

/-- A quotient is not moved down by more than half a gap of the grid it lies on. -/
theorem two_mul_le_roundUnits (num : Nat) (hden : 0 < den) :
    2 * num ≤ 2 * (roundUnits num den * den) + den * gap (num / den) := by
  calc 2 * num
      ≤ 2 * (nearestEven num (den * gap (num / den)) * (den * gap (num / den)))
        + den * gap (num / den) := two_mul_le_nearestEven num (Nat.mul_pos hden (gap_pos _))
    _ = 2 * (roundUnits num den * den) + den * gap (num / den) := by
      rw [roundUnits, Nat.mul_assoc, Nat.mul_comm den]

/-- Half a gap is at most one rounding. -/
theorem AtMostAbove.of_two_mul_le (h : 2 * x ≤ 2 * y + scale)
    (hscale : scale * 2 ^ (precision - 1) ≤ y) : AtMostAbove 1 x y := by
  have hpow : 2 ^ precision = 2 * 2 ^ (precision - 1) := by decide
  have hscaled := Nat.mul_le_mul_right (2 ^ (precision - 1)) h
  rw [Nat.add_mul, Nat.mul_assoc, Nat.mul_assoc] at hscaled
  rw [AtMostAbove, Nat.pow_one, Nat.pow_one, Nat.mul_succ, hpow, Nat.mul_left_comm x,
    Nat.mul_left_comm y]
  omega

theorem gap_mul_le (h : 2 ^ (precision - 1) ≤ count) : gap count * 2 ^ (precision - 1) ≤ count := by
  rcases gap_eq_one_or_mul_le count with hone | hle
  · rwa [hone, Nat.one_mul]
  · exact hle

/-- **One rounding** of a quotient that is not below the numbers of full precision. -/
theorem withinRoundings_roundUnits (hden : 0 < den) (hnormal : 2 ^ (precision - 1) * den ≤ num) :
    WithinRoundings 1 (roundUnits num den * den) num := by
  have hquotient : 2 ^ (precision - 1) ≤ num / den := (Nat.le_div_iff_mul_le hden).mpr hnormal
  have hround : 2 ^ (precision - 1) ≤ roundUnits num den := by
    rw [← roundUnits_mul hden (gap_dvd_two_pow (precision - 1))]
    exact roundUnits_mono hden hden (Nat.mul_le_mul_right den hnormal)
  have hback : 2 * num ≤ 2 * (roundUnits num den * den) + gap (roundUnits num den) * den := by
    rw [← Nat.mul_assoc, ← Nat.add_mul]
    exact le_roundUnits hden
  refine ⟨.of_two_mul_le (two_mul_roundUnits_le num den) ?_, .of_two_mul_le hback ?_⟩
  · calc den * gap (num / den) * 2 ^ (precision - 1)
        = den * (gap (num / den) * 2 ^ (precision - 1)) := Nat.mul_assoc ..
      _ ≤ den * (num / den) := Nat.mul_le_mul_left _ (gap_mul_le hquotient)
      _ ≤ num := Nat.mul_div_le num den
  · rw [Nat.mul_right_comm]
    exact Nat.mul_le_mul_right den (gap_mul_le hround)

theorem withinRoundings_roundUnits_one (count : Nat) :
    WithinRoundings 1 (roundUnits count 1) count := by
  refine ⟨?_, ?_⟩
  · rw [AtMostAbove, Nat.pow_one, Nat.pow_one]
    exact roundUnits_mul_le count
  · rw [AtMostAbove, Nat.pow_one, Nat.pow_one]
    exact le_mul_roundUnits count

end Retry.Binary64
