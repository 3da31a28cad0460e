import Retry.Proofs.Binary64.Arithmetic
import Retry.Proofs.Binary64.Sign

/-!
# Order and products

Numbers with a positive sign are ordered by their counts, and the infinite one is above all of them
(`UpTo`). The product of two numbers above zero grows with both of them (`UpTo.mul`), whether it is
rounded or too large. One is neutral, so a factor from one upwards makes nothing smaller.
-/

namespace Retry.Binary64

open scoped NatPower

variable {a b c d : Binary64} {num den num' den' x y : Nat} {hx : Representable x}
  {hy : Representable y}

/-- The order of the numbers with a positive sign. -/
inductive UpTo : Binary64 → Binary64 → Prop
  | finite {x y : Nat} {hx : Representable x} {hy : Representable y} (h : x ≤ y) :
      UpTo (.finite false x hx) (.finite false y hy)
  | below {x : Nat} {hx : Representable x} : UpTo (.finite false x hx) (.infinity false)
  | infinity : UpTo (.infinity false) (.infinity false)

inductive Positive : Binary64 → Prop
  | infinity : Positive (.infinity false)
  | finite {x : Nat} {hx : Representable x} (h : 0 < x) : Positive (.finite false x hx)

theorem Positive.notNegative (ha : a.Positive) : a.NotNegative := by
  cases ha with
  | infinity => exact .infinity
  | finite => exact .finite (Or.inl rfl)

theorem Positive.upTo_self (ha : a.Positive) : a.UpTo a := by
  cases ha with
  | infinity => exact .infinity
  | finite => exact .finite (Nat.le_refl _)

theorem Positive.of_upTo (ha : a.Positive) (h : a.UpTo b) : b.Positive := by
  cases h with
  | finite hle =>
      cases ha with
      | finite hpos => exact .finite (Nat.lt_of_lt_of_le hpos hle)
  | below => exact .infinity
  | infinity => exact .infinity

theorem UpTo.trans (hab : a.UpTo b) (hbc : b.UpTo c) : a.UpTo c := by
  cases hab with
  | finite hle =>
      cases hbc with
      | finite hle' => exact .finite (Nat.le_trans hle hle')
      | below => exact .below
  | below =>
      cases hbc with
      | infinity => exact .below
  | infinity => exact hbc

/-! ### Results of rounding -/

theorem ofQuotient_upTo_infinity (num den : Nat) :
    (ofQuotient false num den).UpTo (.infinity false) := by
  rcases Nat.lt_or_ge (roundUnits num den) overflowUnits with hlt | hge
  · rw [ofQuotient_of_lt false hlt]
    exact .below
  · rw [ofQuotient_of_le false hge]
    exact .infinity

theorem ofQuotient_upTo (hden : 0 < den) (hden' : 0 < den') (h : num * den' ≤ num' * den) :
    (ofQuotient false num den).UpTo (ofQuotient false num' den') := by
  have hround := roundUnits_mono hden hden' h
  rcases Nat.lt_or_ge (roundUnits num' den') overflowUnits with hlt | hge
  · rw [ofQuotient_of_lt false hlt, ofQuotient_of_lt false (Nat.lt_of_le_of_lt hround hlt)]
    exact .finite hround
  · rw [ofQuotient_of_le false hge]
    exact ofQuotient_upTo_infinity num den

/-- A representable count is not moved by the rounding. -/
theorem ofQuotient_mul (hx : Representable x) (hden : 0 < den) :
    ofQuotient false (x * den) den = .finite false x hx := by
  have hround := roundUnits_mul hden hx.gap_dvd
  rw [ofQuotient_of_lt false (by rw [hround]; exact hx.lt_overflow)]
  simp only [hround]

/-! ### Products -/

theorem infinity_mul (hb : b.Positive) : .infinity false * b = .infinity false := by
  cases hb with
  | infinity => rfl
  | finite h => exact if_neg (Nat.ne_of_gt h)

theorem mul_infinity (ha : a.Positive) : a * .infinity false = .infinity false := by
  cases ha with
  | infinity => rfl
  | finite h => exact if_neg (Nat.ne_of_gt h)

theorem mul_upTo_infinity (ha : a.Positive) (hb : b.Positive) : (a * b).UpTo (.infinity false) := by
  cases ha with
  | infinity =>
      rw [infinity_mul hb]
      exact .infinity
  | finite h =>
      cases hb with
      | infinity =>
          rw [mul_infinity (.finite h)]
          exact .infinity
      | finite =>
          rw [mul_finite]
          exact ofQuotient_upTo_infinity _ _

/-- **Products grow** with their factors. -/
theorem UpTo.mul (ha : a.Positive) (hb : b.Positive) (hac : a.UpTo c) (hbd : b.UpTo d) :
    (a * b).UpTo (c * d) := by
  have hd := hb.of_upTo hbd
  rcases hac with hle | _ | _
  · rcases hbd with hle' | _ | _
    · rw [mul_finite, mul_finite]
      exact ofQuotient_upTo unitsPerOne_pos unitsPerOne_pos
        (Nat.mul_le_mul_right _ (Nat.mul_le_mul hle hle'))
    · rw [mul_infinity (ha.of_upTo (.finite hle))]
      exact mul_upTo_infinity ha hb
    · rw [mul_infinity (ha.of_upTo (.finite hle))]
      exact mul_upTo_infinity ha hb
  · rw [infinity_mul hd]
    exact mul_upTo_infinity ha hb
  · rw [infinity_mul hd]
    exact mul_upTo_infinity ha hb

/-! ### Numbers from one upwards -/

theorem one_eq : (1 : Binary64)
    = .finite false (1 * unitsPerOne) (representable_mul_unitsPerOne (by decide)) := by
  change ofNat 1 = _
  exact ofNat_eq (n := 1) _

theorem positive_one : Positive 1 := by
  rw [one_eq]
  exact .finite (Nat.mul_pos Nat.one_pos unitsPerOne_pos)

theorem Positive.mul_one (ha : a.Positive) : a * 1 = a := by
  cases ha with
  | infinity => exact infinity_mul positive_one
  | finite =>
      rw [one_eq, mul_finite, Nat.one_mul]
      exact ofQuotient_mul _ unitsPerOne_pos

theorem Positive.one_mul (ha : a.Positive) : 1 * a = a := by
  cases ha with
  | infinity => exact mul_infinity positive_one
  | finite =>
      rw [one_eq, mul_finite, Nat.one_mul, Nat.mul_comm]
      exact ofQuotient_mul _ unitsPerOne_pos

theorem Positive.upTo_mul (ha : a.Positive) (hb : UpTo 1 b) : a.UpTo (a * b) := by
  have hle := UpTo.mul ha positive_one ha.upTo_self hb
  rwa [ha.mul_one] at hle

theorem Positive.upTo_mul_left (ha : a.Positive) (hb : UpTo 1 b) : a.UpTo (b * a) := by
  have hle := UpTo.mul positive_one ha hb ha.upTo_self
  rwa [ha.one_mul] at hle

theorem not_lt_one_iff {negative : Bool} {units : Nat} {representable : Representable units} :
    ¬ finite negative units representable < 1 ↔ negative = false ∧ unitsPerOne ≤ units := by
  have hone : signedUnits? 1 = some (unitsPerOne : Int) := by
    rw [one_eq, signedUnits?_of_sign (Or.inl rfl), Nat.one_mul]
  change ¬ Less _ 1 ↔ _
  rw [Less, hone]
  have hpos := unitsPerOne_pos
  generalize unitsPerOne = one at hpos
  cases negative with
  | true => simp [signedUnits?]; omega
  | false => simp [signedUnits?]

theorem upTo_one_of_not_lt (hfinite : a.isFinite = true) (h : ¬ a < 1) : UpTo 1 a := by
  cases a with
  | nan => cases hfinite
  | infinity => cases hfinite
  | finite negative units representable =>
      obtain ⟨rfl, hle⟩ := not_lt_one_iff.mp h
      rw [one_eq]
      exact .finite (by rwa [Nat.one_mul])

end Retry.Binary64
