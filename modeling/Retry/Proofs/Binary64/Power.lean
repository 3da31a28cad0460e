import Retry.Proofs.Binary64.Order

/-!
# Powers of growing exponents

The powers with the exponents `n` and `n + 1` are products of different numbers, each rounded, in
different orders; no law of exact powers relates them. What does is an invariant of the repeated
squaring: the product of the powers chosen so far is never above the next square. Where two
exponents differ for the last time, the lower one has a zero bit, and keeps a product that is not
above the square which the higher one takes in (`powBits_upTo`).
-/

namespace Retry.Binary64

open scoped NatPower

variable {base product product' : Binary64} {bits bits' exponent exponent' : Nat}

/-! ### The bits of an exponent -/

theorem powBits_zero (bits : Nat) (product base : Binary64) :
    powBits bits product base 0 = product := by
  cases bits with
  | zero => rfl
  | succ bits => rfl

theorem powBits_succ (bits : Nat) (product base : Binary64) (exponent : Nat) :
    powBits (bits + 1) product base exponent
      = powBits bits (if exponent % 2 = 1 then product * base else product) (base * base)
        (exponent / 2) := by
  rw [powBits]
  split
  · rename_i hzero
    rw [hzero, powBits_zero]
  · rfl

/-- More bits than the exponent has change nothing. -/
theorem powBits_of_lt (h : exponent < 2 ^ bits) (hle : bits ≤ bits') (product base : Binary64) :
    powBits bits' product base exponent = powBits bits product base exponent := by
  induction bits generalizing bits' exponent product base with
  | zero =>
      obtain rfl : exponent = 0 := by omega
      rw [powBits_zero, powBits_zero]
  | succ bits ih =>
      obtain ⟨more, rfl⟩ := Nat.exists_eq_add_of_le' hle
      rw [Nat.pow_succ] at h
      rw [← Nat.add_assoc, powBits_succ, powBits_succ]
      exact ih (by omega) (Nat.le_add_left _ _) _ _

theorem pow_eq_powBits (h : exponent < 2 ^ bits) (base : Binary64) :
    base ^ exponent = powBits bits 1 base exponent := by
  have hlog : exponent < 2 ^ (exponent.log2 + 1) := Nat.lt_log2_self
  change powBits (exponent.log2 + 1) 1 base exponent = _
  rcases Nat.le_total bits (exponent.log2 + 1) with hle | hle
  · exact powBits_of_lt h hle 1 base
  · exact (powBits_of_lt hlog hle 1 base).symm

/-! ### Growth -/

section Growth

theorem upTo_square (hbase : UpTo 1 base) : base.UpTo (base * base) :=
  (positive_one.of_upTo hbase).upTo_mul hbase

theorem one_upTo_square (hbase : UpTo 1 base) : UpTo 1 (base * base) :=
  hbase.trans (upTo_square hbase)

theorem one_upTo_step (hbase : UpTo 1 base) (hproduct : UpTo 1 product) (exponent : Nat) :
    UpTo 1 (if exponent % 2 = 1 then product * base else product) := by
  split
  · exact hproduct.trans ((positive_one.of_upTo hproduct).upTo_mul hbase)
  · exact hproduct

theorem upTo_powBits (hbase : UpTo 1 base) (hproduct : UpTo 1 product) (bits exponent : Nat) :
    product.UpTo (powBits bits product base exponent) := by
  induction bits generalizing product base exponent with
  | zero => exact (positive_one.of_upTo hproduct).upTo_self
  | succ bits ih =>
      have hpositive := positive_one.of_upTo hproduct
      rw [powBits_succ]
      refine UpTo.trans ?_ (ih (one_upTo_square hbase) (one_upTo_step hbase hproduct _) _)
      split
      · exact hpositive.upTo_mul hbase
      · exact hpositive.upTo_self

/-- A greater product stays greater under the same bits. -/
theorem powBits_upTo_powBits (hbase : UpTo 1 base) (hproduct : UpTo 1 product)
    (hle : product.UpTo product') (bits exponent : Nat) :
    (powBits bits product base exponent).UpTo (powBits bits product' base exponent) := by
  induction bits generalizing product product' base exponent with
  | zero => exact hle
  | succ bits ih =>
      have hpositive := positive_one.of_upTo hbase
      rw [powBits_succ, powBits_succ]
      refine ih (one_upTo_square hbase) (one_upTo_step hbase hproduct _) ?_ _
      split
      · exact UpTo.mul (positive_one.of_upTo hproduct) hpositive hle hpositive.upTo_self
      · exact hle

/-- **The invariant.** As long as the product of the lower bits is not above the next square, a
greater exponent gives a power that is not below, whatever product it starts from. -/
theorem powBits_upTo (hbase : UpTo 1 base) (hproduct : UpTo 1 product)
    (hproduct' : UpTo 1 product') (hle : product.UpTo base) (hlt : exponent < exponent')
    (hbits : exponent' < 2 ^ bits) :
    (powBits bits product base exponent).UpTo (powBits bits product' base exponent') := by
  induction bits generalizing product product' base exponent exponent' with
  | zero => omega
  | succ bits ih =>
      have hpositive := positive_one.of_upTo hproduct
      have hpositive' := positive_one.of_upTo hproduct'
      have hsquare := positive_one.of_upTo hbase
      rw [Nat.pow_succ] at hbits
      rw [powBits_succ, powBits_succ]
      have hhalves : exponent / 2 ≤ exponent' / 2 := Nat.div_le_div_right (Nat.le_of_lt hlt)
      rcases Nat.lt_or_eq_of_le hhalves with hhalf | hhalf
      · refine ih (one_upTo_square hbase) (one_upTo_step hbase hproduct _)
          (one_upTo_step hbase hproduct' _) ?_ hhalf (by omega)
        split
        · exact UpTo.mul hpositive hsquare hle hsquare.upTo_self
        · exact hle.trans (upTo_square hbase)
      · -- The exponents differ in this bit and in no higher one.
        rw [if_neg (by omega : ¬ exponent % 2 = 1), if_pos (by omega : exponent' % 2 = 1), hhalf]
        exact powBits_upTo_powBits (one_upTo_square hbase) hproduct
          (hle.trans (hsquare.upTo_mul_left hproduct')) bits _

/-- **Powers grow** with their exponents, as rounded as they are. -/
theorem pow_upTo_pow (hbase : UpTo 1 base) (hle : exponent ≤ exponent') :
    (base ^ exponent).UpTo (base ^ exponent') := by
  have hone := positive_one.upTo_self
  have hbits : exponent' < 2 ^ exponent' := Nat.lt_two_pow_self
  rw [pow_eq_powBits hbits, pow_eq_powBits (Nat.lt_of_le_of_lt hle hbits)]
  rcases Nat.lt_or_eq_of_le hle with hlt | rfl
  · exact powBits_upTo hbase hone hone hbase hlt hbits
  · exact powBits_upTo_powBits hbase hone hone _ _

theorem one_upTo_pow (hbase : UpTo 1 base) (exponent : Nat) : UpTo 1 (base ^ exponent) :=
  upTo_powBits hbase positive_one.upTo_self _ _

end Growth

/-! ### Powers that do not grow -/

theorem pow_zero (base : Binary64) : base ^ 0 = 1 := by
  rw [pow_eq_powBits (by decide : 0 < 2 ^ 0) base, powBits_zero]

/-- A number that is its own square has no other power. -/
theorem powBits_eq_self (hsquare : base * base = base) (bits exponent : Nat) :
    powBits bits base base exponent = base := by
  induction bits generalizing exponent with
  | zero => rfl
  | succ bits ih =>
      rw [powBits_succ, hsquare, ite_self]
      exact ih (exponent / 2)

theorem one_pow (exponent : Nat) : (1 : Binary64) ^ exponent = 1 := by
  rw [pow_eq_powBits Nat.lt_two_pow_self 1]
  exact powBits_eq_self positive_one.mul_one _ _

end Retry.Binary64
