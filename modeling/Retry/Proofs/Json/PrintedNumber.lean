import Retry.Proofs.Json.Printed

/-!
# What printed numbers mean

A printed integer of 64 bits has its own value.
-/

namespace Retry.Json

open scoped NatPower
open Decimal (zeros)

/-! ### Digits -/

theorem le_ofDigitChars (digits : List Char) (number : Nat) :
    number ≤ Nat.ofDigitChars 10 digits number := by
  induction digits generalizing number with
  | nil => exact Nat.le_refl number
  | cons digit digits ih =>
      rw [Nat.ofDigitChars_cons]
      exact Nat.le_trans (by omega) (ih _)

/-- Digits are taken until the number would be too large, so all of them if it never is. -/
theorem absorb_of_lt {bound number : Nat} {digits : List Char}
    (h : Nat.ofDigitChars 10 digits number < bound) :
    absorb bound number digits = (Nat.ofDigitChars 10 digits number, []) := by
  induction digits generalizing number with
  | nil => rfl
  | cons digit digits ih =>
      rw [Nat.ofDigitChars_cons, Nat.mul_comm] at h ⊢
      have hnext : number * 10 + digitValue digit < bound :=
        Nat.lt_of_le_of_lt (le_ofDigitChars digits _) h
      rw [absorb]
      simp only [hnext, if_true]
      exact ih h

theorem ofDigitChars_zeros (number count : Nat) :
    Nat.ofDigitChars 10 (zeros count) number = number * 10 ^ count := by
  induction count generalizing number with
  | zero => exact (Nat.mul_one number).symm
  | succ count ih =>
      have hnext : 10 * number + ('0'.toNat - '0'.toNat) = number * 10 := by
        rw [Nat.sub_self, Nat.add_zero, Nat.mul_comm]
      rw [zeros, List.replicate_succ, Nat.ofDigitChars_cons, hnext, ← zeros, ih, Nat.pow_succ,
        Nat.mul_assoc, Nat.mul_comm 10]

/-! ### What a numeral means -/

/-- What the exponent of a numeral adds to its scale. -/
def Exponent.shift (exponent : Exponent) : Int :=
  let value := Nat.ofDigitChars 10 exponent.digits 0
  if exponent.sign = some '-' then -value else value

/-- The decimal that a numeral stands for, whatever a reader makes of it. -/
def Numeral.decimal (numeral : Numeral) : Decimal where
  coefficient := Nat.ofDigitChars 10 (numeral.whole ++ numeral.fraction.getD []) 0
  exponent := (numeral.exponent.elim 0 Exponent.shift) - (numeral.fraction.getD []).length

/-- Whether a reader takes a numeral as a number of double precision without losing a digit. -/
structure Numeral.Fits (numeral : Numeral) : Prop where
  not_integer : numeral.fraction.isSome ∨ numeral.exponent.isSome
  coefficient_lt : numeral.decimal.coefficient < UInt64.size
  shift_lt : ∀ exponent ∈ numeral.exponent,
    Nat.ofDigitChars 10 exponent.digits 0 < Reader.exponentBound
  exponent_le : numeral.decimal.exponent.natAbs < Reader.exponentBound

namespace Numeral

variable {numeral : Numeral}

theorem parts_of_lt (h : numeral.decimal.coefficient < UInt64.size) :
    numeral.parts = (numeral.decimal.coefficient, -((numeral.fraction.getD []).length : Int)) := by
  have happend : numeral.decimal.coefficient = Nat.ofDigitChars 10 (numeral.fraction.getD [])
      (Nat.ofDigitChars 10 numeral.whole 0) := Nat.ofDigitChars_append ..
  rw [happend] at h ⊢
  have hwhole := absorb_of_lt (Nat.lt_of_le_of_lt (le_ofDigitChars _ _) h)
  unfold parts
  rw [hwhole]
  cases hfraction : numeral.fraction with
  | none => rfl
  | some digits =>
      rw [hfraction] at h
      simp only [Option.getD_some] at h ⊢
      rw [absorb_of_lt h]
      simp

theorem clampExponent_of_lt {exponent : Int} (h : exponent.natAbs < Reader.exponentBound) :
    Reader.clampExponent exponent = exponent := by
  unfold Reader.clampExponent
  omega

/-- **A numeral that fits is read as its significand times a power of ten.** -/
theorem value?_of_fits (h : numeral.Fits) : numeral.value?
    = (floatOf numeral.negative numeral.decimal.coefficient numeral.decimal.exponent).map
      .float := by
  have hparts := parts_of_lt h.coefficient_lt
  unfold value?
  rw [hparts]
  have hfloat : ¬ (numeral.fraction.isNone = true ∧ numeral.exponent.isNone = true
      ∧ -((numeral.fraction.getD []).length : Int) = 0) := by
    rintro ⟨hfraction, hexponent, -⟩
    rcases h.not_integer with hsome | hsome <;> simp_all
  simp only [hfloat, if_false]
  congr 1
  unfold float?
  cases hexponent : numeral.exponent with
  | none =>
      have hscale : numeral.decimal.exponent = -((numeral.fraction.getD []).length : Int) := by
        simp [decimal, hexponent]
      rw [hscale]
  | some exponent =>
      have hscale : numeral.decimal.exponent
          = exponent.shift - ((numeral.fraction.getD []).length : Int) := by
        simp [decimal, hexponent]
      have hclamp := clampExponent_of_lt h.exponent_le
      have habsorb := absorb_of_lt (h.shift_lt exponent hexponent)
      simp only [Exponent.value?, habsorb, List.isEmpty_nil, if_true]
      rw [← hclamp, hscale]
      congr 2
      unfold Exponent.shift
      split <;> simp_all <;> omega

end Numeral

/-! ### Integers -/

/-- An integer of 64 bits, with or without a sign, is read as it was printed. -/
theorem Numeral.value?_ofInt {value : Int} (hlower : Int64.minValue.toInt ≤ value)
    (hupper : value < UInt64.size) : (ofInt value).value? = some (.integer value) := by
  have hdigits : Nat.ofDigitChars 10 (Nat.toDigits 10 value.natAbs) 0 = value.natAbs :=
    Nat.ofDigitChars_toDigits (by decide) (by decide)
  have hsize : UInt64.size = 18446744073709551616 := rfl
  have hleast : Int64.minValue.toInt = -9223372036854775808 := rfl
  have habsorb : absorb UInt64.size 0 (Nat.toDigits 10 value.natAbs) = (value.natAbs, []) := by
    rw [absorb_of_lt (by rw [hdigits]; omega), hdigits]
  simp only [value?, parts, ofInt, habsorb, Option.isNone_none, List.length_nil, Int.natCast_zero,
    and_self, if_true]
  unfold integerOf
  rcases Int.lt_or_le value 0 with hneg | hnonneg
  · have hlarge : ¬ (value.natAbs = 0 ∨ UInt64.size / 2 < value.natAbs) := by omega
    have hvalue : -(value.natAbs : Int) = value := by omega
    simp only [hneg, hlarge, hvalue, decide_true, Bool.not_true, Bool.false_eq_true, if_false]
  · have hvalue : (value.natAbs : Int) = value := by omega
    simp [Int.not_lt.mpr hnonneg, hvalue]

end Retry.Json
