import Retry.Proofs.Decimal.Length
import Retry.Proofs.Json.PrintedNumber

/-!
# Printed numbers of double precision

The numeral that is printed of a number stands for the shortest decimal of its count, in whatever
layout, so it lies in the interval of the count and has at most seventeen digits
(`Numeral.decimal_ofUnits`).
-/

namespace Retry

open scoped NatPower

/-- The same decimal with more zeros at the end of its coefficient. -/
def Decimal.pad (decimal : Decimal) (zeros : Nat) : Decimal :=
  ⟨decimal.coefficient * 10 ^ zeros, decimal.exponent - zeros⟩

@[simp]
theorem Decimal.pad_zero (decimal : Decimal) : decimal.pad 0 = decimal := by
  simp [pad]

theorem Decimal.contains_pad (interval : RoundingInterval) (decimal : Decimal) (zeros : Nat) :
    interval.contains (decimal.pad zeros) = interval.contains decimal := by
  induction zeros with
  | zero => rw [pad_zero]
  | succ zeros ih =>
      rw [← ih, pad, Nat.pow_succ, ← Nat.mul_assoc, RoundingInterval.contains_mul_ten, pad]
      congr 2
      omega

namespace Json

open Binary64
open Decimal (zeros RoundingInterval)

namespace Numeral

variable {negative : Bool} {digits : List Char} {leading : Int}

theorem decimal_positional (negative : Bool) (h : Significant digits) (leading : Int) :
    ∃ pad ≤ leading.toNat + 2 - digits.length, (positional negative digits h leading).decimal
      = Decimal.pad ⟨Nat.ofDigitChars 10 digits 0, leading - (digits.length - 1)⟩ pad := by
  have hpos : 0 < digits.length := List.length_pos_iff.mpr h.ne_nil
  unfold positional
  by_cases hleading : leading < 0
  · refine ⟨0, Nat.zero_le _, ?_⟩
    have hcoefficient : Nat.ofDigitChars 10 (['0'] ++ (zeros (-leading - 1).toNat ++ digits)) 0
        = Nat.ofDigitChars 10 digits 0 := by
      simp [Nat.ofDigitChars_append, ofDigitChars_zeros, Nat.ofDigitChars_cons]
    simp only [hleading, dif_pos, decimal, Option.getD_some, hcoefficient, Decimal.pad_zero,
      Decimal.mk.injEq, true_and, Option.elim_none, List.length_append]
    simp only [zeros, List.length_replicate]
    omega
  · by_cases hlength : digits.length ≤ leading.toNat + 1
    · refine ⟨leading.toNat + 2 - digits.length, Nat.le_refl _, ?_⟩
      simp [hleading, hlength, decimal, Nat.ofDigitChars_append, ofDigitChars_zeros,
          Nat.ofDigitChars_cons, Decimal.pad]
      have hlast : leading.toNat + 2 - digits.length = leading.toNat + 1 - digits.length + 1 := by
        omega
      rw [hlast, Nat.pow_succ]
      exact ⟨by grind, by omega⟩
    · refine ⟨0, Nat.zero_le _, ?_⟩
      simp [hleading, hlength, decimal]
      omega

theorem shift_eq {exponent : Exponent}
    (hsign : exponent.sign = some (if leading < 0 then '-' else '+'))
    (hdigits : exponent.digits = Decimal.digits leading.natAbs) : exponent.shift = leading := by
  have hvalue : Nat.ofDigitChars 10 (Decimal.digits leading.natAbs) 0 = leading.natAbs :=
    Nat.ofDigitChars_toDigits (by decide) (by decide)
  simp only [Exponent.shift, hsign, hdigits, hvalue]
  by_cases hneg : leading < 0
  · simp only [hneg, if_true]
    omega
  · simp [hneg]
    omega

theorem decimal_scientific (h : Significant digits) : (scientific negative digits h leading).decimal
    = ⟨Nat.ofDigitChars 10 digits 0, leading - (digits.length - 1)⟩ := by
  have hpos : 0 < digits.length := List.length_pos_iff.mpr h.ne_nil
  have hdigits : digits.take 1
      ++ ((if digits.length ≤ 1 then none else some (digits.drop 1)).getD []) = digits := by
    split
    · next hone => rw [Option.getD_none, List.append_nil, List.take_of_length_le hone]
    · rw [Option.getD_some, List.take_append_drop]
  have hlength := congrArg List.length hdigits
  rw [List.length_append, List.length_take] at hlength
  have hexponent : (scientific negative digits h leading).decimal.exponent
      = leading - ((if digits.length ≤ 1 then none else some (digits.drop 1)).getD []).length :=
    congrArg (· - _) (shift_eq rfl rfl)
  have hcoefficient : (scientific negative digits h leading).decimal.coefficient
      = Nat.ofDigitChars 10 digits 0 := congrArg (Nat.ofDigitChars 10 · 0) hdigits
  generalize (scientific negative digits h leading).decimal = decimal at hexponent hcoefficient
  obtain ⟨coefficient, exponent⟩ := decimal
  rw [Decimal.mk.injEq]
  exact ⟨hcoefficient, hexponent.trans (by omega)⟩

theorem decimal_ofDecimal (negative : Bool) {decimal : Decimal} (h : 0 < decimal.coefficient)
    (hlt : decimal.coefficient < 10 ^ (17 : Nat)) :
    ∃ pad, (ofDecimal negative decimal h).decimal = decimal.pad pad
      ∧ (decimal.pad pad).coefficient < 10 ^ (17 : Nat) := by
  have hdigits : Nat.ofDigitChars 10 (Decimal.digits decimal.coefficient) 0 = decimal.coefficient :=
    Nat.ofDigitChars_toDigits (by decide) (by decide)
  have hlength : decimal.coefficient < 10 ^ (Decimal.digits decimal.coefficient).length :=
    Decimal.lt_ten_pow_digitCount _
  have hexponent : decimal.exponent + ((Decimal.digits decimal.coefficient).length - 1)
      - ((Decimal.digits decimal.coefficient).length - 1) = decimal.exponent := by omega
  unfold ofDecimal
  simp only
  split
  · next hlayout =>
    obtain ⟨pad, hpad, heq⟩ := decimal_positional negative (significant_digits h)
      (decimal.exponent + ((Decimal.digits decimal.coefficient).length - 1))
    rw [hdigits, hexponent] at heq
    refine ⟨pad, heq, ?_⟩
    have hleading : decimal.exponent + ((Decimal.digits decimal.coefficient).length - 1) < 16 := by
      simp only [numberLayout, Bool.decide_and, Bool.and_eq_true, decide_eq_true_eq] at hlayout
      exact hlayout.2
    -- Zeros only fill up the places before the point and one behind it, at most seventeen.
    rcases Nat.eq_zero_or_pos pad with rfl | hpositive
    · rwa [Decimal.pad_zero]
    · calc decimal.coefficient * 10 ^ pad
          < 10 ^ (Decimal.digits decimal.coefficient).length * 10 ^ pad :=
            Nat.mul_lt_mul_of_pos_right hlength (Nat.pow_pos (by decide))
        _ = 10 ^ ((Decimal.digits decimal.coefficient).length + pad) := (Nat.pow_add ..).symm
        _ ≤ 10 ^ (17 : Nat) := Nat.pow_le_pow_right (by decide) (by omega)
  · refine ⟨0, ?_, by rwa [Decimal.pad_zero]⟩
    rw [decimal_scientific, hdigits, hexponent, Decimal.pad_zero]

/-- **What is printed of a number is the shortest decimal of its count**, up to zeros that the
layout asks for. The digits still are at most seventeen. -/
theorem decimal_ofUnits (negative : Bool) {units : Nat} (h : 0 < units) :
    (RoundingInterval.of units).contains (ofUnits negative units).decimal = true
      ∧ (ofUnits negative units).decimal.coefficient < 10 ^ (17 : Nat) := by
  obtain ⟨pad, heq, hlt⟩ := decimal_ofDecimal negative
    (Decimal.coefficient_shortest_pos numberLayout.tie h)
    (Decimal.coefficient_shortest_lt numberLayout.tie h)
  rw [ofUnits, dif_neg (Nat.ne_of_gt h), heq, Decimal.contains_pad]
  exact ⟨Decimal.contains_shortest _ h, hlt⟩

end Numeral

end Json

end Retry
