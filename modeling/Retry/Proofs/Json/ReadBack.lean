import Retry.Proofs.Binary64.Arithmetic
import Retry.Proofs.Json.PrintedFloat

/-!
# Printed numbers that are read back

A number is read as its significand times or by a power of ten. Both are rounded, and so is the
result, so the number that is read may differ from the one that was printed. It is never more than
the second neighbour, never too large and never on the other side of one
(`Numeral.exists_value?_ofUnits`). If neither the significand nor the power of ten has to be
rounded, the number that is read is the one that was printed.
-/

namespace Retry.Json

open scoped NatPower
open Binary64
open Decimal (RoundingInterval)

variable {units : Nat} {decimal : Decimal}

/-! ### One product or quotient -/

/-- The count of units of a natural number, rounded. -/
def rounded (n : Nat) : Nat := roundUnits (n * unitsPerOne) 1

/-- What a decimal is read as, before the last rounding: a product or a quotient of counts. -/
def readNumerator (decimal : Decimal) : Nat :=
  if 0 ≤ decimal.exponent then
    rounded decimal.coefficient * rounded (10 ^ decimal.exponent.natAbs)
  else rounded decimal.coefficient * unitsPerOne

def readDenominator (decimal : Decimal) : Nat :=
  if 0 ≤ decimal.exponent then unitsPerOne else rounded (10 ^ decimal.exponent.natAbs)

def readUnits (decimal : Decimal) : Nat :=
  roundUnits (readNumerator decimal) (readDenominator decimal)

section

variable (hneg : decimal.exponent < 0)
include hneg

theorem readNumerator_of_neg :
    readNumerator decimal = rounded decimal.coefficient * unitsPerOne :=
  if_neg (Int.not_le.mpr hneg)

theorem readDenominator_of_neg :
    readDenominator decimal = rounded (10 ^ decimal.exponent.natAbs) :=
  if_neg (Int.not_le.mpr hneg)

theorem numerator_of_neg : decimal.numerator = unitsPerOne * decimal.coefficient := by
  rw [Decimal.numerator, Int.toNat_of_nonpos (Int.le_of_lt hneg), Nat.pow_zero, Nat.mul_one]

theorem denominator_of_neg : decimal.denominator = 10 ^ decimal.exponent.natAbs := by
  rw [Decimal.denominator]
  congr 1
  omega

end

section

variable (hnonneg : 0 ≤ decimal.exponent)
include hnonneg

theorem readNumerator_of_nonneg : readNumerator decimal
    = rounded decimal.coefficient * rounded (10 ^ decimal.exponent.natAbs) :=
  if_pos hnonneg

theorem readDenominator_of_nonneg : readDenominator decimal = unitsPerOne := if_pos hnonneg

theorem numerator_of_nonneg : decimal.numerator
    = unitsPerOne * decimal.coefficient * 10 ^ decimal.exponent.natAbs := by
  rw [Decimal.numerator]
  congr 2
  omega

theorem denominator_of_nonneg : decimal.denominator = 1 := by
  rw [Decimal.denominator, Int.toNat_of_nonpos (by omega), Nat.pow_zero]

end

theorem rounded_mono {n m : Nat} (h : n ≤ m) : rounded n ≤ rounded m :=
  roundUnits_mono Nat.one_pos Nat.one_pos (Nat.mul_le_mul_right 1 (Nat.mul_le_mul_right _ h))

theorem rounded_one : rounded 1 = unitsPerOne := by
  have h := roundUnits_mul Nat.one_pos gap_dvd_unitsPerOne
  rw [Nat.mul_one] at h
  rw [rounded, Nat.one_mul]
  exact h

theorem unitsPerOne_le_rounded {n : Nat} (h : 0 < n) : unitsPerOne ≤ rounded n :=
  rounded_one ▸ rounded_mono h

theorem rounded_pos {n : Nat} (h : 0 < n) : 0 < rounded n :=
  Nat.lt_of_lt_of_le unitsPerOne_pos (unitsPerOne_le_rounded h)

theorem ten_pow_pos (n : Nat) : 0 < 10 ^ n := Nat.pow_pos (by decide)

theorem readDenominator_pos (decimal : Decimal) : 0 < readDenominator decimal := by
  unfold readDenominator
  split
  · exact unitsPerOne_pos
  · exact rounded_pos (ten_pow_pos _)

theorem overflowUnits_eq : overflowUnits = 2 ^ integerBits * unitsPerOne := by
  rw [overflowUnits, unitsPerOne, Nat.pow_add]

theorem rounded_lt {n places : Nat} (hplaces : places ≤ 308) (h : n ≤ 10 ^ places) :
    rounded n < overflowUnits := by
  have hlarge : ∀ places ≤ 308,
      10 ^ places * (2 ^ precision + 1) < 2 ^ integerBits * 2 ^ precision := by
    decide +kernel
  refine Nat.lt_of_mul_lt_mul_right (a := 2 ^ precision) ?_
  calc rounded n * 2 ^ precision
      ≤ n * unitsPerOne * (2 ^ precision + 1) := roundUnits_mul_le _
    _ ≤ 10 ^ places * unitsPerOne * (2 ^ precision + 1) :=
      Nat.mul_le_mul_right _ (Nat.mul_le_mul_right _ h)
    _ = 10 ^ places * (2 ^ precision + 1) * unitsPerOne := Nat.mul_right_comm ..
    _ < 2 ^ integerBits * 2 ^ precision * unitsPerOne :=
      Nat.mul_lt_mul_of_pos_right (hlarge places hplaces) unitsPerOne_pos
    _ = overflowUnits * 2 ^ precision := by rw [overflowUnits_eq, Nat.mul_right_comm]

theorem representable_rounded {n : Nat} (h : rounded n < overflowUnits) :
    Representable (rounded n) := representable_roundUnits h

theorem representable_readUnits (h : readUnits decimal < overflowUnits) :
    Representable (readUnits decimal) := representable_roundUnits h

theorem ofNat_of_lt {n : Nat} (h : rounded n < overflowUnits) :
    Binary64.ofNat n = .finite false (rounded n) (representable_rounded h) :=
  ofQuotient_of_lt false h

/-- A decimal that is not too long is read by one product or one quotient. -/
theorem floatOf_eq (hcoefficient : decimal.coefficient ≤ 10 ^ (17 : Nat))
    (hexponent : decimal.exponent.natAbs ≤ 308) (h : readUnits decimal < overflowUnits) :
    floatOf false decimal.coefficient decimal.exponent
      = some (.finite false (readUnits decimal) (representable_readUnits h)) := by
  have hnumber := rounded_lt (by decide) hcoefficient
  have hpower := rounded_lt hexponent (Nat.le_refl _)
  have hread : ofQuotient false (readNumerator decimal) (readDenominator decimal)
      = .finite false (readUnits decimal) (representable_readUnits h) := ofQuotient_of_lt false h
  unfold floatOf scaled powerOfTen
  simp only [hexponent, if_true, Bool.false_eq_true, if_false, Option.map_id']
  rw [ofNat_of_lt hnumber, ofNat_of_lt hpower]
  rcases Int.lt_or_le decimal.exponent 0 with hneg | hnonneg
  · rw [readNumerator_of_neg hneg, readDenominator_of_neg hneg] at hread
    rw [if_neg (Int.not_le.mpr hneg), div_finite _ _ (rounded_pos (ten_pow_pos _)), hread]
  · rw [readNumerator_of_nonneg hnonneg, readDenominator_of_nonneg hnonneg] at hread
    rw [if_pos hnonneg, mul_finite, hread]
    rfl

/-! ### The rounding errors -/

/-- What is read has two relative errors at most, upwards and downwards. -/
theorem readNumerator_mul_le (decimal : Decimal) :
    readNumerator decimal * decimal.denominator * (2 ^ precision * 2 ^ precision)
      ≤ decimal.numerator * readDenominator decimal
        * ((2 ^ precision + 1) * (2 ^ precision + 1)) := by
  have hnumber := roundUnits_mul_le (decimal.coefficient * unitsPerOne)
  rcases Int.lt_or_le decimal.exponent 0 with hneg | hnonneg
  · have hpower := le_mul_roundUnits (10 ^ decimal.exponent.natAbs * unitsPerOne)
    have h := Nat.mul_le_mul hnumber hpower
    rw [readNumerator_of_neg hneg, readDenominator_of_neg hneg, numerator_of_neg hneg,
      denominator_of_neg hneg, rounded, rounded]
    grind
  · have hpower := roundUnits_mul_le (10 ^ decimal.exponent.natAbs * unitsPerOne)
    have h := Nat.mul_le_mul hnumber hpower
    rw [readNumerator_of_nonneg hnonneg, readDenominator_of_nonneg hnonneg,
      numerator_of_nonneg hnonneg, denominator_of_nonneg hnonneg, rounded, rounded]
    grind

theorem le_readNumerator_mul (decimal : Decimal) :
    decimal.numerator * readDenominator decimal * (2 ^ precision * 2 ^ precision)
      ≤ readNumerator decimal * decimal.denominator
        * ((2 ^ precision + 1) * (2 ^ precision + 1)) := by
  have hnumber := le_mul_roundUnits (decimal.coefficient * unitsPerOne)
  rcases Int.lt_or_le decimal.exponent 0 with hneg | hnonneg
  · have hpower := roundUnits_mul_le (10 ^ decimal.exponent.natAbs * unitsPerOne)
    have h := Nat.mul_le_mul hnumber hpower
    rw [readNumerator_of_neg hneg, readDenominator_of_neg hneg, numerator_of_neg hneg,
      denominator_of_neg hneg, rounded, rounded]
    grind
  · have hpower := le_mul_roundUnits (10 ^ decimal.exponent.natAbs * unitsPerOne)
    have h := Nat.mul_le_mul hnumber hpower
    rw [readNumerator_of_nonneg hnonneg, readDenominator_of_nonneg hnonneg,
      numerator_of_nonneg hnonneg, denominator_of_nonneg hnonneg, rounded, rounded]
    grind

/-! ### Numbers from one upwards -/

theorem lt_ten_pow : 2 ^ integerBits < 10 ^ (309 : Nat) := by decide +kernel

section

variable (hunits : Representable units)
  (hcontains : (RoundingInterval.of units).contains decimal = true)
include hunits hcontains

/-- A decimal of seventeen digits for such a number has no long exponent. -/
theorem exponent_natAbs_le (hone : unitsPerOne ≤ units)
    (hlt : decimal.coefficient < 10 ^ (17 : Nat)) :
    decimal.exponent.natAbs ≤ 308 := by
  have hpos : 0 < units := Nat.lt_of_lt_of_le unitsPerOne_pos hone
  obtain ⟨hlower, hupper, -⟩ := Decimal.ends_of_contains hcontains
  rcases Int.lt_or_le decimal.exponent 0 with hneg | hnonneg
  · rw [numerator_of_neg hneg, denominator_of_neg hneg] at hlower
    have hends : 2 * unitsPerOne ≤ (RoundingInterval.of units).lower :=
      Nat.le_trans (Nat.mul_le_mul_left 2 hone) (RoundingInterval.two_mul_le_lower hpos)
    have hscaled : unitsPerOne * 10 ^ decimal.exponent.natAbs
        ≤ unitsPerOne * (2 * decimal.coefficient) := by
      have hle := Nat.le_trans (Nat.mul_le_mul_right _ hends) hlower
      rw [Nat.mul_assoc] at hle
      rw [Nat.mul_left_comm unitsPerOne]
      omega
    -- A number from one upwards with more fraction digits would need a longer coefficient.
    have hpower : 10 ^ decimal.exponent.natAbs < 10 ^ (18 : Nat) := by
      have hle := Nat.le_of_mul_le_mul_left hscaled unitsPerOne_pos
      omega
    have hexponent := (Nat.pow_lt_pow_iff_right (by decide)).mp hpower
    omega
  · rw [numerator_of_nonneg hnonneg, denominator_of_nonneg hnonneg, Nat.mul_one] at hupper
    have hcoefficient := RoundingInterval.pos_of_contains hpos hcontains
    have hgap := gap_pos units
    have hlast : units + gap units ≤ overflowUnits :=
      add_gap_le_two_pow hunits.gap_dvd hunits.lt_overflow
    have hscaled : 10 ^ decimal.exponent.natAbs * unitsPerOne < 2 ^ integerBits * unitsPerOne := by
      rw [← overflowUnits_eq]
      have hle := Nat.mul_le_mul_right (unitsPerOne * 10 ^ decimal.exponent.natAbs) hcoefficient
      rw [Nat.mul_comm]
      grind
    have hpower : 10 ^ decimal.exponent.natAbs < 10 ^ (309 : Nat) :=
      Nat.lt_trans (Nat.lt_of_mul_lt_mul_right hscaled) lt_ten_pow
    have hexponent := (Nat.pow_lt_pow_iff_right (by decide)).mp hpower
    omega

theorem readUnits_le : readUnits decimal ≤ next (next units) := by
  have hden := Decimal.denominator_pos decimal
  obtain ⟨-, hupper, -⟩ := Decimal.ends_of_contains hcontains
  refine (roundUnits_le_iff (readDenominator_pos decimal)
    (gap_dvd_next (gap_dvd_next hunits.gap_dvd))).mpr (Or.inl ?_)
  exact lt_next_next hden (readDenominator_pos decimal) hunits.gap_dvd hupper
    (readNumerator_mul_le decimal)

theorem le_readUnits : units ≤ next (next (readUnits decimal)) := by
  have hden := Decimal.denominator_pos decimal
  have hgrid : gap (readUnits decimal) ∣ readUnits decimal := gap_dvd_roundUnits ..
  obtain ⟨hlower, -, -⟩ := Decimal.ends_of_contains hcontains
  refine Nat.le_of_not_lt fun hlt => ?_
  have hends := (RoundingInterval.le_lower (gap_dvd_next (gap_dvd_next hgrid)) hunits.gap_dvd hlt).1
  have hmiddle := lt_next_next (readDenominator_pos decimal) hden hgrid
    (le_roundUnits (readDenominator_pos decimal)) (le_readNumerator_mul decimal)
  have hscaled := Nat.mul_le_mul_right decimal.denominator hends
  generalize next (next (readUnits decimal)) = count at hmiddle hscaled
  grind

theorem unitsPerOne_le_readUnits (hlt : unitsPerOne < units) :
    unitsPerOne ≤ readUnits decimal := by
  have hden := readDenominator_pos decimal
  obtain ⟨hlower, -, -⟩ := Decimal.ends_of_contains hcontains
  have hends := (RoundingInterval.le_lower gap_dvd_unitsPerOne hunits.gap_dvd hlt).1
  have hnum : unitsPerOne * decimal.denominator ≤ decimal.numerator := by
    have hscaled := Nat.mul_le_mul_right decimal.denominator hends
    generalize gap unitsPerOne = g at hscaled
    grind
  rw [← roundUnits_mul hden gap_dvd_unitsPerOne]
  refine roundUnits_mono hden hden (Nat.mul_le_mul_right _ ?_)
  rcases Int.lt_or_le decimal.exponent 0 with hneg | hnonneg
  · rw [numerator_of_neg hneg, denominator_of_neg hneg] at hnum
    have hpower := Nat.le_of_mul_le_mul_left hnum unitsPerOne_pos
    rw [readNumerator_of_neg hneg, readDenominator_of_neg hneg, Nat.mul_comm]
    exact Nat.mul_le_mul_right _ (rounded_mono hpower)
  · have hcoefficient := RoundingInterval.pos_of_contains
      (Nat.lt_trans unitsPerOne_pos hlt) hcontains
    rw [readNumerator_of_nonneg hnonneg, readDenominator_of_nonneg hnonneg]
    exact Nat.mul_le_mul (unitsPerOne_le_rounded hcoefficient)
      (unitsPerOne_le_rounded (ten_pow_pos _))

end

/-! ### Finite results -/

/-- The gap of the largest counts. -/
def topGap : Nat := 2 ^ (integerBits + fractionBits - precision)

theorem topGap_pos : 0 < topGap := Nat.two_pow_pos _

theorem overflowUnits_eq_mul : overflowUnits = topGap * 2 ^ precision := by
  rw [overflowUnits, topGap, ← Nat.pow_add, Nat.sub_add_cancel (by decide)]

theorem gap_topGap_mul : gap (topGap * 2 ^ (precision - 1)) = topGap := by
  rw [topGap, ← Nat.pow_add, gap, Nat.log2_two_pow]
  congr 1

theorem gap_le_topGap {count : Nat} (h : count < overflowUnits) : gap count ≤ topGap := by
  refine Nat.pow_le_pow_right (by decide) ?_
  rcases Nat.eq_zero_or_pos count with rfl | hpos
  · decide
  · have hlog := (Nat.log2_lt (Nat.ne_of_gt hpos)).mpr h
    omega

/-- The second point after a number is too large only for the two largest ones. -/
theorem eq_of_le_next_next (hunits : Representable units)
    (h : overflowUnits ≤ next (next units)) :
    units = overflowUnits - topGap ∨ units = overflowUnits - 2 * topGap := by
  have hlt := hunits.lt_overflow
  have hlast : overflowUnits ≤ units + 2 * topGap := by
    rcases Nat.lt_or_ge (next units) overflowUnits with hnext | hnext
    · have hgap := gap_le_topGap hlt
      have hgap' := gap_le_topGap hnext
      simp only [next] at h hgap'
      omega
    · have hgap := gap_le_topGap hlt
      simp only [next] at hnext
      omega
  have hpos := topGap_pos
  have hgap : gap units = topGap := by
    refine Nat.le_antisymm (gap_le_topGap hlt) ?_
    rw [← gap_topGap_mul]
    refine gap_le_gap ?_
    have hpart : topGap * 2 ^ (precision - 1) + 2 * topGap ≤ overflowUnits := by
      rw [overflowUnits_eq_mul, Nat.mul_comm 2, ← Nat.mul_add]
      exact Nat.mul_le_mul_left _ (by decide)
    omega
  -- So the number and the bound are whole numbers of the same gap.
  obtain ⟨steps, hsteps⟩ := hgap ▸ hunits.gap_dvd
  rw [overflowUnits_eq_mul, hsteps] at hlt
  rw [overflowUnits_eq_mul, hsteps, Nat.mul_comm 2, ← Nat.mul_add] at hlast
  have hupper := Nat.lt_of_mul_lt_mul_left hlt
  have hlower := Nat.le_of_mul_le_mul_left hlast hpos
  rw [overflowUnits_eq_mul, hsteps]
  rcases Nat.lt_or_ge (steps + 1) (2 ^ precision) with h | h
  · right
    have hlarge : 2 ^ precision = steps + 2 := by omega
    rw [hlarge, Nat.mul_add, Nat.mul_comm 2, Nat.add_sub_cancel]
  · left
    have hlarge : 2 ^ precision = steps + 1 := by omega
    rw [hlarge, Nat.mul_succ, Nat.add_sub_cancel]

theorem readUnits_largest :
    readUnits (Numeral.ofUnits false (overflowUnits - topGap)).decimal < overflowUnits
      ∧ readUnits (Numeral.ofUnits false (overflowUnits - 2 * topGap)).decimal < overflowUnits := by
  decide +kernel

theorem readUnits_unitsPerOne :
    readUnits (Numeral.ofUnits false unitsPerOne).decimal = unitsPerOne := by
  decide +kernel

/-! ### Exact reading -/

/-- Whether the digits of a numeral, taken as one number, and its power of ten are not rounded. -/
structure Numeral.Short (numeral : Numeral) : Prop where
  coefficient_le : numeral.decimal.coefficient ≤ 2 ^ precision
  exponent_le : numeral.decimal.exponent.natAbs ≤ 22

instance (numeral : Numeral) : Decidable numeral.Short :=
  decidable_of_iff (_ ∧ _) ⟨fun h => ⟨h.1, h.2⟩, fun h => ⟨h.1, h.2⟩⟩

theorem rounded_mul_two_pow {significand : Nat} (exponent : Nat) (h : significand ≤ 2 ^ precision) :
    rounded (significand * 2 ^ exponent) = significand * 2 ^ exponent * unitsPerOne := by
  have hgrid : gap (significand * 2 ^ exponent * unitsPerOne)
      ∣ significand * 2 ^ exponent * unitsPerOne := by
    rw [unitsPerOne, Nat.mul_assoc, ← Nat.pow_add]
    exact gap_dvd_mul_two_pow _ _ h
  have hround := roundUnits_mul Nat.one_pos hgrid
  rwa [Nat.mul_one] at hround

theorem rounded_ten_pow {places : Nat} (h : places ≤ 22) :
    rounded (10 ^ places) = 10 ^ places * unitsPerOne := by
  have hfive : 5 ^ places ≤ 2 ^ precision :=
    Nat.le_trans (Nat.pow_le_pow_right (by decide) h) (by decide)
  rw [show 10 = 5 * 2 from rfl, Nat.mul_pow]
  exact rounded_mul_two_pow _ hfive

/-- Nothing but the result is rounded if the digits have at most 53 bits and the power of ten is
small. -/
theorem readUnits_eq (hunits : Representable units)
    (hcontains : (RoundingInterval.of units).contains decimal = true)
    (hcoefficient : decimal.coefficient ≤ 2 ^ precision)
    (hexponent : decimal.exponent.natAbs ≤ 22) :
    readUnits decimal = units := by
  have hnumber : rounded decimal.coefficient = decimal.coefficient * unitsPerOne := by
    have h := rounded_mul_two_pow 0 hcoefficient
    rwa [Nat.pow_zero, Nat.mul_one] at h
  have hpower := rounded_ten_pow hexponent
  have hsame : readNumerator decimal * decimal.denominator
      = decimal.numerator * readDenominator decimal := by
    rcases Int.lt_or_le decimal.exponent 0 with hneg | hnonneg
    · rw [readNumerator_of_neg hneg, readDenominator_of_neg hneg, numerator_of_neg hneg,
        denominator_of_neg hneg, hnumber, hpower]
      grind
    · rw [readNumerator_of_nonneg hnonneg, readDenominator_of_nonneg hnonneg,
        numerator_of_nonneg hnonneg, denominator_of_nonneg hnonneg, hnumber, hpower]
      grind
  have hden := Decimal.denominator_pos decimal
  have hread := readDenominator_pos decimal
  rw [← Decimal.roundUnits_of_contains hunits.gap_dvd hcontains]
  exact Nat.le_antisymm (roundUnits_mono hread hden (Nat.le_of_eq hsame))
    (roundUnits_mono hden hread (Nat.le_of_eq hsame.symm))

/-! ### Printed numbers -/

namespace Numeral

theorem negative_ofUnits (negative : Bool) (units : Nat) :
    (ofUnits negative units).negative = negative := by
  unfold ofUnits ofDecimal positional
  simp only
  split
  · rfl
  · split
    · split
      · rfl
      · split <;> rfl
    · rfl

theorem positional_parts (negative : Bool) {digits : List Char} (h : Significant digits)
    (leading : Int) : (positional negative digits h leading).fraction.isSome = true
      ∧ (positional negative digits h leading).exponent = none := by
  unfold positional
  split
  · exact ⟨rfl, rfl⟩
  · split <;> exact ⟨rfl, rfl⟩

theorem fits_scientific (negative : Bool) {digits : List Char} (h : Significant digits)
    {leading : Int} (hlength : digits.length ≤ 17)
    (hcoefficient : (scientific negative digits h leading).decimal.coefficient < 10 ^ (17 : Nat))
    (hexponent : (scientific negative digits h leading).decimal.exponent.natAbs ≤ 308) :
    (scientific negative digits h leading).Fits where
  not_integer := .inr rfl
  coefficient_lt := Nat.lt_trans hcoefficient (by decide)
  shift_lt := by
    have hpos : 0 < digits.length := List.length_pos_iff.mpr h.ne_nil
    have hvalue : Nat.ofDigitChars 10 (Decimal.digits leading.natAbs) 0 = leading.natAbs :=
      Nat.ofDigitChars_toDigits (by decide) (by decide)
    rw [decimal_scientific] at hexponent
    rintro _ ⟨⟩
    rw [hvalue, Reader.exponentBound]
    simp only at hexponent
    omega
  exponent_le := Nat.lt_of_le_of_lt hexponent (by decide)

theorem fits_ofDecimal (negative : Bool) {decimal : Decimal} (h : 0 < decimal.coefficient)
    (hlt : decimal.coefficient < 10 ^ (17 : Nat))
    (hexponent : (ofDecimal negative decimal h).decimal.exponent.natAbs ≤ 308) :
    (ofDecimal negative decimal h).Fits := by
  have hcoefficient : (ofDecimal negative decimal h).decimal.coefficient < 10 ^ (17 : Nat) := by
    obtain ⟨pad, heq, hpad⟩ := decimal_ofDecimal negative h hlt
    rwa [heq]
  have hlength : (Decimal.digits decimal.coefficient).length ≤ 17 :=
    (Nat.length_toDigits_le_iff (by decide) (by decide)).mpr hlt
  unfold ofDecimal at hcoefficient hexponent ⊢
  simp only at hcoefficient hexponent ⊢
  split
  · next hlayout =>
    rw [if_pos hlayout] at hcoefficient hexponent
    obtain ⟨hfraction, hnone⟩ := positional_parts negative (significant_digits h)
      (decimal.exponent + ((Decimal.digits decimal.coefficient).length - 1))
    exact ⟨.inl hfraction, Nat.lt_trans hcoefficient (by decide), by simp [hnone],
      Nat.lt_of_le_of_lt hexponent (by decide)⟩
  · next hlayout =>
    rw [if_neg hlayout] at hcoefficient hexponent
    exact fits_scientific negative _ hlength hcoefficient hexponent

/-- **A printed number from one upwards is read as a number that is at most its second neighbour**,
and not below one. It is the same number if the digits and the power of ten are small. -/
theorem exists_value?_ofUnits (hunits : Representable units) (hone : unitsPerOne ≤ units) :
    ∃ read, ∃ representable : Representable read,
      (ofUnits false units).value? = some (.float (.finite false read representable))
        ∧ unitsPerOne ≤ read ∧ read ≤ next (next units) ∧ units ≤ next (next read)
        ∧ ((ofUnits false units).Short → read = units) := by
  have hpos : 0 < units := Nat.lt_of_lt_of_le unitsPerOne_pos hone
  obtain ⟨hcontains, hlt⟩ := decimal_ofUnits false hpos
  have hexponent := exponent_natAbs_le hunits hcontains hone hlt
  have hupper := readUnits_le hunits hcontains
  have hlower : unitsPerOne ≤ readUnits (ofUnits false units).decimal := by
    rcases Nat.lt_or_eq_of_le hone with habove | heq
    · exact unitsPerOne_le_readUnits hunits hcontains habove
    · refine Nat.le_of_eq ?_
      rw [← heq, readUnits_unitsPerOne]
  -- For all but two numbers the second neighbour is finite. Those two are read one by one.
  have hread : readUnits (ofUnits false units).decimal < overflowUnits := by
    rcases Nat.lt_or_ge (next (next units)) overflowUnits with hfinite | hlarge
    · exact Nat.lt_of_le_of_lt hupper hfinite
    · rcases eq_of_le_next_next hunits hlarge with heq | heq
      · rw [heq]
        exact readUnits_largest.1
      · rw [heq]
        exact readUnits_largest.2
  refine ⟨_, representable_readUnits hread, ?_, hlower, hupper, le_readUnits hunits hcontains,
    fun hshort => readUnits_eq hunits hcontains hshort.coefficient_le hshort.exponent_le⟩
  have hdecimal : (ofUnits false units).Fits := by
    unfold ofUnits at hexponent ⊢
    rw [dif_neg (Nat.ne_of_gt hpos)] at hexponent ⊢
    exact fits_ofDecimal false _ (Decimal.coefficient_shortest_lt _ hpos) hexponent
  rw [value?_of_fits hdecimal, negative_ofUnits, floatOf_eq (Nat.le_of_lt hlt) hexponent hread]
  rfl

end Numeral

end Retry.Json
