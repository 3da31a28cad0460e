import Retry.Rounding

/-!
# Double precision numbers

A finite number of double precision is a sign and a count of the least unit `2^-1074`. It may be
any count with at most 53 significant bits below `2^2098`. So each arithmetic operation can be
stated as the exact result, written as a quotient of counts, rounded once (`Binary64.ofQuotient`).

`representable_roundUnits` is the fact behind the type: what the rounding returns has at most 53
significant bits.
-/

namespace Retry

open scoped NatPower

namespace Binary64

def precision : Nat := 53

/-- How many bits the integer part of a finite number has at most. -/
def integerBits : Nat := 1024

/-- How many bits the fraction of a number has at most. -/
def fractionBits : Nat := 1074

def unitsPerOne : Nat := 2 ^ fractionBits

/-- The least count of units that is too large for a finite number. -/
def overflowUnits : Nat := 2 ^ (integerBits + fractionBits)

/-- The distance between neighbouring representable counts from `units` upwards. -/
def gap (units : Nat) : Nat := 2 ^ (units.log2 + 1 - precision)

structure Representable (units : Nat) : Prop where
  lt_overflow : units < overflowUnits
  gap_dvd : gap units ∣ units

instance (units : Nat) : Decidable (Representable units) :=
  decidable_of_iff (units < overflowUnits ∧ gap units ∣ units)
    ⟨fun h => ⟨h.1, h.2⟩, fun h => ⟨h.1, h.2⟩⟩

end Binary64

/-- A number of double precision. There is one undefined value, and zero has a sign. -/
inductive Binary64 where
  | nan
  | infinity (negative : Bool)
  | finite (negative : Bool) (units : Nat) (representable : Binary64.Representable units)
deriving DecidableEq

namespace Binary64

/-! ### Rounding to a representable count -/

/-- The representable count nearest to `num / den`, ties to the even significand. The result is
not bounded: a count from `overflowUnits` upwards stands for an infinite number. -/
def roundUnits (num den : Nat) : Nat :=
  let scale := gap (num / den)
  nearestEven num (den * scale) * scale

/-- A significand of at most `2 ^ precision` times a power of two is divisible by its own gap. -/
theorem gap_dvd_mul_two_pow (significand exponent : Nat) (h : significand ≤ 2 ^ precision) :
    gap (significand * 2 ^ exponent) ∣ significand * 2 ^ exponent := by
  rcases Nat.lt_or_eq_of_le h with hlt | rfl
  · rcases Nat.eq_zero_or_pos significand with rfl | hpos
    · simp
    · have hne : significand * 2 ^ exponent ≠ 0 :=
        Nat.mul_ne_zero (by omega) (by simp)
      have hbound : significand * 2 ^ exponent < 2 ^ (precision + exponent) := by
        rw [Nat.pow_add]
        exact Nat.mul_lt_mul_of_pos_right hlt (Nat.two_pow_pos exponent)
      have hlog := (Nat.log2_lt hne).2 hbound
      exact Nat.dvd_trans (Nat.pow_dvd_pow 2 (by omega)) (Nat.dvd_mul_left _ _)
  · rw [gap, ← Nat.pow_add, Nat.log2_two_pow]
    exact Nat.pow_dvd_pow 2 (by simp only [precision]; omega)

/-- The integer part of a quotient has at most 53 bits above its gap. -/
theorem div_gap_lt (count : Nat) : count / gap count < 2 ^ precision := by
  rw [gap, Nat.div_lt_iff_lt_mul (Nat.two_pow_pos _), ← Nat.pow_add]
  exact Nat.lt_of_lt_of_le Nat.lt_log2_self (Nat.pow_le_pow_right (by omega) (by omega))

/-- What the rounding returns lies on the grid of its own gap. -/
theorem gap_dvd_roundUnits (num den : Nat) : gap (roundUnits num den) ∣ roundUnits num den := by
  have hround := (nearestEven_bounds num (den * gap (num / den))).2
  rw [← Nat.div_div_eq_div_mul] at hround
  have hlt := div_gap_lt (num / den)
  exact gap_dvd_mul_two_pow _ _ (by omega)

/-- What the rounding returns is representable unless it is too large. -/
theorem representable_roundUnits {num den : Nat} (h : roundUnits num den < overflowUnits) :
    Representable (roundUnits num den) :=
  ⟨h, gap_dvd_roundUnits num den⟩

/-- The number nearest to `num / den` least units, with the given sign. -/
def ofQuotient (negative : Bool) (num den : Nat) : Binary64 :=
  if h : roundUnits num den < overflowUnits then
    .finite negative (roundUnits num den) (representable_roundUnits h)
  else
    .infinity negative

def ofNat (n : Nat) : Binary64 := ofQuotient false (n * unitsPerOne) 1

instance (n : Nat) : OfNat Binary64 n := ⟨ofNat n⟩

/-! ### Order -/

/-- The signed count of units. An infinite number counts as the least count that is too large;
the undefined value has none. -/
def signedUnits? : Binary64 → Option Int
  | .nan => none
  | .infinity negative => some (if negative then -overflowUnits else overflowUnits)
  | .finite negative units _ => some (if negative then -units else units)

/-- The undefined value is neither below nor above any number. -/
def Less (a b : Binary64) : Prop :=
  match a.signedUnits?, b.signedUnits? with
  | some x, some y => x < y
  | _, _ => False

def AtMost (a b : Binary64) : Prop :=
  match a.signedUnits?, b.signedUnits? with
  | some x, some y => x ≤ y
  | _, _ => False

instance : LT Binary64 := ⟨Less⟩

instance : LE Binary64 := ⟨AtMost⟩

instance (a b : Binary64) : Decidable (a < b) := by
  change Decidable (Less a b)
  unfold Less
  split <;> infer_instance

instance (a b : Binary64) : Decidable (a ≤ b) := by
  change Decidable (AtMost a b)
  unfold AtMost
  split <;> infer_instance

/-- Whether two numbers are numerically equal: both zeros are, and the undefined value equals
nothing. -/
def equals (a b : Binary64) : Bool :=
  match a.signedUnits?, b.signedUnits? with
  | some x, some y => x == y
  | _, _ => false

/-- Whether a number is neither undefined nor infinite. -/
def isFinite : Binary64 → Bool
  | .finite .. => true
  | _ => false

end Binary64

end Retry
