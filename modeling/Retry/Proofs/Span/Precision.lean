import Retry.Proofs.Binary64.Error
import Retry.Proofs.Span.Seconds

/-!
# How precise numbers of seconds are

The number of a span is at most two roundings apart from it: one of each part, and one of the sum
(`Span.withinRoundings_units`). So a span comes back from its number to within a nanosecond and a
`10^15`-th part, and a longer span with the same number is not much longer. Below `2^23` seconds,
which is 97 days, two roundings are less than half a nanosecond: a span comes back as it was, and no
longer span has the same number.
-/

namespace Retry.Span

open Binary64

open scoped NatPower

variable {span short long : Span}

theorem withinRoundings_fractionUnits (span : Span) :
    WithinRoundings 1 (span.fractionUnits * nanosecondsPerSecond)
      (span.subsecond * unitsPerOne) := by
  rcases Nat.eq_zero_or_pos span.subsecond with hzero | hpos
  · rw [fractionUnits, hzero, Nat.zero_mul, roundUnits_zero, Nat.zero_mul]
    exact .refl 1 0
  · apply withinRoundings_roundUnits nanosecondsPerSecond_pos
    calc 2 ^ (precision - 1) * nanosecondsPerSecond
        ≤ 1 * unitsPerOne := by decide +kernel
      _ ≤ span.subsecond * unitsPerOne := Nat.mul_le_mul_right _ hpos

theorem nanoseconds_mul_unitsPerOne (span : Span) :
    span.nanoseconds * unitsPerOne
      = span.seconds * unitsPerOne * nanosecondsPerSecond + span.subsecond * unitsPerOne := by
  rw [span.nanoseconds_eq, Nat.add_mul, Nat.mul_right_comm]

theorem withinRoundings_units (span : Span) :
    WithinRoundings 2 (span.units * nanosecondsPerSecond) (span.nanoseconds * unitsPerOne) := by
  have hwhole : WithinRoundings 1 (span.wholeUnits * nanosecondsPerSecond)
      (span.seconds * unitsPerOne * nanosecondsPerSecond) :=
    (withinRoundings_roundUnits_one _).mul_right _
  have hsum : WithinRoundings 1 (span.units * nanosecondsPerSecond)
      ((span.wholeUnits + span.fractionUnits) * nanosecondsPerSecond) :=
    (withinRoundings_roundUnits_one _).mul_right _
  rw [Nat.add_mul] at hsum
  rw [nanoseconds_mul_unitsPerOne]
  exact hsum.trans (hwhole.add span.withinRoundings_fractionUnits)

theorem units_mul_le (span : Span) :
    span.units * nanosecondsPerSecond ≤ span.nanoseconds * unitsPerOne * 2 := by
  have hle := span.withinRoundings_units.le.mul_le (by decide : 1 * _ ≤ (1 + 1) * _)
  rwa [Nat.mul_one] at hle

theorem nanoseconds_mul_le (span : Span) :
    span.nanoseconds * unitsPerOne ≤ span.units * nanosecondsPerSecond * 2 := by
  have hge := span.withinRoundings_units.ge.mul_le (by decide : 1 * _ ≤ (1 + 1) * _)
  rwa [Nat.mul_one] at hge

theorem eq_zero_iff : span = zero ↔ span.nanoseconds = 0 :=
  ⟨fun h => h ▸ rfl, fun h => ext h⟩

/-- No time is the number zero, and no other span is. -/
theorem units_eq_zero_iff : span.units = 0 ↔ span = zero := by
  rw [eq_zero_iff]
  constructor
  · intro hunits
    have hle := span.nanoseconds_mul_le
    rw [hunits, Nat.zero_mul, Nat.zero_mul] at hle
    exact (Nat.mul_eq_zero.mp (Nat.le_zero.mp hle)).resolve_right (Nat.ne_of_gt unitsPerOne_pos)
  · intro hnanoseconds
    have hle := span.units_mul_le
    rw [hnanoseconds, Nat.zero_mul, Nat.zero_mul] at hle
    exact (Nat.mul_eq_zero.mp (Nat.le_zero.mp hle)).resolve_right (by decide)

theorem units_pos (h : span ≠ zero) : 0 < span.units :=
  Nat.pos_of_ne_zero (mt units_eq_zero_iff.mp h)

/-! ### Spans that come near -/

section Near

variable {back : Span} {x y : Nat}

def nearParts : Nat := 1_000_000_000_000_000

/-- At most a nanosecond and one of the `nearParts` of `nominal` away from it. -/
def Near (nominal span : Span) : Prop :=
  let tolerance := nominal.nanoseconds + nearParts
  span.nanoseconds * nearParts ≤ nominal.nanoseconds * nearParts + tolerance
    ∧ nominal.nanoseconds * nearParts ≤ span.nanoseconds * nearParts + tolerance

theorem mul_parts_le (h : AtMostAbove 4 x y) : x * nearParts ≤ y * nearParts + y := by
  rw [← Nat.mul_succ]
  exact h.mul_le (by decide)

theorem mul_parts_le_add (h : AtMostAbove 4 x y) : x * nearParts ≤ y * nearParts + x := by
  have hsucc : nearParts - 1 + 1 = nearParts := by decide
  have hle : x * (nearParts - 1) ≤ y * (nearParts - 1 + 1) := h.mul_le (by decide)
  calc x * nearParts
      = x * (nearParts - 1 + 1) := by rw [hsucc]
    _ = x * (nearParts - 1) + x := Nat.mul_succ ..
    _ ≤ y * nearParts + x := Nat.add_le_add_right (hsucc ▸ hle) x

/-- Few roundings of a count, and the last one to a whole nanosecond. -/
theorem near_of_roundings {scaled one : Nat} (hpos : 0 < one)
    (hbelow : 2 * (back.nanoseconds * one) ≤ 2 * scaled + one)
    (habove : 2 * scaled ≤ 2 * (back.nanoseconds * one) + one)
    (h : WithinRoundings 4 scaled (span.nanoseconds * one)) : span.Near back := by
  have hle := mul_parts_le h.le
  have hge := mul_parts_le_add h.ge
  simp only [Near]
  generalize nearParts = part at hle hge ⊢
  constructor
  · have hscaled := Nat.mul_le_mul_right part hbelow
    refine Nat.le_of_mul_le_mul_right ?_ hpos
    grind
  · have hscaled := Nat.mul_le_mul_right part habove
    refine Nat.le_of_mul_le_mul_right ?_ hpos
    grind

theorem near_of_ofSeconds? (h : ofSeconds? span.inSeconds = .ok back) : span.Near back := by
  rw [span.inSeconds_eq] at h
  have hcount := nanoseconds_of_ofSeconds? h
  apply near_of_roundings unitsPerOne_pos
  · rw [hcount]
    exact two_mul_nearestEven_le _ _
  · rw [hcount]
    exact two_mul_le_nearestEven _ unitsPerOne_pos
  · exact span.withinRoundings_units.trans (.refl 2 _)

theorem near_of_units_le (hle : span ≤ long) (hunits : long.units ≤ span.units) :
    span.Near long := by
  have hscaled := Nat.mul_le_mul_right nanosecondsPerSecond hunits
  have hback := span.withinRoundings_units.le.of_le hscaled (Nat.le_refl _)
  have habove := long.withinRoundings_units.ge.trans hback
  have hparts := mul_parts_le (habove.of_mul_right unitsPerOne_pos)
  constructor
  · rw [← Nat.add_assoc]
    exact Nat.le_trans hparts (Nat.le_add_right ..)
  · exact Nat.le_trans (Nat.mul_le_mul_right nearParts hle) (Nat.le_add_right ..)

end Near

/-! ### Spans that come back -/

/-- The whole seconds below which every nanosecond has a number of its own. -/
def exactSeconds : Nat := 2 ^ (23 : Nat)

/-- What the sum and the part of a second are rounded by, together. -/
theorem gaps_lt : nanosecondsPerSecond * gap (exactSeconds * unitsPerOne - 1)
    + nanosecondsPerSecond * gap unitsPerOne < unitsPerOne := by decide +kernel

theorem gap_sum_le (h : span.seconds < exactSeconds) :
    gap (span.seconds * unitsPerOne + span.fractionUnits)
      ≤ gap (exactSeconds * unitsPerOne - 1) := by
  apply gap_le_gap
  apply Nat.le_sub_one_of_lt
  calc span.seconds * unitsPerOne + span.fractionUnits
      < span.seconds * unitsPerOne + unitsPerOne := Nat.add_lt_add_left span.fractionUnits_lt _
    _ = (span.seconds + 1) * unitsPerOne := (Nat.succ_mul ..).symm
    _ ≤ exactSeconds * unitsPerOne := Nat.mul_le_mul_right _ h

theorem gap_fraction_le (span : Span) :
    gap (span.subsecond * unitsPerOne / nanosecondsPerSecond) ≤ gap unitsPerOne :=
  gap_le_gap (Nat.div_le_of_le_mul (Nat.mul_le_mul_right _ (Nat.le_of_lt span.subsecond_lt)))

theorem units_eq_roundUnits (h : span.seconds < exactSeconds) :
    span.units = roundUnits (span.seconds * unitsPerOne + span.fractionUnits) 1 := by
  rw [units, wholeUnits_eq (Nat.le_trans (Nat.le_of_lt h) (by decide))]

theorem two_mul_units_lt (h : span.seconds < exactSeconds) :
    2 * (span.units * nanosecondsPerSecond) < (2 * span.nanoseconds + 1) * unitsPerOne := by
  have hsum := two_mul_roundUnits_le (span.seconds * unitsPerOne + span.fractionUnits) 1
  have hfraction := two_mul_roundUnits_le (span.subsecond * unitsPerOne) nanosecondsPerSecond
  rw [← units_eq_roundUnits h, Nat.div_one] at hsum
  have hgap := Nat.mul_le_mul_left nanosecondsPerSecond (gap_sum_le h)
  have hgap' := Nat.mul_le_mul_left nanosecondsPerSecond span.gap_fraction_le
  have hgaps := gaps_lt
  rw [Nat.add_mul, Nat.one_mul, Nat.mul_assoc, nanoseconds_mul_unitsPerOne]
  change 2 * (span.fractionUnits * nanosecondsPerSecond) ≤ _ at hfraction
  simp only [nanosecondsPerSecond] at *
  omega

theorem lt_two_mul_units (h : span.seconds < exactSeconds) :
    2 * span.nanoseconds * unitsPerOne
      < 2 * (span.units * nanosecondsPerSecond) + unitsPerOne := by
  have hsum := two_mul_le_roundUnits (span.seconds * unitsPerOne + span.fractionUnits) Nat.one_pos
  have hfraction := two_mul_le_roundUnits (span.subsecond * unitsPerOne) nanosecondsPerSecond_pos
  rw [← units_eq_roundUnits h, Nat.div_one] at hsum
  have hgap := Nat.mul_le_mul_left nanosecondsPerSecond (gap_sum_le h)
  have hgap' := Nat.mul_le_mul_left nanosecondsPerSecond span.gap_fraction_le
  have hgaps := gaps_lt
  rw [Nat.mul_assoc, nanoseconds_mul_unitsPerOne]
  change _ ≤ 2 * (span.fractionUnits * nanosecondsPerSecond) + _ at hfraction
  simp only [nanosecondsPerSecond] at *
  omega

theorem nearestEven_units (h : span.seconds < exactSeconds) :
    nearestEven (span.units * nanosecondsPerSecond) unitsPerOne = span.nanoseconds :=
  nearestEven_eq unitsPerOne_pos (two_mul_units_lt h) (lt_two_mul_units h)

theorem exists_ofSeconds?_inSeconds {count : Nat}
    (h : nearestEven (span.units * nanosecondsPerSecond) unitsPerOne = count)
    (hcount : count < overflow) :
    ∃ back, ofSeconds? span.inSeconds = .ok back ∧ back.nanoseconds = count := by
  rw [span.inSeconds_eq, ← h]
  exact exists_ofSeconds? (Or.inl rfl) (h ▸ hcount)

/-- **There and back.** Short spans lose nothing. -/
theorem ofSeconds?_inSeconds (h : span.seconds < exactSeconds) :
    ofSeconds? span.inSeconds = .ok span := by
  obtain ⟨back, hback, hcount⟩ := exists_ofSeconds?_inSeconds (nearestEven_units h) span.lt_overflow
  rw [hback, ext hcount]

theorem lt_exactSeconds_mul (h : span.seconds < exactSeconds) :
    span.nanoseconds < exactSeconds * nanosecondsPerSecond :=
  (Nat.div_lt_iff_lt_mul nanosecondsPerSecond_pos).mp h

theorem exactSeconds_mul_le_units (h : ¬ span.seconds < exactSeconds) :
    exactSeconds * unitsPerOne ≤ span.units := by
  have hexact : Representable (exactSeconds * unitsPerOne) :=
    representable_mul_unitsPerOne (by decide)
  have hround : ∀ {count : Nat}, exactSeconds * unitsPerOne ≤ count →
      exactSeconds * unitsPerOne ≤ roundUnits count 1 := by
    intro count hcount
    calc exactSeconds * unitsPerOne
        = roundUnits (exactSeconds * unitsPerOne * 1) 1 :=
          (roundUnits_mul Nat.one_pos hexact.gap_dvd).symm
      _ ≤ roundUnits count 1 :=
        roundUnits_mono Nat.one_pos Nat.one_pos (Nat.mul_le_mul_right 1 (by rwa [Nat.mul_one]))
  have hwhole : exactSeconds * unitsPerOne ≤ span.wholeUnits :=
    hround (Nat.mul_le_mul_right _ (Nat.le_of_not_lt h))
  exact hround (Nat.le_trans hwhole (Nat.le_add_right ..))

/-- A span whose number is not above that of a short one is not longer. -/
theorem le_of_units_le (h : short.seconds < exactSeconds) (hle : long.units ≤ short.units) :
    long ≤ short := by
  have hmono : nearestEven (long.units * nanosecondsPerSecond) unitsPerOne ≤ short.nanoseconds := by
    rw [← nearestEven_units h]
    exact nearestEven_mono unitsPerOne_pos unitsPerOne_pos
      (Nat.mul_le_mul_right _ (Nat.mul_le_mul_right _ hle))
  by_cases hlong : long.seconds < exactSeconds
  · rwa [nearestEven_units hlong] at hmono
  · have hexact : exactSeconds * nanosecondsPerSecond ≤ short.nanoseconds := by
      calc exactSeconds * nanosecondsPerSecond
          = nearestEven (exactSeconds * nanosecondsPerSecond * unitsPerOne) unitsPerOne :=
            (nearestEven_mul _ _ unitsPerOne_pos).symm
        _ ≤ nearestEven (long.units * nanosecondsPerSecond) unitsPerOne := by
          apply nearestEven_mono unitsPerOne_pos unitsPerOne_pos
          rw [Nat.mul_right_comm exactSeconds]
          have hunits := exactSeconds_mul_le_units hlong
          exact Nat.mul_le_mul_right unitsPerOne (Nat.mul_le_mul_right nanosecondsPerSecond hunits)
        _ ≤ short.nanoseconds := hmono
    exact absurd (lt_exactSeconds_mul h) (Nat.not_lt.mpr hexact)

end Retry.Span
