import Retry.Proofs.Delay
import Retry.Proofs.Span.Precision

/-!
# Jitter stays in its range

The delay with jitter is three roundings away from the exact product, and then goes to the nearest
nanosecond. So it lies between four and six fifths of the delay, give or take a nanosecond and less
than a `10^12`-th part (`Jitter.exists_scale_near`), however short or long the delay is. A product
that is too long for a span leaves the delay as it is, which is in the range too.
-/

namespace Retry.Jitter

open Binary64 Retry.Span

open scoped NatPower

variable {factor : Binary64} {delay scaled : Span} {units : Nat}
  {representable : Representable units}

/-! ### The range of the factors -/

theorem highest_eq : highest = ofQuotient false (12 * unitsPerOne) 10 := by
  change ofNat 12 / ofNat 10 = _
  exact ofNat_div_ofNat (by decide) (by decide) (by decide)

/-- The lowest factor is rounded up and the highest one down, so both are within the fifths. -/
theorem exists_units_of_inRange (h : InRange factor) :
    ∃ units, ∃ representable : Representable units, factor = .finite false units representable
      ∧ 8 * unitsPerOne ≤ 10 * units ∧ 10 * units ≤ 12 * unitsPerOne := by
  have hlowest : roundUnits (8 * unitsPerOne) 10 < overflowUnits := by decide +kernel
  have hhighest : roundUnits (12 * unitsPerOne) 10 < overflowUnits := by decide +kernel
  have hlow : 8 * unitsPerOne ≤ 10 * roundUnits (8 * unitsPerOne) 10 := by decide +kernel
  have hhigh : 10 * roundUnits (12 * unitsPerOne) 10 ≤ 12 * unitsPerOne := by decide +kernel
  rw [InRange, lowest_eq, highest_eq, ofQuotient_of_lt false hlowest,
    ofQuotient_of_lt false hhighest] at h
  obtain ⟨hle, hge⟩ := h
  cases NotNegative.of_le (.finite (Or.inl rfl)) hle with
  | nan => exact hle.elim
  | infinity => exact absurd (Int.ofNat_le.mp hge) (Nat.not_le.mpr hhighest)
  | @finite negative units representable hsign =>
      rw [finite_le_iff (Or.inl rfl) hsign] at hle
      rw [finite_le_iff hsign (Or.inl rfl)] at hge
      have hpos := unitsPerOne_pos
      obtain rfl : negative = false := hsign.resolve_right (by omega)
      exact ⟨units, representable, rfl, by omega, by omega⟩

/-! ### The product -/

theorem eq_or_of_scale (h : scale (.finite false units representable) delay = .ok scaled) :
    scaled = delay ∨ scaled.nanoseconds
      = nearestEven (roundUnits (delay.units * units) unitsPerOne * nanosecondsPerSecond)
        unitsPerOne := by
  rw [scale, delay.inSeconds_eq, mul_finite] at h
  split at h
  · right
    rcases Nat.lt_or_ge (roundUnits (delay.units * units) unitsPerOne) overflowUnits with hlt | hge
    · rw [ofQuotient_of_lt false hlt] at h
      exact nanoseconds_of_ofSeconds? h
    · rw [ofQuotient_of_le false hge] at h
      cases h
  · exact Or.inl (Except.ok.inj h).symm

/-- Even the product with a nanosecond has full precision. -/
theorem le_units_mul (h : delay ≠ Span.zero) (hlow : 8 * unitsPerOne ≤ 10 * units) :
    2 ^ (precision - 1) * unitsPerOne ≤ delay.units * units := by
  have hpos : 0 < delay.nanoseconds := Nat.pos_of_ne_zero (mt Span.eq_zero_iff.mpr h)
  have hleast : unitsPerOne ≤ delay.units * nanosecondsPerSecond * 2 :=
    Nat.le_trans (Nat.le_mul_of_pos_left unitsPerOne hpos) delay.nanoseconds_mul_le
  have hscale : 0 < nanosecondsPerSecond * 2 * 10 := by decide
  refine Nat.le_of_mul_le_mul_right ?_ hscale
  calc 2 ^ (precision - 1) * unitsPerOne * (nanosecondsPerSecond * 2 * 10)
      = 2 ^ (precision - 1) * (nanosecondsPerSecond * 2 * 10) * unitsPerOne :=
        Nat.mul_right_comm ..
    _ ≤ 8 * unitsPerOne * unitsPerOne := Nat.mul_le_mul_right _ (by decide +kernel)
    _ ≤ 10 * units * (delay.units * nanosecondsPerSecond * 2) := Nat.mul_le_mul hlow hleast
    _ = delay.units * units * (nanosecondsPerSecond * 2 * 10) := by grind

theorem withinRoundings_product (delay : Span) (hlow : 8 * unitsPerOne ≤ 10 * units) :
    WithinRoundings 3 (roundUnits (delay.units * units) unitsPerOne * nanosecondsPerSecond)
      (delay.nanoseconds * units) := by
  by_cases hzero : delay = Span.zero
  · rw [hzero, units_eq_zero_iff.mpr rfl, Nat.zero_mul, roundUnits_zero, Nat.zero_mul]
    exact (Nat.zero_mul units).symm ▸ .refl 3 0
  · have hproduct := (withinRoundings_roundUnits unitsPerOne_pos
      (le_units_mul hzero hlow)).mul_right nanosecondsPerSecond
    have hdelay := delay.withinRoundings_units.mul_right units
    rw [Nat.mul_right_comm] at hproduct
    rw [Nat.mul_right_comm, Nat.mul_right_comm delay.nanoseconds] at hdelay
    exact (hproduct.trans hdelay).of_mul_right unitsPerOne_pos

/-! ### Fifths -/

section Near

variable {nominal nanoseconds product one part : Nat}

theorem mul_le_of_upper (hone : 0 < one) (hround : 2 * (nanoseconds * one) ≤ 2 * product + one)
    (hproduct : product * part ≤ nominal * units * (part + 1))
    (hhigh : 10 * units ≤ 12 * one) :
    20 * nanoseconds * part ≤ 24 * nominal * (part + 1) + 10 * part := by
  refine Nat.le_of_mul_le_mul_right ?_ hone
  calc 20 * nanoseconds * part * one
      = 10 * (2 * (nanoseconds * one)) * part := by grind
    _ ≤ 10 * (2 * product + one) * part :=
      Nat.mul_le_mul_right part (Nat.mul_le_mul_left 10 hround)
    _ = 20 * (product * part) + 10 * part * one := by grind
    _ ≤ 20 * (nominal * units * (part + 1)) + 10 * part * one :=
      Nat.add_le_add_right (Nat.mul_le_mul_left 20 hproduct) _
    _ = 2 * nominal * (part + 1) * (10 * units) + 10 * part * one := by grind
    _ ≤ 2 * nominal * (part + 1) * (12 * one) + 10 * part * one :=
      Nat.add_le_add_right (Nat.mul_le_mul_left _ hhigh) _
    _ = (24 * nominal * (part + 1) + 10 * part) * one := by grind

theorem le_mul_of_lower (hone : 0 < one) (hround : 2 * product ≤ 2 * (nanoseconds * one) + one)
    (hproduct : nominal * units * part ≤ product * (part + 1))
    (hlow : 8 * one ≤ 10 * units) :
    16 * nominal * part ≤ (20 * nanoseconds + 10) * (part + 1) := by
  refine Nat.le_of_mul_le_mul_right ?_ hone
  calc 16 * nominal * part * one
      = 2 * nominal * part * (8 * one) := by grind
    _ ≤ 2 * nominal * part * (10 * units) := Nat.mul_le_mul_left _ hlow
    _ = 20 * (nominal * units * part) := by grind
    _ ≤ 20 * (product * (part + 1)) := Nat.mul_le_mul_left 20 hproduct
    _ = 10 * (2 * product) * (part + 1) := by grind
    _ ≤ 10 * (2 * (nanoseconds * one) + one) * (part + 1) :=
      Nat.mul_le_mul_right _ (Nat.mul_le_mul_left 10 hround)
    _ = (20 * nanoseconds + 10) * (part + 1) * one := by grind

/-- Between four and six fifths of `nominal`, give or take half a nanosecond and one of twice the
`parts`. -/
structure Fifths (nominal nanoseconds : Nat) : Prop where
  upper : 20 * nanoseconds * (2 * parts) ≤ 24 * nominal * (2 * parts + 1) + 10 * (2 * parts)
  lower : 16 * nominal * (2 * parts) ≤ (20 * nanoseconds + 10) * (2 * parts + 1)

namespace Fifths

theorem le (h : Fifths nominal nanoseconds) : 20 * nanoseconds ≤ 36 * nominal + 10 := by
  have hupper := h.upper
  have hpos : 0 < parts := by decide
  generalize parts = part at hupper hpos
  have hnominal : nominal * 1 ≤ nominal * part := Nat.mul_le_mul_left nominal hpos
  refine Nat.le_of_mul_le_mul_right ?_ hpos
  grind

theorem near (h : Fifths nominal nanoseconds) : near 1 nominal nanoseconds = true := by
  obtain ⟨hupper, hlower⟩ := h
  have hle := le ⟨hupper, hlower⟩
  have hpos : 0 < parts := by decide
  simp only [Jitter.near, Bool.and_eq_true, decide_eq_true_eq]
  generalize parts = part at *
  constructor
  · grind
  · grind

theorem eq_zero_iff (h : Fifths nominal nanoseconds) : nanoseconds = 0 ↔ nominal = 0 := by
  have hle := h.le
  have hlower := h.lower
  constructor
  · rintro rfl
    have hpos : 0 < parts := by decide
    generalize parts = part at hlower hpos
    apply Nat.eq_zero_of_not_pos
    intro hnominal
    have hpart : 1 * part ≤ nominal * part := Nat.mul_le_mul_right part hnominal
    grind
  · intro hnominal
    omega

end Fifths

theorem near_self (nominal : Nat) : near 1 nominal nominal = true := by
  simp only [near, Bool.and_eq_true, decide_eq_true_eq]
  generalize parts = part
  constructor
  · grind
  · grind

end Near

/-- The product and the nanosecond it is rounded to stay between the fifths. -/
theorem fifths_of_product (delay : Span) (hlow : 8 * unitsPerOne ≤ 10 * units)
    (hhigh : 10 * units ≤ 12 * unitsPerOne) :
    Fifths delay.nanoseconds
      (nearestEven (roundUnits (delay.units * units) unitsPerOne * nanosecondsPerSecond)
        unitsPerOne) := by
  have hproduct := withinRoundings_product delay hlow
  have hpart : 2 * parts * (2 ^ precision + 1) ^ 3 ≤ (2 * parts + 1) * (2 ^ precision) ^ 3 := by
    decide
  constructor
  · apply mul_le_of_upper unitsPerOne_pos
    · exact two_mul_nearestEven_le _ _
    · exact hproduct.le.mul_le hpart
    · exact hhigh
  · apply le_mul_of_lower unitsPerOne_pos
    · exact two_mul_le_nearestEven _ unitsPerOne_pos
    · exact hproduct.ge.mul_le hpart
    · exact hlow

/-- **Jitter.** A factor within the range makes a delay that is near to the fifths of the nominal
one, and that is no time only if the nominal one is. -/
theorem exists_scale_near (h : InRange factor) (delay : Span) :
    ∃ scaled, scale factor delay = .ok scaled
      ∧ (scaled = Span.zero ↔ delay = Span.zero)
      ∧ near 1 delay.nanoseconds scaled.nanoseconds = true := by
  obtain ⟨scaled, hscaled⟩ := exists_scale_eq h delay
  obtain ⟨units, representable, rfl, hlow, hhigh⟩ := exists_units_of_inRange h
  refine ⟨scaled, hscaled, ?_⟩
  rcases eq_or_of_scale hscaled with rfl | hcount
  · exact ⟨Iff.rfl, near_self _⟩
  · have hfifths := fifths_of_product delay hlow hhigh
    rw [← hcount] at hfifths
    rw [Span.eq_zero_iff, Span.eq_zero_iff]
    exact ⟨hfifths.eq_zero_iff, hfifths.near⟩

/-- Four fifths of a nanosecond are a nanosecond, and six fifths of the longest span are no span. -/
theorem exists_scale_near_of_lowest :
    let short : Span := ⟨1, by decide⟩
    InRange lowest
      ∧ (∃ scaled, scale lowest short = .ok scaled
        ∧ (scaled = Span.zero ↔ short = Span.zero)
        ∧ near 1 short.nanoseconds scaled.nanoseconds = true)
      ∧ InRange highest
      ∧ ∃ scaled, scale highest .longest = .ok scaled
        ∧ (scaled = Span.zero ↔ Span.longest = Span.zero)
        ∧ near 1 Span.longest.nanoseconds scaled.nanoseconds = true := by
  intro short
  have hlowest : InRange lowest := ⟨by decide +kernel, by decide +kernel⟩
  have hhighest : InRange highest := ⟨by decide +kernel, by decide +kernel⟩
  exact ⟨hlowest, exists_scale_near hlowest short, hhighest, exists_scale_near hhighest .longest⟩

end Retry.Jitter
