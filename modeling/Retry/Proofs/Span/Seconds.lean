import Retry.Proofs.Binary64.Arithmetic
import Retry.Proofs.Binary64.Nearest
import Retry.Proofs.Binary64.Sign
import Retry.Span.Seconds

/-!
# Spans and numbers of seconds

A span is a finite number of seconds, at most `2^64` of them. The longest spans are rounded up to
`2^64` itself, which is no span any more; the next number below is `2^11` seconds away, so every
number below `2^64` seconds that is not negative is one.

A number that is below a span, as numbers compare, is no longer than the span when it is made a
span itself (`Span.exists_ofSeconds?_le`). That is not clear, for the number of the span may be
above the span, by more than a nanosecond. But up to `2^53` seconds only the part of a second is
rounded before the sum, by much less than half a nanosecond, and from there on the part of a second
is lost, and no number lies between the seconds and the number they are rounded to.
-/

namespace Retry

open scoped NatPower

namespace Binary64

/-- The least units of `2^64`, the first number of seconds that is too large for a span. -/
def spanUnits : Nat := UInt64.size * unitsPerOne

theorem representable_spanUnits : Representable spanUnits := by decide +kernel

/-- Counts with more bits than the precision are far apart. -/
theorem two_pow_dvd_gap {units : Nat} (exponent : Nat)
    (h : 2 ^ (exponent + precision - 1) ≤ units) : 2 ^ exponent ∣ gap units := by
  have hne : units ≠ 0 := Nat.ne_of_gt (Nat.lt_of_lt_of_le (Nat.two_pow_pos _) h)
  have hlog : exponent + precision - 1 ≤ units.log2 := (Nat.le_log2 hne).mpr h
  exact Nat.pow_dvd_pow 2 (by omega)

/-- From `2^64 - 1` on only whole numbers are representable. -/
theorem add_unitsPerOne_le {units : Nat} (hgrid : gap units ∣ units) (hlt : units < spanUnits) :
    units + unitsPerOne ≤ spanUnits := by
  by_cases hsmall : units ≤ (UInt64.size - 1) * unitsPerOne
  · calc units + unitsPerOne
        ≤ (UInt64.size - 1) * unitsPerOne + unitsPerOne := Nat.add_le_add_right hsmall _
      _ = spanUnits := by
          rw [spanUnits, ← Nat.succ_mul, Nat.succ_eq_add_one, Nat.sub_add_cancel (by decide)]
  · have hlarge : 2 ^ (fractionBits + precision - 1) ≤ units :=
      Nat.le_trans (by decide +kernel) (Nat.le_of_not_le hsmall)
    have hcoarse : unitsPerOne ∣ gap units := two_pow_dvd_gap fractionBits hlarge
    obtain ⟨count, hunits⟩ := Nat.dvd_trans hcoarse hgrid
    rw [Nat.mul_comm] at hunits
    rw [hunits, spanUnits] at hlt ⊢
    rw [← Nat.succ_mul]
    exact Nat.mul_le_mul_right _ (Nat.lt_of_mul_lt_mul_right hlt)

theorem ofNat_size_eq : ofNat UInt64.size = .finite false spanUnits representable_spanUnits :=
  ofNat_eq representable_spanUnits

end Binary64

namespace Span

open Binary64

variable (span : Span)

/-! ### Into numbers -/

/-- The whole seconds of a span, rounded. -/
def wholeUnits : Nat := roundUnits (span.seconds * unitsPerOne) 1

/-- The part of a span beyond its whole seconds, rounded. -/
def fractionUnits : Nat := roundUnits (span.subsecond * unitsPerOne) nanosecondsPerSecond

/-- The least units of a span as a number of seconds. -/
def units : Nat := roundUnits (span.wholeUnits + span.fractionUnits) 1

theorem seconds_lt : span.seconds < UInt64.size := by
  have hlt := span.lt_overflow
  rw [overflow, Nat.mul_comm] at hlt
  exact Nat.div_lt_of_lt_mul hlt

theorem subsecond_lt : span.subsecond < nanosecondsPerSecond := Nat.mod_lt _ (by decide)

theorem wholeUnits_le : span.wholeUnits ≤ spanUnits := by
  apply roundUnits_le Nat.one_pos representable_spanUnits.gap_dvd
  rw [Nat.mul_one]
  exact Nat.mul_le_mul_right unitsPerOne (Nat.le_of_lt span.seconds_lt)

theorem fractionUnits_le : span.fractionUnits ≤ unitsPerOne := by
  apply roundUnits_le (by decide) gap_dvd_unitsPerOne
  rw [Nat.mul_comm unitsPerOne]
  exact Nat.mul_le_mul_right unitsPerOne (Nat.le_of_lt span.subsecond_lt)

/-- The sum is rounded down to `2^64` even if both parts were rounded up. -/
theorem units_le : span.units ≤ spanUnits := by
  have hround : roundUnits (spanUnits + unitsPerOne) 1 = spanUnits := by decide +kernel
  rw [← hround]
  apply roundUnits_mono Nat.one_pos Nat.one_pos
  rw [Nat.mul_one, Nat.mul_one]
  exact Nat.add_le_add span.wholeUnits_le span.fractionUnits_le

theorem unitsPerOne_le_spanUnits : unitsPerOne ≤ spanUnits :=
  Nat.le_mul_of_pos_left unitsPerOne (by decide)

theorem lt_overflowUnits {count : Nat} (h : count ≤ spanUnits) : count < overflowUnits :=
  Nat.lt_of_le_of_lt h representable_spanUnits.lt_overflow

theorem representable_wholeUnits : Representable span.wholeUnits :=
  representable_roundUnits (lt_overflowUnits span.wholeUnits_le)

theorem representable_fractionUnits : Representable span.fractionUnits :=
  representable_roundUnits
    (lt_overflowUnits (Nat.le_trans span.fractionUnits_le unitsPerOne_le_spanUnits))

theorem representable_units : Representable span.units :=
  representable_roundUnits (lt_overflowUnits span.units_le)

theorem ofNat_seconds_eq :
    ofNat span.seconds = .finite false span.wholeUnits span.representable_wholeUnits :=
  ofQuotient_of_lt false (lt_overflowUnits span.wholeUnits_le)

theorem fraction_eq : ofNat span.subsecond / ofNat nanosecondsPerSecond
    = .finite false span.fractionUnits span.representable_fractionUnits := by
  have hsubsecond : span.subsecond ≤ 2 ^ precision :=
    Nat.le_trans (Nat.le_of_lt span.subsecond_lt) (by decide)
  rw [ofNat_div_ofNat hsubsecond (by decide) (by decide)]
  exact ofQuotient_of_lt false span.representable_fractionUnits.lt_overflow

/-- **Into numbers.** The number of seconds of a span is finite. -/
theorem inSeconds_eq : span.inSeconds = .finite false span.units span.representable_units := by
  rw [inSeconds, ofNat_seconds_eq, fraction_eq, add_finite]
  exact ofQuotient_of_lt false (lt_overflowUnits span.units_le)

/-! ### Out of numbers -/

/-- A number of seconds becomes the nearest number of nanoseconds, if this is not too large. -/
theorem exists_ofSeconds? {negative : Bool} {units : Nat} {representable : Representable units}
    (hsign : negative = false ∨ units = 0)
    (hcount : nearestEven (units * nanosecondsPerSecond) unitsPerOne < overflow) :
    ∃ span, ofSeconds? (.finite negative units representable) = .ok span
      ∧ span.nanoseconds = nearestEven (units * nanosecondsPerSecond) unitsPerOne := by
  rw [ofSeconds?, if_neg (by rintro ⟨hneg, hne⟩; exact hsign.elim (by simp [hneg]) hne)]
  generalize nearestEven (units * nanosecondsPerSecond) unitsPerOne = count at hcount ⊢
  exact ⟨⟨count, hcount⟩, dif_pos hcount, rfl⟩

theorem nanoseconds_of_ofSeconds? {units : Nat} {representable : Representable units} {span : Span}
    (h : ofSeconds? (.finite false units representable) = .ok span) :
    span.nanoseconds = nearestEven (units * nanosecondsPerSecond) unitsPerOne := by
  rw [ofSeconds?, if_neg (fun hsign => Bool.noConfusion hsign.1)] at h
  dsimp only at h
  split at h
  · rw [← Except.ok.inj h]
  · cases h

theorem le_of_ofSeconds? {units units' : Nat} {representable : Representable units}
    {representable' : Representable units'} {short long : Span} (hle : units ≤ units')
    (hshort : ofSeconds? (.finite false units representable) = .ok short)
    (hlong : ofSeconds? (.finite false units' representable') = .ok long) : short ≤ long := by
  rw [le_iff, nanoseconds_of_ofSeconds? hshort, nanoseconds_of_ofSeconds? hlong]
  apply nearestEven_mono unitsPerOne_pos unitsPerOne_pos
  exact Nat.mul_le_mul_right unitsPerOne (Nat.mul_le_mul_right nanosecondsPerSecond hle)

/-- **Out of numbers.** Seconds that are not negative and fewer than `2^64` are a span. -/
theorem exists_ofSeconds?_eq {negative : Bool} {units : Nat} {representable : Representable units}
    (hsign : negative = false ∨ units = 0) (hlt : units < spanUnits) :
    ∃ span, ofSeconds? (.finite negative units representable) = .ok span := by
  have hroom := add_unitsPerOne_le representable.gap_dvd hlt
  have hpos := unitsPerOne_pos
  have hcount : nearestEven (units * nanosecondsPerSecond) unitsPerOne < overflow := by
    refine Nat.lt_of_le_of_lt ((nearestEven_le_iff hpos (overflow - 1)).mpr (Or.inl ?_))
      (by decide)
    have hscaled := Nat.mul_le_mul_right (2 * nanosecondsPerSecond) hroom
    rw [Nat.add_mul, spanUnits] at hscaled
    simp only [nanosecondsPerSecond, overflow, UInt64.size] at hscaled ⊢
    generalize unitsPerOne = one at hpos hscaled ⊢
    omega
  obtain ⟨span, hspan, _⟩ := exists_ofSeconds? hsign hcount
  exact ⟨span, hspan⟩

/-! ### Numbers below a span -/

theorem nanosecondsPerSecond_pos : 0 < nanosecondsPerSecond := by decide

theorem nanoseconds_eq :
    span.nanoseconds = span.seconds * nanosecondsPerSecond + span.subsecond :=
  (Nat.div_add_mod' span.nanoseconds nanosecondsPerSecond).symm

/-- The part of a second is rounded up by less than half a nanosecond. -/
theorem fractionUnits_mul_le :
    2 * (span.fractionUnits * nanosecondsPerSecond) ≤ (2 * span.subsecond + 1) * unitsPerOne := by
  have hquotient : span.subsecond * unitsPerOne / nanosecondsPerSecond ≤ unitsPerOne := by
    refine Nat.div_le_of_le_mul ?_
    exact Nat.mul_le_mul_right _ (Nat.le_of_lt span.subsecond_lt)
  have hgap : nanosecondsPerSecond * gap unitsPerOne ≤ unitsPerOne := by decide +kernel
  calc 2 * (span.fractionUnits * nanosecondsPerSecond)
      ≤ 2 * (span.subsecond * unitsPerOne)
        + nanosecondsPerSecond * gap (span.subsecond * unitsPerOne / nanosecondsPerSecond) :=
          two_mul_roundUnits_le _ _
    _ ≤ 2 * (span.subsecond * unitsPerOne) + unitsPerOne :=
      Nat.add_le_add_left (Nat.le_trans (Nat.mul_le_mul_left _ (gap_le_gap hquotient)) hgap) _
    _ = (2 * span.subsecond + 1) * unitsPerOne := by
      rw [Nat.add_mul, Nat.one_mul, Nat.mul_assoc]

theorem fractionUnits_lt : span.fractionUnits < unitsPerOne := by
  have hfraction := span.fractionUnits_mul_le
  have hsubsecond := span.subsecond_lt
  have hscale : (2 * span.subsecond + 1) * unitsPerOne
      < 2 * (unitsPerOne * nanosecondsPerSecond) := by
    calc (2 * span.subsecond + 1) * unitsPerOne
        < 2 * nanosecondsPerSecond * unitsPerOne :=
          Nat.mul_lt_mul_of_pos_right (by omega) unitsPerOne_pos
      _ = 2 * (unitsPerOne * nanosecondsPerSecond) := by
          rw [Nat.mul_assoc, Nat.mul_comm unitsPerOne]
  exact Nat.lt_of_mul_lt_mul_right
    (Nat.lt_of_mul_lt_mul_left (Nat.lt_of_le_of_lt hfraction hscale))

variable {span}

theorem wholeUnits_eq (hsmall : span.seconds ≤ 2 ^ precision) :
    span.wholeUnits = span.seconds * unitsPerOne := by
  have hmul := roundUnits_mul Nat.one_pos (representable_mul_unitsPerOne hsmall).gap_dvd
  rwa [Nat.mul_one] at hmul

/-- Up to `2^53` seconds only the part of a second is rounded before the sum. -/
theorem whole_add_fraction_le {count : Nat} (hsmall : span.seconds ≤ 2 ^ precision)
    (h : (2 * span.nanoseconds + 1) * unitsPerOne ≤ 2 * (count * nanosecondsPerSecond)) :
    span.wholeUnits + span.fractionUnits ≤ count := by
  rw [span.nanoseconds_eq] at h
  rw [wholeUnits_eq hsmall]
  refine Nat.le_of_mul_le_mul_right ?_ (Nat.mul_pos (Nat.zero_lt_two) nanosecondsPerSecond_pos)
  calc (span.seconds * unitsPerOne + span.fractionUnits) * (2 * nanosecondsPerSecond)
      = 2 * (span.seconds * nanosecondsPerSecond) * unitsPerOne
        + 2 * (span.fractionUnits * nanosecondsPerSecond) := by grind
    _ ≤ 2 * (span.seconds * nanosecondsPerSecond) * unitsPerOne
        + (2 * span.subsecond + 1) * unitsPerOne :=
      Nat.add_le_add_left span.fractionUnits_mul_le _
    _ = (2 * (span.seconds * nanosecondsPerSecond + span.subsecond) + 1) * unitsPerOne := by grind
    _ ≤ 2 * (count * nanosecondsPerSecond) := h
    _ = count * (2 * nanosecondsPerSecond) := Nat.mul_left_comm ..

/-- From `2^53` seconds on the part of a second is less than half a gap. -/
theorem two_mul_fraction_lt {count : Nat} (hlarge : 2 ^ precision < span.seconds)
    (h : span.seconds * unitsPerOne ≤ count) : 2 * span.fractionUnits < gap count := by
  have hcount : 2 ^ (fractionBits + 1 + precision - 1) ≤ count := by
    calc 2 ^ (fractionBits + 1 + precision - 1) = 2 ^ precision * unitsPerOne := by decide +kernel
      _ ≤ span.seconds * unitsPerOne := Nat.mul_le_mul_right _ (Nat.le_of_lt hlarge)
      _ ≤ count := h
  calc 2 * span.fractionUnits < 2 * unitsPerOne :=
        Nat.mul_lt_mul_of_pos_left span.fractionUnits_lt (by decide)
    _ = 2 ^ (fractionBits + 1) := by rw [unitsPerOne, Nat.pow_succ, Nat.mul_comm]
    _ ≤ gap count := Nat.le_of_dvd (gap_pos count) (two_pow_dvd_gap _ hcount)

/-- A grid point that is half a nanosecond beyond a span is not below the number of the span. -/
theorem units_le_of_le {count : Nat} (hgrid : gap count ∣ count)
    (h : (2 * span.nanoseconds + 1) * unitsPerOne ≤ 2 * (count * nanosecondsPerSecond)) :
    span.units ≤ count := by
  by_cases hsmall : span.seconds ≤ 2 ^ precision
  · apply roundUnits_le Nat.one_pos hgrid
    rw [Nat.mul_one]
    exact whole_add_fraction_le hsmall h
  · have hseconds : span.seconds * unitsPerOne ≤ count := by
      refine Nat.le_of_mul_le_mul_right ?_ (Nat.mul_pos Nat.zero_lt_two nanosecondsPerSecond_pos)
      calc span.seconds * unitsPerOne * (2 * nanosecondsPerSecond)
          = 2 * (span.seconds * nanosecondsPerSecond) * unitsPerOne := by grind
        _ ≤ (2 * span.nanoseconds + 1) * unitsPerOne := by
          refine Nat.mul_le_mul_right _ ?_
          have hnanoseconds := span.nanoseconds_eq
          omega
        _ ≤ 2 * (count * nanosecondsPerSecond) := h
        _ = count * (2 * nanosecondsPerSecond) := Nat.mul_left_comm ..
    have hwhole : span.wholeUnits ≤ count := by
      apply roundUnits_le Nat.one_pos hgrid
      rwa [Nat.mul_one]
    have hfraction := two_mul_fraction_lt (Nat.lt_of_not_le hsmall) hseconds
    refine (roundUnits_le_iff Nat.one_pos hgrid).mpr (Or.inl ?_)
    omega

/-- **Below a span.** A number below that of a span becomes a span that is no longer. -/
theorem exists_ofSeconds?_le {negative : Bool} {units : Nat} {representable : Representable units}
    (hsign : negative = false ∨ units = 0) (hlt : units < span.units) :
    ∃ short, ofSeconds? (.finite negative units representable) = .ok short ∧ short ≤ span := by
  have hle : nearestEven (units * nanosecondsPerSecond) unitsPerOne ≤ span.nanoseconds := by
    have hwithin : 2 * (units * nanosecondsPerSecond) < (2 * span.nanoseconds + 1) * unitsPerOne :=
      Nat.lt_of_not_le fun hbeyond =>
        Nat.not_le.mpr hlt (units_le_of_le representable.gap_dvd hbeyond)
    rw [nearestEven_le_iff unitsPerOne_pos]
    exact Or.inl hwithin
  obtain ⟨short, hshort, hcount⟩ :=
    exists_ofSeconds? hsign (Nat.lt_of_le_of_lt hle span.lt_overflow)
  refine ⟨short, hshort, ?_⟩
  rw [le_iff, hcount]
  exact hle

end Span

end Retry
