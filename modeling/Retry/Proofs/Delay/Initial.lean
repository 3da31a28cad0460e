import Retry.Proofs.Delay.Growth

/-!
# The first delay

Before the first retry a backoff waits for its initial delay as it comes back from its number of
seconds. That is the initial delay itself below `2^23` seconds; beyond, it is near to the initial
delay (`Backoff.exists_first_delay`). No later delay is shorter than the first one, and with a
multiplier of one all delays are the first one, whether or not it is the initial delay.
-/

namespace Retry

open Binary64

variable {initial maximum first : Span} {m : Binary64}

namespace Backoff

theorem exponentOf_one : exponentOf 1 = 0 := rfl

theorem seconds_eq_inSeconds (h : initial ≠ Span.zero) {power : Binary64} (hpower : power = 1) :
    initial.inSeconds * power = initial.inSeconds := by
  rw [hpower, (positive_inSeconds h).mul_one]

theorem delay_one (h : initial ≠ Span.zero) (m : Binary64) (maximum : Span) :
    (exponential initial m maximum).delay 1 = capped maximum initial.inSeconds := by
  rw [delay_exponential h, exponentOf_one, seconds_eq_inSeconds h (Binary64.pow_zero m)]

theorem capped_inSeconds (maximum initial : Span) :
    capped maximum initial.inSeconds
      = if maximum.units ≤ initial.units then .ok maximum
        else Span.ofSeconds? initial.inSeconds := by
  rw [initial.inSeconds_eq, capped_finite]

theorem near_of_capped (hle : initial ≤ maximum)
    (hfirst : capped maximum initial.inSeconds = .ok first) : initial.Near first := by
  rw [capped_inSeconds] at hfirst
  split at hfirst
  · obtain rfl := Except.ok.inj hfirst
    exact Span.near_of_units_le hle ‹_›
  · exact Span.near_of_ofSeconds? hfirst

theorem first_eq_initial_iff (hfirst : capped maximum initial.inSeconds = .ok first) :
    first = initial ↔ initial = maximum
      ∨ initial.inSeconds < maximum.inSeconds
        ∧ Span.ofSeconds? initial.inSeconds = .ok initial := by
  rw [capped_inSeconds] at hfirst
  rw [initial.inSeconds_eq, maximum.inSeconds_eq, finite_lt_iff (Or.inl rfl) (Or.inl rfl),
    ← initial.inSeconds_eq]
  split at hfirst
  · obtain rfl := Except.ok.inj hfirst
    rename_i hle
    constructor
    · exact fun heq => Or.inl heq.symm
    · rintro (heq | ⟨hlt, _⟩)
      · exact heq.symm
      · exact absurd hle (Nat.not_le.mpr hlt)
  · rename_i hlt
    rw [hfirst]
    constructor
    · rintro rfl
      exact Or.inr ⟨Nat.lt_of_not_le hlt, rfl⟩
    · rintro (rfl | ⟨_, heq⟩)
      · exact absurd (Nat.le_refl _) hlt
      · exact Except.ok.inj heq

theorem first_eq_initial (hle : initial ≤ maximum) (hsmall : initial.seconds < Span.exactSeconds)
    (hfirst : capped maximum initial.inSeconds = .ok first) : first = initial := by
  rw [capped_inSeconds] at hfirst
  split at hfirst
  · have hge := Span.le_of_units_le hsmall ‹_›
    exact (Except.ok.inj hfirst).symm.trans (Span.ext (Nat.le_antisymm hge hle))
  · rw [Span.ofSeconds?_inSeconds hsmall] at hfirst
    exact (Except.ok.inj hfirst).symm

/-- **The first delay** is the initial one as it comes back from its number of seconds, unless this
is the number of the maximum; it is never far from the initial delay, and the same below `2^23`
seconds. All later delays are at least as long, and equal if nothing is multiplied. -/
theorem exists_first_delay {backoff : Backoff}
    (haccepted : exponential? initial m maximum = .ok backoff) :
    ∃ first, backoff.delay 1 = .ok first
      ∧ initial.Near first
      ∧ (first = initial ↔ initial = maximum
        ∨ initial.inSeconds < maximum.inSeconds
          ∧ Span.ofSeconds? initial.inSeconds = .ok initial)
      ∧ (initial.seconds < Span.exactSeconds → first = initial)
      ∧ ∀ retry, ∃ delay, backoff.delay retry = .ok delay ∧ first ≤ delay
        ∧ (m = 1 → delay = first) := by
  obtain ⟨hfinite, hone, hinitial, hmaximum, rfl⟩ := exponential?_eq_ok_iff.mp haccepted
  have hle : initial ≤ maximum := Nat.le_of_not_lt hmaximum
  have hm := upTo_one_of_not_lt hfinite hone
  obtain ⟨first, hfirst, _⟩ := exists_capped_le maximum (positive_inSeconds hinitial).notNegative
  refine ⟨first, (delay_one hinitial m maximum).trans hfirst, near_of_capped hle hfirst,
    first_eq_initial_iff hfirst, fun hsmall => first_eq_initial hle hsmall hfirst, ?_⟩
  intro retry
  rw [delay_exponential hinitial]
  obtain ⟨least, delay, hleast, hdelay, hgrowth⟩ := exists_capped_le_capped maximum
    (positive_inSeconds hinitial)
    ((positive_inSeconds hinitial).upTo_mul (one_upTo_pow hm (exponentOf retry)))
  obtain rfl := Except.ok.inj (hleast.symm.trans hfirst)
  refine ⟨delay, hdelay, hgrowth, ?_⟩
  intro hconstant
  rw [hconstant, seconds_eq_inSeconds hinitial (Binary64.one_pow _), hfirst] at hdelay
  exact (Except.ok.inj hdelay).symm

/-- The last nanosecond before the limit of `2^23` seconds. -/
theorem exists_first_delay_of_limit :
    let initial : Span := ⟨8_388_607_999_999_999, by decide⟩
    let maximum := Span.ofSeconds 8_388_608
    let backoff := exponential initial 1 maximum
    exponential? initial 1 maximum = .ok backoff
      ∧ ∃ first, backoff.delay 1 = .ok first
        ∧ initial.Near first
        ∧ (first = initial ↔ initial = maximum
          ∨ initial.inSeconds < maximum.inSeconds
            ∧ Span.ofSeconds? initial.inSeconds = .ok initial)
        ∧ (initial.seconds < Span.exactSeconds → first = initial)
        ∧ ∀ retry, ∃ delay, backoff.delay retry = .ok delay ∧ first ≤ delay
          ∧ ((1 : Binary64) = 1 → delay = first) := by
  intro initial maximum backoff
  have haccepted : exponential? initial 1 maximum = .ok backoff :=
    exponential?_eq_ok_iff.mpr ⟨by decide +kernel, by decide +kernel, by decide, by decide, rfl⟩
  exact ⟨haccepted, exists_first_delay haccepted⟩

/-- Eight nanoseconds beyond `2^23` seconds come back as seven. -/
theorem exists_delay_one_lt_initial :
    let initial : Span := ⟨8_388_608_000_000_008, by decide⟩
    let maximum := Span.ofSeconds 16_777_216
    let backoff := exponential initial 1 maximum
    exponential? initial 1 maximum = .ok backoff
      ∧ ∃ delay, backoff.delay 1 = .ok delay ∧ delay < initial := by
  intro initial maximum backoff
  have haccepted : exponential? initial 1 maximum = .ok backoff :=
    exponential?_eq_ok_iff.mpr ⟨by decide +kernel, by decide +kernel, by decide, by decide, rfl⟩
  have hbelow : ¬ maximum.units ≤ initial.units := by decide +kernel
  have hcount : nearestEven (initial.units * Span.nanosecondsPerSecond) unitsPerOne
      = 8_388_608_000_000_007 := by decide +kernel
  obtain ⟨delay, hdelay, hnanoseconds⟩ := Span.exists_ofSeconds?_inSeconds hcount (by decide)
  refine ⟨haccepted, delay, ?_, ?_⟩
  · rw [delay_one (by decide), capped_inSeconds, if_neg hbelow, hdelay]
  · rw [Span.lt_iff, hnanoseconds]
    decide

end Backoff

end Retry
