import Retry.Proofs.Binary64.Power
import Retry.Proofs.Delay
import Retry.Proofs.Span.Precision

/-!
# Delays that grow

The seconds of an accepted backoff grow from retry to retry, as powers do that are taken by repeated
squaring, until they are infinite. What is made of them keeps the order: the maximum is no shorter
than any delay below it, and below it greater numbers of seconds are no shorter spans. So no delay
is shorter than an earlier one (`Backoff.delay_le_delay`).
-/

namespace Retry

open Binary64

namespace Backoff

variable {initial maximum : Span} {m seconds seconds' : Binary64} {retry retry' : UInt32}

theorem exponentOf_le_exponentOf (h : retry ≤ retry') : exponentOf retry ≤ exponentOf retry' := by
  have hle : retry.toNat ≤ retry'.toNat := UInt32.le_iff_toNat_le.mp h
  rw [exponentOf, exponentOf]
  omega

/-! ### Seconds -/

theorem positive_inSeconds (h : initial ≠ Span.zero) : initial.inSeconds.Positive := by
  rw [initial.inSeconds_eq]
  exact .finite (Span.units_pos h)

theorem positive_seconds (hinitial : initial ≠ Span.zero) (hm : UpTo 1 m) (exponent : Nat) :
    (initial.inSeconds * m ^ exponent).Positive :=
  have hpositive := positive_inSeconds hinitial
  hpositive.of_upTo (hpositive.upTo_mul (one_upTo_pow hm exponent))

theorem seconds_upTo_seconds (hinitial : initial ≠ Span.zero) (hm : UpTo 1 m)
    (h : retry ≤ retry') :
    (initial.inSeconds * m ^ exponentOf retry).UpTo
      (initial.inSeconds * m ^ exponentOf retry') := by
  have hpositive := positive_inSeconds hinitial
  apply UpTo.mul hpositive
  · exact positive_one.of_upTo (one_upTo_pow hm _)
  · exact hpositive.upTo_self
  · exact pow_upTo_pow hm (exponentOf_le_exponentOf h)

/-! ### Delays -/

theorem exists_capped_le_capped (maximum : Span) (hpositive : seconds.Positive)
    (h : seconds.UpTo seconds') :
    ∃ delay delay', capped maximum seconds = .ok delay ∧ capped maximum seconds' = .ok delay'
      ∧ delay ≤ delay' := by
  obtain ⟨delay, hdelay, hmaximum⟩ := exists_capped_le maximum hpositive.notNegative
  obtain ⟨delay', hdelay', _⟩ := exists_capped_le maximum (hpositive.of_upTo h).notNegative
  refine ⟨delay, delay', hdelay, hdelay', ?_⟩
  cases h with
  | below =>
      obtain rfl := Except.ok.inj hdelay'
      exact hmaximum
  | infinity =>
      obtain rfl := Except.ok.inj hdelay'
      exact hmaximum
  | @finite units units' _ _ hle =>
      rw [capped_finite] at hdelay hdelay'
      split at hdelay'
      · obtain rfl := Except.ok.inj hdelay'
        exact hmaximum
      · rename_i hbelow
        rw [if_neg (by omega)] at hdelay
        exact Span.le_of_ofSeconds? hle hdelay hdelay'

/-- **Growth.** No delay of an accepted backoff is shorter than an earlier one. -/
theorem delay_le_delay {backoff : Backoff}
    (haccepted : exponential? initial m maximum = .ok backoff) (h : retry ≤ retry') :
    ∃ delay delay', backoff.delay retry = .ok delay ∧ backoff.delay retry' = .ok delay'
      ∧ delay ≤ delay' := by
  obtain ⟨hfinite, hone, hinitial, _, rfl⟩ := exponential?_eq_ok_iff.mp haccepted
  have hm := upTo_one_of_not_lt hfinite hone
  rw [delay_exponential hinitial, delay_exponential hinitial]
  exact exists_capped_le_capped maximum (positive_seconds hinitial hm _)
    (seconds_upTo_seconds hinitial hm h)

/-- The 68th delay is below the maximum. Before the last retry the exponent is cut off, and the
power is infinite. -/
theorem delay_le_delay_of_longest :
    let initial := Span.ofMilliseconds 100
    let backoff := exponential initial 2 .longest
    exponential? initial 2 .longest = .ok backoff
      ∧ (68 : UInt32) ≤ 4_294_967_295
      ∧ ∃ delay delay', backoff.delay 68 = .ok delay ∧ backoff.delay 4_294_967_295 = .ok delay'
        ∧ delay ≤ delay' := by
  intro initial backoff
  have haccepted : exponential? initial 2 .longest = .ok backoff :=
    exponential?_eq_ok_iff.mpr ⟨by decide +kernel, by decide +kernel, by decide, by decide, rfl⟩
  have hle : (68 : UInt32) ≤ 4_294_967_295 := by decide
  exact ⟨haccepted, hle, delay_le_delay haccepted hle⟩

end Backoff

end Retry
