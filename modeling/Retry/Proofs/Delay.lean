import Retry.Proofs.Span.Seconds
import Retry.Template

/-!
# Every delay can be computed

A delay fails only on a number of seconds that is negative or too large for a span. Multipliers and
factors that are not negative give no negative number, and what is too large never comes to be
converted: an exponential backoff compares with its maximum first, and jitter with `2^64` seconds.
So an exponential backoff always waits, and never longer than its maximum
(`Backoff.delay_le_maximum`).
-/

namespace Retry

open Binary64

/-- A backoff whose multiplier, if there is one, is not below zero. -/
def Backoff.NotNegative : Backoff → Prop
  | .exponential _ multiplier _ => ¬ multiplier < 0
  | _ => True

theorem Backoff.exponential?_eq_ok_iff {initial maximum : Span} {m : Binary64} {backoff : Backoff} :
    exponential? initial m maximum = .ok backoff ↔ m.isFinite = true ∧ ¬ m < 1
      ∧ initial ≠ Span.zero ∧ ¬ maximum < initial ∧ .exponential initial m maximum = backoff := by
  unfold exponential?
  generalize (1 : Binary64) = one
  by_cases hfinite : m.isFinite = true <;> by_cases hone : m < one <;>
    by_cases hinitial : initial = Span.zero <;> by_cases hmaximum : maximum < initial <;>
    simp [hfinite, hone, hinitial, hmaximum]

/-- The delay that a number of seconds makes, up to a maximum. -/
def Backoff.capped (maximum : Span) (seconds : Binary64) : Except Span.ConversionError Span :=
  if !seconds.isFinite ∨ maximum.inSeconds ≤ seconds then .ok maximum
  else Span.ofSeconds? seconds

theorem Backoff.delay_exponential {initial : Span} (h : initial ≠ Span.zero) (m : Binary64)
    (maximum : Span) (retry : UInt32) :
    (exponential initial m maximum).delay retry
      = capped maximum (initial.inSeconds * m ^ exponentOf retry) := by
  rw [delay]
  exact if_neg h

theorem Backoff.capped_finite {maximum : Span} {units : Nat} (representable : Representable units) :
    capped maximum (.finite false units representable)
      = if maximum.units ≤ units then .ok maximum
        else Span.ofSeconds? (.finite false units representable) := by
  have hle : (finite false maximum.units maximum.representable_units : Binary64)
      ≤ .finite false units representable ↔ maximum.units ≤ units :=
    finite_le_iff (Or.inl rfl) (Or.inl rfl)
  simp only [capped, maximum.inSeconds_eq, hle, isFinite, Bool.not_true, Bool.false_eq_true,
    false_or]

/-- The comparison is with the number of the maximum, which may be above the maximum, but no delay
comes to lie between the two. -/
theorem Backoff.exists_capped_le (maximum : Span) {seconds : Binary64} (h : seconds.NotNegative) :
    ∃ delay, capped maximum seconds = .ok delay ∧ delay ≤ maximum := by
  rw [capped]
  split
  · exact ⟨_, rfl, Nat.le_refl _⟩
  · rename_i hwithin
    cases h with
    | nan => simp [isFinite] at hwithin
    | infinity => simp [isFinite] at hwithin
    | @finite negative units representable hsign =>
        refine Span.exists_ofSeconds?_le hsign ?_
        rw [maximum.inSeconds_eq, finite_le_iff (Or.inl rfl) hsign] at hwithin
        exact Nat.not_le.mp fun hle => hwithin (Or.inr hle)

theorem Backoff.exists_exponential_delay_le (initial maximum : Span) {multiplier : Binary64}
    (h : ¬ multiplier < 0) (retry : UInt32) :
    ∃ delay, (exponential initial multiplier maximum).delay retry = .ok delay
      ∧ delay ≤ maximum := by
  by_cases hinitial : initial = Span.zero
  · exact ⟨Span.zero, if_pos hinitial, Nat.zero_le _⟩
  · rw [delay_exponential hinitial]
    apply exists_capped_le
    rw [initial.inSeconds_eq]
    exact (NotNegative.finite (Or.inl rfl)).mul ((notNegative_iff.mpr h).pow _)

/-- **Maximum.** Before every retry an exponential backoff waits, and no longer than its maximum, to
the nanosecond. This holds of all backoffs that are accepted, and also of one that nobody checked,
unless its multiplier is below zero. The undefined and the infinite number are not. -/
theorem Backoff.delay_le_maximum (initial maximum : Span) (multiplier : Binary64)
    (retry : UInt32) :
    (∀ backoff, exponential? initial multiplier maximum = .ok backoff →
        ∃ delay, backoff.delay retry = .ok delay ∧ delay ≤ maximum)
      ∧ (¬ multiplier < 0 →
        ∃ delay, (exponential initial multiplier maximum).delay retry = .ok delay
          ∧ delay ≤ maximum) := by
  refine ⟨fun backoff haccepted => ?_, fun hsign =>
    exists_exponential_delay_le initial maximum hsign retry⟩
  obtain ⟨hfinite, hone, _, _, rfl⟩ := exponential?_eq_ok_iff.mp haccepted
  have hsign := notNegative_iff.mp (notNegative_of_not_lt_one hfinite hone)
  exact exists_exponential_delay_le initial maximum hsign retry

/-- The number of the longest span is above that span. The 68th delay is still below the number,
and an undefined one gives way to the maximum. -/
theorem Backoff.delay_le_maximum_of_longest :
    let initial := Span.ofMilliseconds 100
    let backoff := exponential initial 2 .longest
    exponential? initial 2 .longest = .ok backoff
      ∧ (∃ delay, backoff.delay 68 = .ok delay ∧ delay ≤ .longest)
      ∧ ¬ Binary64.nan < 0
      ∧ ∃ delay, (exponential initial .nan .longest).delay 68 = .ok delay ∧ delay ≤ .longest := by
  intro initial backoff
  have haccepted : exponential? initial 2 .longest = .ok backoff :=
    exponential?_eq_ok_iff.mpr ⟨by decide +kernel, by decide +kernel, by decide, by decide, rfl⟩
  have hundefined : ¬ Binary64.nan < 0 := id
  exact ⟨haccepted, (delay_le_maximum initial .longest 2 68).1 backoff haccepted, hundefined,
    (delay_le_maximum initial .longest .nan 68).2 hundefined⟩

/-- **Backoffs.** A backoff that multiplies by nothing negative has a delay before every retry. -/
theorem Backoff.exists_delay_eq {backoff : Backoff} (h : backoff.NotNegative) (retry : UInt32) :
    ∃ delay, backoff.delay retry = .ok delay := by
  cases backoff with
  | none => exact ⟨_, rfl⟩
  | fixed interval => exact ⟨_, rfl⟩
  | exponential initial multiplier maximum =>
      obtain ⟨delay, hdelay, _⟩ := exists_exponential_delay_le initial maximum h retry
      exact ⟨delay, hdelay⟩

theorem Jitter.lowest_eq : lowest = ofQuotient false (8 * unitsPerOne) 10 := by
  change ofNat 8 / ofNat 10 = _
  exact ofNat_div_ofNat (by decide) (by decide) (by decide)

theorem Jitter.notNegative_lowest : lowest.NotNegative := by
  rw [lowest_eq]
  exact notNegative_ofQuotient _ (Or.inl rfl)

/-- **Jitter.** A factor within the range makes a delay of a delay. -/
theorem Jitter.exists_scale_eq {factor : Binary64} (h : Jitter.InRange factor) (delay : Span) :
    ∃ scaled, Jitter.scale factor delay = .ok scaled := by
  have hfactor : factor.NotNegative := by
    have hlowest := notNegative_lowest
    unfold InRange at h
    generalize lowest = least at h hlowest
    exact hlowest.of_le h.1
  have hsign : (delay.inSeconds * factor).NotNegative := by
    rw [delay.inSeconds_eq]
    exact (NotNegative.finite (Or.inl rfl)).mul hfactor
  rw [scale]
  generalize delay.inSeconds * factor = seconds at hsign
  split
  · rename_i hwithin
    cases hsign with
    | nan => simp [isFinite] at hwithin
    | infinity => simp [isFinite] at hwithin
    | @finite negative units representable hsign =>
        rw [ofNat_size_eq, finite_lt_iff hsign (Or.inl rfl)] at hwithin
        exact Span.exists_ofSeconds?_eq hsign hwithin.2
  · exact ⟨_, rfl⟩

theorem Template.delay_of_nominal {π : Type u} {template : Template π} {retry : UInt32}
    {nominal : Span} (h : template.backoff.delay retry = .ok nominal) (factor : Binary64) :
    template.delay factor retry
      = if template.jitter then Jitter.scale factor nominal else .ok nominal := by
  rw [delay, h]
  rfl

theorem Template.exists_delay_eq {π : Type u} (template : Template π) {factor : Binary64}
    (hbackoff : template.backoff.NotNegative)
    (hfactor : template.jitter = true → Jitter.InRange factor) (retry : UInt32) :
    ∃ delay, template.delay factor retry = .ok delay := by
  obtain ⟨nominal, hnominal⟩ := Backoff.exists_delay_eq hbackoff retry
  rw [delay_of_nominal hnominal]
  by_cases hjitter : template.jitter = true
  · rw [if_pos hjitter]
    exact Jitter.exists_scale_eq (hfactor hjitter) nominal
  · rw [if_neg hjitter]
    exact ⟨nominal, rfl⟩

end Retry
