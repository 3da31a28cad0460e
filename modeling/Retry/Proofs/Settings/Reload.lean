import Retry.Proofs.Binary64.Order
import Retry.Proofs.Delay
import Retry.Proofs.Json.ReadBack
import Retry.Proofs.Settings.Build
import Retry.Proofs.Settings.RoundTrip

/-!
# Templates from settings that were saved

Settings that make a template make one again after they were saved and read. The two templates
differ in the multiplier of their backoffs at most, and there by no more than two neighbours
(`Settings.build_reloaded`). They are the same if and only if the multiplier is read as it was.
-/

namespace Retry

open Json Binary64

namespace Binary64

variable {m : Binary64}

/-- Whether two numbers from one upwards have at most one representable number between them. -/
inductive Near : Binary64 → Binary64 → Prop
  | finite {units units' : Nat} {representable : Representable units}
      {representable' : Representable units'} (habove : units' ≤ next (next units))
      (hbelow : units ≤ next (next units')) :
      Near (.finite false units representable) (.finite false units' representable')

/-- Whether a number is written with so few digits that it is read exactly. -/
def Short (m : Binary64) : Prop :=
  ∀ numeral, (Number.float m).tree = .number numeral → numeral.Short

/-- **A finite number from one upwards is read as one that is near.** -/
theorem exists_readAs (hfinite : m.isFinite = true) (hone : ¬ m < 1) :
    ∃ read, m.ReadAs read ∧ read.isFinite = true ∧ ¬ read < 1 ∧ m.Near read
      ∧ (m.Short → read = m) := by
  cases m with
  | nan => cases hfinite
  | infinity => cases hfinite
  | finite negative units representable =>
      obtain ⟨rfl, hunits⟩ := not_lt_one_iff.mp hone
      obtain ⟨read, hread, hvalue, hlower, habove, hbelow, hshort⟩ :=
        Numeral.exists_value?_ofUnits representable hunits
      refine ⟨.finite false read hread, readAs_iff.mpr fun depth => ?_, rfl,
        not_lt_one_iff.mpr ⟨rfl, hlower⟩, .finite habove hbelow, fun h => ?_⟩
      · rw [Value.tree, Number.tree, Tree.value?, hvalue]
        rfl
      · obtain rfl := hshort (h _ rfl)
        rfl

theorem ReadAs.eq {read read' : Binary64} (h : m.ReadAs read) (h' : m.ReadAs read') :
    read = read' := by
  rw [ReadAs, h'] at h
  cases h
  rfl

end Binary64

/-! ### Backoffs -/

/-- The same backoffs, but for multipliers that are near. -/
inductive Backoff.Near : Backoff → Backoff → Prop
  | none : Near .none .none
  | fixed (interval : Span) : Near (.fixed interval) (.fixed interval)
  | exponential (initial maximum : Span) {m m' : Binary64} (h : m.Near m') :
      Near (.exponential initial m maximum) (.exponential initial m' maximum)

theorem BackoffSettings.build_exponential (initialMs : UInt64) {m : Binary64} (maxMs : UInt64)
    (hfinite : m.isFinite = true) (hone : ¬ m < 1)
    (hinitial : Span.ofMilliseconds initialMs ≠ Span.zero)
    (hmaximum : ¬ Span.ofMilliseconds maxMs < Span.ofMilliseconds initialMs) :
    build (.exponential initialMs m maxMs)
      = .ok (.exponential (.ofMilliseconds initialMs) m (.ofMilliseconds maxMs)) :=
  Backoff.exponential?_eq_ok_iff.mpr ⟨hfinite, hone, hinitial, hmaximum, rfl⟩

/-- What a backoff is read as can be built, and the backoff is near. It is the same exactly if the
multiplier is read as it was. -/
theorem BackoffSettings.exists_readAs {settings : BackoffSettings} {backoff : Backoff}
    (h : settings.build = .ok backoff) :
    ∃ read rebuilt, settings.ReadAs read ∧ read.build = .ok rebuilt ∧ backoff.Near rebuilt
      ∧ (rebuilt = backoff ↔ ∀ m ∈ settings.multiplier?, m.ReadsBack)
      ∧ ((∀ m ∈ settings.multiplier?, m.Short) → rebuilt = backoff) := by
  cases settings with
  | none =>
      obtain rfl := Except.ok.inj h
      exact ⟨_, _, .none, rfl, .none, by simp [multiplier?], fun _ => rfl⟩
  | fixed intervalMs =>
      obtain rfl := Except.ok.inj h
      exact ⟨_, _, .fixed intervalMs, rfl, .fixed _, by simp [multiplier?], fun _ => rfl⟩
  | exponential initialMs m maxMs =>
      obtain ⟨hfinite, hone, hinitial, hmaximum, rfl⟩ := Backoff.exponential?_eq_ok_iff.mp h
      obtain ⟨read, hread, hfinite', hone', hnear, hshort⟩ := Binary64.exists_readAs hfinite hone
      refine ⟨_, _, .exponential initialMs maxMs hread,
        build_exponential initialMs maxMs hfinite' hone' hinitial hmaximum,
        .exponential _ _ hnear, ?_, fun h => by rw [hshort (h m rfl)]⟩
      have heq : read = m ↔ m.ReadsBack :=
        ⟨fun heq => show m.ReadAs m by rwa [heq] at hread, fun h => hread.eq h⟩
      simpa [multiplier?] using heq

/-! ### Templates -/

namespace Settings

variable {settings : Settings} {built : Template Policy × List Entry}

theorem build_eq_ok_iff : settings.build = .ok built ↔ ∃ attempts duration backoff,
    settings.attemptLimit = .ok attempts ∧ settings.maxDurationMs.mapM timeLimit = .ok duration
      ∧ settings.backoff.build = .ok backoff
      ∧ (((Template.new (policy attempts duration)).withBackoff backoff).withJitter settings.jitter,
        [Entry.built attempts.maximum.toNat (settings.maxDurationMs.map Int64.toInt) backoff])
          = built := by
  unfold build
  cases settings.attemptLimit <;> cases settings.maxDurationMs.mapM timeLimit <;>
    cases settings.backoff.build <;> simp [bind, Except.bind, pure, Except.pure]

theorem build_with {backoff : BackoffSettings} {rebuilt : Backoff}
    (h : settings.build = .ok built) (hbackoff : backoff.build = .ok rebuilt) :
    ∃ other, { settings with backoff }.build = .ok other
      ∧ other.1 = built.1.withBackoff rebuilt := by
  obtain ⟨attempts, duration, old, hattempts, hduration, -, rfl⟩ := build_eq_ok_iff.mp h
  exact ⟨_, build_eq_ok_iff.mpr ⟨attempts, duration, rebuilt, hattempts, hduration, hbackoff, rfl⟩,
    rfl⟩

theorem exists_build_of_backoff {backoff : BackoffSettings} {rebuilt : Backoff}
    (h : backoff.build = .ok rebuilt) :
    ∃ built, build { backoff } = .ok built ∧ built.1.backoff = rebuilt := by
  have hdefault : build {} = .ok _ := rfl
  obtain ⟨built, hbuilt, hold⟩ := build_with hdefault h
  exact ⟨built, hbuilt, by rw [hold]; rfl⟩

/-- **Settings that make a template are read as settings that make nearly the same one**, from the
compact and from the indented text. Policy and jitter are the same, and the backoff is up to two
neighbours of its multiplier. The templates are equal exactly if the multiplier is read as it was,
which it is if it is written with few digits. -/
theorem build_reloaded (h : settings.build = .ok built) :
    ∃ reloaded rebuilt, ofText? settings.text = .ok reloaded
      ∧ ofText? settings.indentedText = .ok reloaded ∧ reloaded.build = .ok rebuilt
      ∧ rebuilt.1.policy = built.1.policy ∧ rebuilt.1.jitter = built.1.jitter
      ∧ rebuilt.1.listeners = built.1.listeners ∧ built.1.backoff.Near rebuilt.1.backoff
      ∧ (rebuilt.1 = built.1 ↔ ∀ m ∈ settings.backoff.multiplier?, m.ReadsBack)
      ∧ ((∀ m ∈ settings.backoff.multiplier?, m.Short) → rebuilt.1 = built.1) := by
  obtain ⟨attempts, duration, backoff, -, -, hbackoff, hbuilt⟩ := build_eq_ok_iff.mp h
  have hold : built.1.backoff = backoff := hbuilt ▸ rfl
  obtain ⟨read, new, hread, hnew, hnear, hsame, hshort⟩ := BackoffSettings.exists_readAs hbackoff
  obtain ⟨rebuilt, hrebuilt, htemplate⟩ := build_with h hnew
  obtain ⟨htext, hindented⟩ := ofText?_of_readAs settings hread
  have heq : built.1.withBackoff new = built.1 ↔ new = backoff := by
    rw [← hold]
    refine ⟨fun h => congrArg Template.backoff h, fun h => ?_⟩
    rw [h]
    rfl
  refine ⟨_, rebuilt, htext, hindented, hrebuilt, ?_⟩
  rw [htemplate, heq]
  exact ⟨rfl, rfl, rfl, hold ▸ hnear, hsame, hshort⟩

theorem build_reloaded_doubling : ∃ built reloaded rebuilt,
    build { backoff := .exponential 100 2 1000 } = .ok built
      ∧ ofText? (text { backoff := .exponential 100 2 1000 }) = .ok reloaded
      ∧ reloaded.build = .ok rebuilt ∧ rebuilt.1 = built.1 := by
  obtain ⟨built, hbuilt, -⟩ := exists_build_of_backoff
    (BackoffSettings.build_exponential 100 (m := 2) 1000 (by decide +kernel) (by decide +kernel)
      (by decide) (by decide))
  obtain ⟨reloaded, rebuilt, htext, -, hrebuilt, -, -, -, -, hsame, -⟩ := build_reloaded hbuilt
  refine ⟨built, reloaded, rebuilt, hbuilt, htext, hrebuilt, hsame.mpr fun m hm => ?_⟩
  obtain rfl : 2 = m := Option.some.inj hm
  decide +kernel

/-- A backoff from thirty years upwards, whose multiplier has the given interchange format. -/
def longBackoff (bits : UInt64) : BackoffSettings :=
  .exponential 1_000_000_000_000 (.ofBits bits) 10_000_000_000_000

/-- The multiplier `1.0385653317901373` is read as the number before it, and the second delay is
shorter then. -/
theorem exists_build_reloaded_drifts : ∃ built reloaded rebuilt,
    build { backoff := longBackoff 0x3ff09df6ae6cc4ba } = .ok built
      ∧ ofText? (text { backoff := longBackoff 0x3ff09df6ae6cc4ba }) = .ok reloaded
      ∧ reloaded.build = .ok rebuilt
      ∧ rebuilt.1.backoff.delay 2 ≠ built.1.backoff.delay 2 := by
  have hread : (Binary64.ofBits 0x3ff09df6ae6cc4ba).ReadAs (.ofBits 0x3ff09df6ae6cc4b9) := by
    decide +kernel
  have hbuild (bits : UInt64) (hfinite : (Binary64.ofBits bits).isFinite = true)
      (hone : ¬ Binary64.ofBits bits < 1) :=
    exists_build_of_backoff (BackoffSettings.build_exponential 1_000_000_000_000
      10_000_000_000_000 hfinite hone (by decide) (by decide))
  obtain ⟨built, hbuilt, hbackoff⟩ :=
    hbuild 0x3ff09df6ae6cc4ba (by decide +kernel) (by decide +kernel)
  obtain ⟨rebuilt, hrebuilt, hbackoff'⟩ :=
    hbuild 0x3ff09df6ae6cc4b9 (by decide +kernel) (by decide +kernel)
  have htext : ofText? (text { backoff := longBackoff 0x3ff09df6ae6cc4ba })
      = .ok { backoff := longBackoff 0x3ff09df6ae6cc4b9 } :=
    (ofText?_of_readAs { backoff := longBackoff 0x3ff09df6ae6cc4ba } (.exponential _ _ hread)).1
  refine ⟨built, _, rebuilt, hbuilt, htext, hrebuilt, ?_⟩
  rw [hbackoff, hbackoff']
  decide +kernel

end Settings

end Retry
