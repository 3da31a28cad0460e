import Retry.Proofs.Binary64.Sign
import Retry.Settings.Basic

/-!
# Settings that make a template

A template is built from settings that meet five requirements, and from no others
(`Settings.build_checks`). They are checked one after the other, so the error of other settings
names the first requirement that is not met, whatever else is wrong with them.

`Settings.Checks` says of a part of the build which requirements it checks, in which order. Parts
are put in a row by `Checks.bind`, and their requirements stand in the same row.
-/

namespace Retry

/-! ### What settings must meet -/

inductive Requirement where
  | attempts
  | duration
  | multiplier
  | initial
  | maximum
deriving DecidableEq

/-- Only an exponential backoff has to meet anything. -/
def BackoffSettings.Meets : BackoffSettings → Requirement → Prop
  | .exponential _ multiplier _, .multiplier => multiplier.isFinite = true ∧ 1 ≤ multiplier
  | .exponential initialMs _ _, .initial => 1 ≤ initialMs.toNat
  | .exponential initialMs _ maxMs, .maximum => initialMs.toNat ≤ maxMs.toNat
  | _, _ => True

instance (backoff : BackoffSettings) (requirement : Requirement) :
    Decidable (backoff.Meets requirement) := by
  unfold BackoffSettings.Meets
  split <;> infer_instance

namespace Requirement

/-- The requirements in the order in which they are checked. -/
def all : List Requirement := [.attempts, .duration, .multiplier, .initial, .maximum]

def Met (settings : Settings) : Requirement → Prop
  | .attempts => 1 ≤ settings.maxAttempts.toInt ∧ settings.maxAttempts.toInt < UInt32.size
  | .duration => ∀ milliseconds ∈ settings.maxDurationMs, 1 ≤ milliseconds.toInt
  | requirement => settings.backoff.Meets requirement

instance (settings : Settings) (requirement : Requirement) :
    Decidable (requirement.Met settings) :=
  match requirement with
  | .attempts => instDecidableAnd
  | .duration => Option.decidableForallMem settings.maxDurationMs
  | .multiplier => inferInstanceAs (Decidable (settings.backoff.Meets .multiplier))
  | .initial => inferInstanceAs (Decidable (settings.backoff.Meets .initial))
  | .maximum => inferInstanceAs (Decidable (settings.backoff.Meets .maximum))

/-- The error that tells of a requirement, with the settings that do not meet it. -/
inductive Names (settings : Settings) : Requirement → SettingsError → Prop
  | noAttempts (h : settings.maxAttempts.toInt = 0) : Names settings .attempts .noAttempts
  | attemptsOutOfRange (h : settings.maxAttempts.toInt ≠ 0) :
      Names settings .attempts (.attemptsOutOfRange settings.maxAttempts.toInt)
  | durationNotPositive {milliseconds : Int64} (h : settings.maxDurationMs = some milliseconds) :
      Names settings .duration (.durationNotPositive milliseconds.toInt)
  | multiplierRefused {initialMs maxMs : UInt64} {multiplier : Binary64}
      (h : settings.backoff = .exponential initialMs multiplier maxMs) :
      Names settings .multiplier (.multiplierRefused multiplier)
  | zeroInitialBackoff : Names settings .initial .zeroInitialBackoff
  | initialAboveMaximum {initialMs maxMs : UInt64} {multiplier : Binary64}
      (h : settings.backoff = .exponential initialMs multiplier maxMs) :
      Names settings .maximum
        (.initialAboveMaximum (.ofMilliseconds initialMs) (.ofMilliseconds maxMs))

end Requirement

/-! ### What settings describe -/

/-- A backoff with the same values, its spans in nanoseconds. -/
inductive BackoffSettings.Describes : BackoffSettings → Backoff → Prop
  | none : Describes .none .none
  | fixed {intervalMs : UInt64} {interval : Span}
      (h : interval.nanoseconds = intervalMs.toNat * 1_000_000) :
      Describes (.fixed intervalMs) (.fixed interval)
  | exponential {initialMs maxMs : UInt64} {multiplier : Binary64} {initial maximum : Span}
      (hinitial : initial.nanoseconds = initialMs.toNat * 1_000_000)
      (hmaximum : maximum.nanoseconds = maxMs.toNat * 1_000_000) :
      Describes (.exponential initialMs multiplier maxMs)
        (.exponential initial multiplier maximum)

namespace Settings

/-- The part of a policy that bounds the time, by the clock of the process, if the settings ask
for it. -/
inductive DescribesDuration (settings : Settings) : Policy → Prop
  | absent (h : settings.maxDurationMs = none) : DescribesDuration settings .absent
  | present {milliseconds : Int64} {bound : Span} (h : settings.maxDurationMs = some milliseconds)
      (hbound : (bound.nanoseconds : Int) = milliseconds.toInt * 1_000_000) :
      DescribesDuration settings (.present (.duration ⟨bound, .monotonic⟩))

/-- A template is what the settings say, with nothing added. -/
structure Describes (settings : Settings) (template : Template Policy) : Prop where
  policy : ∃ limit duration, template.policy = .both (.attempts limit) duration
    ∧ (limit.maximum.toNat : Int) = settings.maxAttempts.toInt
    ∧ settings.DescribesDuration duration
  backoff : settings.backoff.Describes template.backoff
  jitter : template.jitter = settings.jitter
  listeners : template.listeners = 0

/-! ### Checks in a row -/

/-- A computation succeeds exactly if the requirements are met. Otherwise its error names the first
one that is not. -/
structure Checks {α : Type} (settings : Settings) (requirements : List Requirement)
    (result : Except SettingsError α) : Prop where
  succeeds_iff : (∃ value, result = .ok value)
    ↔ ∀ requirement ∈ requirements, requirement.Met settings
  names : ∀ error, result = .error error →
    ∃ requirement, requirements.find? (fun requirement => ¬ requirement.Met settings)
        = some requirement
      ∧ requirement.Names settings error

namespace Checks

variable {α β : Type} {settings : Settings} {first second : List Requirement}
  {result : Except SettingsError α}

theorem ok (hmet : ∀ requirement ∈ first, requirement.Met settings) (value : α) :
    settings.Checks first (.ok value) where
  succeeds_iff := ⟨fun _ => hmet, fun _ => ⟨value, rfl⟩⟩
  names error herror := by cases herror

theorem bind {next : α → Except SettingsError β} (hfirst : settings.Checks first result)
    (hsecond : ∀ value, result = .ok value → settings.Checks second (next value)) :
    settings.Checks (first ++ second) (result >>= next) := by
  cases result with
  | error error =>
      -- What comes after a part that fails is not computed, whatever requirements it checks.
      obtain ⟨requirement, hfind, hnames⟩ := hfirst.names error rfl
      refine ⟨⟨?_, fun hmet => ?_⟩, ?_⟩
      · rintro ⟨value, hvalue⟩
        cases hvalue
      · obtain ⟨value, hvalue⟩ := hfirst.succeeds_iff.mpr fun requirement hmem =>
          hmet requirement (List.mem_append_left _ hmem)
        cases hvalue
      · intro other hother
        cases hother
        exact ⟨requirement, by rw [List.find?_append, hfind, Option.some_or], hnames⟩
  | ok value =>
      have hmet := hfirst.succeeds_iff.mp ⟨value, rfl⟩
      have hnext := hsecond value rfl
      have hnone : first.find? (fun requirement => ¬ requirement.Met settings) = none := by
        simpa using hmet
      refine ⟨?_, fun error herror => ?_⟩
      · rw [List.forall_mem_append]
        exact hnext.succeeds_iff.trans ⟨fun hrest => ⟨hmet, hrest⟩, And.right⟩
      · rw [List.find?_append, hnone, Option.none_or]
        exact hnext.names error herror

/-- One check in front of others. -/
theorem cons {condition : Prop} [Decidable condition] {requirement : Requirement}
    {error : SettingsError} (hmet : requirement.Met settings ↔ ¬ condition)
    (hnames : requirement.Names settings error)
    (hrest : ¬ condition → settings.Checks second result) :
    settings.Checks (requirement :: second) (if condition then .error error else result) := by
  by_cases hcondition : condition
  · rw [if_pos hcondition]
    have hunmet : ¬ requirement.Met settings := fun h => hmet.mp h hcondition
    refine ⟨⟨?_, fun hall => absurd (hall _ List.mem_cons_self) hunmet⟩, ?_⟩
    · rintro ⟨value, hvalue⟩
      cases hvalue
    · intro other hother
      cases hother
      exact ⟨requirement, List.find?_cons_of_pos (by simpa using hunmet), hnames⟩
  · rw [if_neg hcondition]
    have hfirst := hmet.mpr hcondition
    have hchecks := hrest hcondition
    refine ⟨?_, fun error herror => ?_⟩
    · rw [List.forall_mem_cons]
      exact hchecks.succeeds_iff.trans ⟨fun hrest => ⟨hfirst, hrest⟩, And.right⟩
    · rw [List.find?_cons_of_neg (by simpa using hfirst)]
      exact hchecks.names error herror

/-- A check of one requirement. -/
theorem singleton {requirement : Requirement}
    (hmet : requirement.Met settings → ∃ value, result = .ok value)
    (hunmet : ¬ requirement.Met settings →
      ∃ error, result = .error error ∧ requirement.Names settings error) :
    settings.Checks [requirement] result := by
  by_cases hrequirement : requirement.Met settings
  · obtain ⟨value, rfl⟩ := hmet hrequirement
    exact .ok (List.forall_mem_singleton.mpr hrequirement) value
  · obtain ⟨error, rfl, hnames⟩ := hunmet hrequirement
    refine ⟨⟨?_, fun hall => absurd (hall _ List.mem_cons_self) hrequirement⟩, ?_⟩
    · rintro ⟨value, hvalue⟩
      cases hvalue
    · intro other hother
      cases hother
      exact ⟨requirement, List.find?_cons_of_pos (by simpa using hrequirement), hnames⟩

end Checks

/-! ### The checks of a build -/

variable {settings : Settings}

theorem attemptLimit_eq (h : Requirement.attempts.Met settings) :
    ∃ limit, settings.attemptLimit = .ok limit
      ∧ (limit.maximum.toNat : Int) = settings.maxAttempts.toInt := by
  obtain ⟨hpos, hlt⟩ := h
  have hcount : (UInt32.ofNat settings.maxAttempts.toInt.toNat).toNat
      = settings.maxAttempts.toInt.toNat := UInt32.toNat_ofNat_of_lt' (by omega)
  have hne : UInt32.ofNat settings.maxAttempts.toInt.toNat ≠ 0 := by
    intro hzero
    rw [hzero] at hcount
    change 0 = _ at hcount
    omega
  refine ⟨⟨UInt32.ofNat settings.maxAttempts.toInt.toNat⟩, ?_, ?_⟩
  · rw [attemptLimit, if_pos ⟨by omega, hlt⟩, AttemptLimit.new?, if_neg hne]
  · rw [hcount]
    omega

theorem attemptLimit_names (h : ¬ Requirement.attempts.Met settings) :
    ∃ error, settings.attemptLimit = .error error
      ∧ Requirement.attempts.Names settings error := by
  by_cases hzero : settings.maxAttempts.toInt = 0
  · refine ⟨_, ?_, .noAttempts hzero⟩
    rw [attemptLimit, hzero]
    rfl
  · refine ⟨_, ?_, .attemptsOutOfRange hzero⟩
    rw [attemptLimit, if_neg]
    rintro ⟨hpos, hlt⟩
    exact h ⟨by omega, hlt⟩

/-- A positive number of milliseconds is a span above zero, so the bound itself is never refused. -/
theorem timeLimit_eq {milliseconds : Int64} (h : 1 ≤ milliseconds.toInt) :
    ∃ bound : Span, timeLimit milliseconds = .ok ⟨bound, .monotonic⟩
      ∧ (bound.nanoseconds : Int) = milliseconds.toInt * 1_000_000 := by
  have hlt := milliseconds.toInt_lt
  have hcount : (UInt64.ofNat milliseconds.toInt.toNat).toNat = milliseconds.toInt.toNat :=
    UInt64.toNat_ofNat_of_lt' (by simp only [UInt64.size]; omega)
  have hbound : ((Span.ofMilliseconds (UInt64.ofNat milliseconds.toInt.toNat)).nanoseconds : Int)
      = milliseconds.toInt * 1_000_000 := by
    change (((UInt64.ofNat milliseconds.toInt.toNat).toNat * 1_000_000 : Nat) : Int) = _
    rw [hcount]
    omega
  have hne : Span.ofMilliseconds (UInt64.ofNat milliseconds.toInt.toNat) ≠ Span.zero := by
    intro hzero
    rw [hzero] at hbound
    change (0 : Int) = _ at hbound
    omega
  refine ⟨_, ?_, hbound⟩
  rw [timeLimit, if_pos (by omega), TimeLimit.new?, if_neg hne]

theorem mapM_timeLimit_eq (h : Requirement.duration.Met settings) :
    ∃ duration part, settings.maxDurationMs.mapM timeLimit = .ok duration
      ∧ (∀ limit, policy limit duration = .both (.attempts limit) part)
      ∧ settings.DescribesDuration part := by
  cases hduration : settings.maxDurationMs with
  | none => exact ⟨none, .absent, rfl, fun _ => rfl, .absent hduration⟩
  | some milliseconds =>
      obtain ⟨bound, hlimit, hbound⟩ := timeLimit_eq (h milliseconds hduration)
      refine ⟨some ⟨bound, .monotonic⟩, _, ?_, fun _ => rfl, .present hduration hbound⟩
      rw [Option.mapM_some, hlimit]
      rfl

theorem mapM_timeLimit_names (h : ¬ Requirement.duration.Met settings) :
    ∃ error, settings.maxDurationMs.mapM timeLimit = .error error
      ∧ Requirement.duration.Names settings error := by
  cases hduration : settings.maxDurationMs with
  | none => exact absurd (by simp [Requirement.Met, hduration]) h
  | some milliseconds =>
      have hlow : ¬ 0 < milliseconds.toInt := by
        intro hpos
        refine h fun other hother => ?_
        obtain rfl := Option.some_inj.mp (hduration.symm.trans hother)
        exact hpos
      refine ⟨_, ?_, .durationNotPositive hduration⟩
      rw [Option.mapM_some, timeLimit, if_neg hlow]
      rfl

theorem multiplier_meets_iff {initialMs maxMs : UInt64} {multiplier : Binary64} :
    (BackoffSettings.exponential initialMs multiplier maxMs).Meets .multiplier
      ↔ ¬ (!multiplier.isFinite ∨ multiplier < 1) := by
  have hone : (1 : Binary64) ≠ .nan := by decide +kernel
  rw [BackoffSettings.Meets, not_or, Bool.not_eq_true', Bool.not_eq_false]
  refine and_congr_right fun hfinite => ?_
  refine (Binary64.not_lt_iff_le ?_ hone).symm
  rintro rfl
  cases hfinite

theorem initial_meets_iff {initialMs maxMs : UInt64} {multiplier : Binary64} :
    (BackoffSettings.exponential initialMs multiplier maxMs).Meets .initial
      ↔ Span.ofMilliseconds initialMs ≠ Span.zero := by
  rw [BackoffSettings.Meets, Ne, Span.ext_iff]
  change _ ↔ ¬ initialMs.toNat * 1_000_000 = 0
  omega

theorem maximum_meets_iff {initialMs maxMs : UInt64} {multiplier : Binary64} :
    (BackoffSettings.exponential initialMs multiplier maxMs).Meets .maximum
      ↔ ¬ Span.ofMilliseconds maxMs < Span.ofMilliseconds initialMs := by
  rw [BackoffSettings.Meets, Span.lt_iff]
  change _ ↔ ¬ maxMs.toNat * 1_000_000 < initialMs.toNat * 1_000_000
  omega

theorem backoff_checks (settings : Settings) :
    settings.Checks [.multiplier, .initial, .maximum] settings.backoff.build := by
  have hmet : ∀ requirement ∈ [Requirement.multiplier, .initial, .maximum],
      (requirement.Met settings ↔ settings.backoff.Meets requirement) := by
    simp [Requirement.Met]
  cases hbackoff : settings.backoff with
  | none =>
      refine .ok (fun requirement hmem => ?_) _
      rw [hmet requirement hmem, hbackoff]
      trivial
  | fixed intervalMs =>
      refine .ok (fun requirement hmem => ?_) _
      rw [hmet requirement hmem, hbackoff]
      trivial
  | exponential initialMs multiplier maxMs =>
      rw [hbackoff] at hmet
      rw [BackoffSettings.build, Backoff.exponential?]
      refine .cons ?_ (.multiplierRefused hbackoff) fun _ => ?_
      · exact (hmet .multiplier (by simp)).trans multiplier_meets_iff
      refine .cons ?_ .zeroInitialBackoff fun _ => ?_
      · exact (hmet .initial (by simp)).trans initial_meets_iff
      refine .cons ?_ (.initialAboveMaximum hbackoff) fun _ => .ok (by simp) _
      · exact (hmet .maximum (by simp)).trans maximum_meets_iff

/-- The checks of a build are those of its three parts. -/
theorem build_checked (settings : Settings) : settings.Checks Requirement.all settings.build := by
  have hattempts : settings.Checks [.attempts] settings.attemptLimit :=
    .singleton (fun h => (attemptLimit_eq h).imp fun _ => And.left) attemptLimit_names
  have hduration : settings.Checks [.duration] (settings.maxDurationMs.mapM timeLimit) :=
    .singleton (fun h => (mapM_timeLimit_eq h).imp fun _ ⟨_, heq, _⟩ => heq)
      mapM_timeLimit_names
  change settings.Checks
    ([.attempts] ++ ([.duration] ++ ([.multiplier, .initial, .maximum] ++ []))) _
  refine hattempts.bind fun limit _ => ?_
  refine hduration.bind fun duration _ => ?_
  exact settings.backoff_checks.bind fun backoff _ => .ok (by simp) _

/-! ### The template -/

theorem backoff_describes {backoff : Backoff} (h : settings.backoff.build = .ok backoff) :
    settings.backoff.Describes backoff := by
  cases hbackoff : settings.backoff with
  | none =>
      rw [hbackoff] at h
      cases h
      exact .none
  | fixed intervalMs =>
      rw [hbackoff] at h
      cases h
      exact .fixed rfl
  | exponential initialMs multiplier maxMs =>
      rw [hbackoff, BackoffSettings.build, Backoff.exponential?] at h
      split at h
      · cases h
      split at h
      · cases h
      split at h
      · cases h
      · cases h
        exact .exponential rfl rfl

theorem build_describes (hmet : ∀ requirement, Requirement.Met settings requirement) :
    ∃ built, settings.build = .ok built ∧ settings.Describes built.1 := by
  obtain ⟨limit, hlimit, hmaximum⟩ := attemptLimit_eq (hmet .attempts)
  obtain ⟨duration, part, hduration, hpolicy, hdescribes⟩ := mapM_timeLimit_eq (hmet .duration)
  obtain ⟨backoff, hbackoff⟩ := settings.backoff_checks.succeeds_iff.mpr fun requirement _ =>
    hmet requirement
  have hbuild : settings.build = .ok
      (⟨policy limit duration, backoff, settings.jitter, 0⟩,
        [.built limit.maximum.toNat (settings.maxDurationMs.map Int64.toInt) backoff]) := by
    rw [build, hlimit, hduration, hbackoff]
    rfl
  exact ⟨_, hbuild, ⟨limit, part, hpolicy limit, hmaximum, hdescribes⟩,
    backoff_describes hbackoff, rfl, rfl⟩

theorem met_of_build {built : Template Policy × List Entry} (h : settings.build = .ok built)
    (requirement : Requirement) : requirement.Met settings := by
  refine settings.build_checked.succeeds_iff.mp ⟨built, h⟩ requirement ?_
  cases requirement <;> simp [Requirement.all]

theorem describes_of_build {built : Template Policy × List Entry}
    (h : settings.build = .ok built) : settings.Describes built.1 := by
  obtain ⟨other, hother, hdescribes⟩ := build_describes (met_of_build h)
  obtain rfl := Except.ok.inj (hother.symm.trans h)
  exact hdescribes

/-- **Which settings make a template.** Settings that meet all requirements, and no others. The
template is the one that they describe. Other settings are refused with an error that names the
first requirement they do not meet, and so the bound on time never refuses its own span. -/
theorem build_checks (settings : Settings) :
    ((∃ built, settings.build = .ok built)
        ↔ ∀ requirement, Requirement.Met settings requirement)
      ∧ (∀ built, settings.build = .ok built → settings.Describes built.1)
      ∧ (∀ error, settings.build = .error error →
        ∃ requirement, Requirement.all.find? (fun requirement => ¬ requirement.Met settings)
            = some requirement
          ∧ requirement.Names settings error)
      ∧ settings.build ≠ .error .zeroDuration := by
  refine ⟨⟨fun ⟨built, hbuilt⟩ => met_of_build hbuilt, fun hmet => ?_⟩,
    fun built => describes_of_build, settings.build_checked.names, fun hzero => ?_⟩
  · exact settings.build_checked.succeeds_iff.mpr fun requirement _ => hmet requirement
  · obtain ⟨requirement, _, hnames⟩ := settings.build_checked.names _ hzero
    cases hnames

end Settings

end Retry
