import Retry.Proofs.Delay
import Retry.Proofs.Sequence.Waits

/-!
# What chance decides

Jitter multiplies a delay by a factor that comes from chance. On a clock that waits do not move, no
moment depends on a delay, and no factor within the range of jitter breaks one. So the factors
decide the delays and what is written about them, and nothing else
(`Template.resume_chance`).
-/

namespace Retry

variable {α β σ : Type} {π : Type u}

/-- What a script says about a call. The rest comes from chance. -/
def Attempt.scripted (attempt : Attempt α) : Except Failure α × Span :=
  (attempt.outcome, attempt.takes)

def Action.showsDelay : Action → Bool
  | .log (.retrying ..) => true
  | .wait _ => true
  | _ => false

def Action.undelayed (actions : List Action) : List Action :=
  actions.filter fun action => !action.showsDelay

theorem Action.undelayed_append (first second : List Action) :
    undelayed (first ++ second) = undelayed first ++ undelayed second :=
  List.filter_append _ _

/-- A view that shows no delays does not need them. -/
theorem Action.filterMap_undelayed (actions : List Action) {view : Action → Option β}
    (hview : ∀ action, action.showsDelay = true → view action = none) :
    (undelayed actions).filterMap view = actions.filterMap view := by
  rw [undelayed, List.filterMap_filter]
  congr 1
  funext action
  by_cases hdelay : action.showsDelay = true
  · rw [hdelay, hview action hdelay]
    rfl
  · rw [Bool.eq_false_iff.mpr hdelay]
    rfl

/-- Two runs that differ in nothing but their delays. -/
structure Run.SameButDelays (run other : Run α) : Prop where
  undelayed : Action.undelayed run.trace = Action.undelayed other.trace
  ending : run.ending = other.ending
  finish : run.finish = other.finish

namespace Run.SameButDelays

variable {run other : Run α}

theorem filterMap_trace_eq (h : run.SameButDelays other) {view : Action → Option β}
    (hview : ∀ action, action.showsDelay = true → view action = none) :
    run.trace.filterMap view = other.trace.filterMap view := by
  rw [← Action.filterMap_undelayed run.trace hview, h.undelayed,
    Action.filterMap_undelayed other.trace hview]

theorem calls (h : run.SameButDelays other) : run.calls = other.calls := by
  apply h.filterMap_trace_eq
  intro action hdelay
  cases action with
  | call moment => cases hdelay
  | log entry => rfl
  | notify listener event => rfl
  | wait delay => rfl

theorem events (h : run.SameButDelays other) : run.events = other.events := by
  apply h.filterMap_trace_eq
  intro action hdelay
  cases action with
  | call moment => rfl
  | log entry => rfl
  | notify listener event => cases hdelay
  | wait delay => rfl

theorem after (h : run.SameButDelays other) {actions actions' : List Action}
    (hactions : Action.undelayed actions = Action.undelayed actions') :
    (run.after actions).SameButDelays (other.after actions') := by
  refine ⟨?_, h.ending, h.finish⟩
  rw [Run.after, Run.after, Action.undelayed_append, Action.undelayed_append, hactions, h.undelayed]

end Run.SameButDelays

namespace Template

/-- Whether a delay is broken does not depend on chance, and without jitter no delay does. -/
theorem delay_ok_or_error (template : Template π) {factor factor' : Binary64}
    (hfactor : template.jitter = true → Jitter.InRange factor)
    (hfactor' : template.jitter = true → Jitter.InRange factor') (number : UInt32) :
    (∃ delay delay', template.delay factor number = .ok delay
        ∧ template.delay factor' number = .ok delay' ∧ (template.jitter = false → delay' = delay))
      ∨ ∃ error, template.delay factor number = .error error
        ∧ template.delay factor' number = .error error := by
  cases hnominal : template.backoff.delay number with
  | error error =>
      have hbroken : ∀ factor, template.delay factor number = .error error := by
        intro factor
        rw [delay, hnominal]
        rfl
      exact Or.inr ⟨error, hbroken factor, hbroken factor'⟩
  | ok nominal =>
      left
      rw [delay_of_nominal hnominal, delay_of_nominal hnominal]
      by_cases hjitter : template.jitter = true
      · obtain ⟨delay, hdelay⟩ := Jitter.exists_scale_eq (hfactor hjitter) nominal
        obtain ⟨delay', hdelay'⟩ := Jitter.exists_scale_eq (hfactor' hjitter) nominal
        rw [if_pos hjitter, if_pos hjitter]
        refine ⟨delay, delay', hdelay, hdelay', fun hplain => ?_⟩
        rw [hplain] at hjitter
        cases hjitter
      · rw [if_neg hjitter, if_neg hjitter]
        exact ⟨nominal, nominal, rfl, rfl, fun _ => rfl⟩

/-- Before a retry the delay is written and waited, and that is all there is of it. -/
theorem undelayed_retrialActions (template : Template π) (number : UInt32) (retrial : Retrial σ)
    (delay : Span) :
    Action.undelayed (template.retrialActions number { retrial with delay := delay })
      = Action.undelayed (template.retrialActions number retrial) := by
  have hwaits : ∀ delay : Span,
      Action.undelayed (if delay = Span.zero then [] else [.wait delay]) = [] := by
    intro delay
    split
    · rfl
    · rfl
  simp only [retrialActions, beforeRetry, Action.undelayed_append, hwaits]
  rfl

section Steps

variable {template : Template Rule} {timeline : Timeline}
  {sequence : Sequence template.policy.State} {now : Instant} {attempt attempt' : Attempt α}
  {rest rest' : List (Attempt α)}

theorem Retried.exists_other {retrial : Retrial template.policy.State}
    (h : template.Retried timeline sequence now attempt retrial)
    (hscripted : attempt'.scripted = attempt.scripted)
    (hfactor : template.jitter = true → Jitter.InRange attempt.factor)
    (hfactor' : template.jitter = true → Jitter.InRange attempt'.factor) :
    ∃ delay, template.Retried timeline sequence now attempt' { retrial with delay := delay }
      ∧ (template.jitter = false → delay = retrial.delay) := by
  obtain ⟨houtcome, htakes⟩ := Prod.mk.inj hscripted
  rcases template.delay_ok_or_error hfactor hfactor' sequence.attempts with
    ⟨delay, delay', hdelay, hdelay', hplain⟩ | ⟨error, hbroken, _⟩
  · obtain rfl := Except.ok.inj (h.delayed.symm.trans hdelay)
    have hreported : retrial.report.moment = timeline.run now attempt'.takes := by
      rw [htakes]
      exact h.reported
    exact ⟨delay', ⟨h.called, hreported, houtcome.trans h.failed, h.consulted, h.allowed, hdelay'⟩,
      hplain⟩
  · rw [h.delayed] at hbroken
    cases hbroken

theorem Halts.other {run : Run α}
    (h : template.Halts timeline sequence now (attempt :: rest) run)
    (hscripted : attempt'.scripted = attempt.scripted)
    (hfactor : template.jitter = true → Jitter.InRange attempt.factor)
    (hfactor' : template.jitter = true → Jitter.InRange attempt'.factor) :
    template.Halts timeline sequence now (attempt' :: rest') run := by
  obtain ⟨houtcome', htakes⟩ := Prod.mk.inj hscripted
  cases h with
  | succeeded houtcome =>
      rw [← htakes]
      exact .succeeded (houtcome'.trans houtcome)
  | refused houtcome hconsult hrefused =>
      rw [← htakes] at hconsult ⊢
      exact .refused (houtcome'.trans houtcome) hconsult hrefused
  | broken houtcome hconsult hallowed hdelay =>
      rcases template.delay_ok_or_error hfactor hfactor' sequence.attempts with
        ⟨delay, _, hcomputed, _, _⟩ | ⟨error, hbroken, hbroken'⟩
      · rw [hdelay] at hcomputed
        cases hcomputed
      · obtain rfl := Except.error.inj (hdelay.symm.trans hbroken)
        rw [← htakes] at hconsult ⊢
        exact .broken (houtcome'.trans houtcome) hconsult hallowed hbroken'

end Steps

/-- **Chance.** On a clock that waits do not move, two scripts that differ in nothing but the
factors of jitter give runs that differ in nothing but delays, and the same run without jitter. -/
theorem resume_chance {template : Template Rule} {timeline : Timeline}
    (hunmoved : timeline.Unmoved) {attempts attempts' : List (Attempt α)}
    (hscript : attempts'.map Attempt.scripted = attempts.map Attempt.scripted)
    (hfactors : template.jitter = true →
      ∀ attempt ∈ attempts ++ attempts', Jitter.InRange attempt.factor)
    (sequence : Sequence template.policy.State) (now : Instant) :
    (template.resume timeline sequence now attempts).SameButDelays
        (template.resume timeline sequence now attempts')
      ∧ (template.jitter = false → template.resume timeline sequence now attempts
        = template.resume timeline sequence now attempts') := by
  induction attempts generalizing attempts' sequence now with
  | nil =>
      rw [List.map_nil, List.map_eq_nil_iff] at hscript
      subst hscript
      exact ⟨⟨rfl, rfl, rfl⟩, fun _ => rfl⟩
  | cons attempt rest ih =>
      obtain ⟨attempt', rest', rfl, hscripted, hrest⟩ := List.map_eq_cons_iff.mp hscript
      have hfactor : template.jitter = true → Jitter.InRange attempt.factor :=
        fun hjitter => hfactors hjitter attempt (by simp)
      have hfactor' : template.jitter = true → Jitter.InRange attempt'.factor :=
        fun hjitter => hfactors hjitter attempt' (by simp)
      rcases template.retried_or_halts timeline sequence now attempt rest with
        ⟨retrial, hretried⟩ | ⟨run, hhalts⟩
      · obtain ⟨delay, hretried', hplain⟩ := hretried.exists_other hscripted hfactor hfactor'
        rw [hretried.resume_eq, hretried'.resume_eq, hunmoved.pause_eq, hunmoved.pause_eq]
        have hothers : template.jitter = true →
            ∀ other ∈ rest ++ rest', Jitter.InRange other.factor := by
          intro hjitter other hmem
          rw [List.mem_append] at hmem
          exact hfactors hjitter other (List.mem_append.mpr
            (hmem.imp (List.mem_cons_of_mem _) (List.mem_cons_of_mem _)))
        obtain ⟨hsame, hequal⟩ := ih hrest hothers (sequence.retried retrial) retrial.report.moment
        refine ⟨hsame.after (template.undelayed_retrialActions _ retrial delay).symm, ?_⟩
        intro hjitter
        obtain rfl := hplain hjitter
        exact congrArg (Run.after _) (hequal hjitter)
      · rw [hhalts.resume_eq, (hhalts.other hscripted hfactor hfactor').resume_eq]
        exact ⟨⟨rfl, rfl, rfl⟩, fun _ => rfl⟩

theorem run_chance {template : Template Rule} {timeline : Timeline}
    (hunmoved : timeline.Unmoved) {attempts attempts' : List (Attempt α)}
    (hscript : attempts'.map Attempt.scripted = attempts.map Attempt.scripted)
    (hfactors : template.jitter = true →
      ∀ attempt ∈ attempts ++ attempts', Jitter.InRange attempt.factor) (now : Instant) :
    (template.run timeline now attempts).SameButDelays (template.run timeline now attempts')
      ∧ (template.jitter = false →
        template.run timeline now attempts = template.run timeline now attempts') := by
  obtain ⟨hsame, hequal⟩ := resume_chance hunmoved hscript hfactors (template.started now) now
  exact ⟨hsame.after rfl, fun hjitter => congrArg (Run.after _) (hequal hjitter)⟩

end Template

end Retry
