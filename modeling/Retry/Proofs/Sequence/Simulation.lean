import Retry.Proofs.Sequence.Story

/-!
# Two runs side by side

Two runs on the same attempts are compared retrial by retrial: a relation between their sequences
is carried along a row of retrials (`Template.Retries.follow`). It is about sequences that have not
been refused yet, so it may be lost with the first refusal.
-/

namespace Retry.Template

variable {α : Type}

/-- What the first of two related sequences retries, the second retries as well, and the sequences
after it are related again. -/
def Follows (α : Type) (template : Template Rule) (timeline : Timeline)
    (template' : Template Rule) (timeline' : Timeline)
    (related : Sequence template.policy.State → Instant → Sequence template'.policy.State →
      Instant → Prop) : Prop :=
  ∀ {sequence now sequence' now'} {attempt : Attempt α} {retrial},
    related sequence now sequence' now' → template.Retried timeline sequence now attempt retrial →
      ∃ retrial', template'.Retried timeline' sequence' now' attempt retrial'
        ∧ related (sequence.retried retrial)
          (timeline.pause retrial.report.moment retrial.delay) (sequence'.retried retrial')
          (timeline'.pause retrial'.report.moment retrial'.delay)

variable {template template' : Template Rule} {timeline timeline' : Timeline}
  {sequence last : Sequence template.policy.State} {now moment : Instant}
  {sequence' last' : Sequence template'.policy.State} {now' moment' : Instant}
  {attempts : List (Attempt α)} {retrials : List (Retrial template.policy.State)}
  {retrials' : List (Retrial template'.policy.State)}
  {related : Sequence template.policy.State → Instant → Sequence template'.policy.State →
    Instant → Prop}

/-- **Many retrials.** The second run makes them too, and both stop at related sequences. -/
theorem Retries.follow
    (h : template.Retries timeline sequence now attempts retrials last moment)
    (hfollows : Follows α template timeline template' timeline' related)
    (hrelated : related sequence now sequence' now') :
    ∃ retrials' last' moment',
      template'.Retries timeline' sequence' now' attempts retrials' last' moment'
        ∧ related last moment last' moment' := by
  induction h generalizing sequence' now' with
  | refl => exact ⟨[], sequence', now', .refl sequence' now', hrelated⟩
  | step hfirst _ ih =>
      obtain ⟨retrial', hfirst', hnext⟩ := hfollows hrelated hfirst
      obtain ⟨retrials', last', moment', hretries', hlast⟩ := ih hnext
      exact ⟨retrial' :: retrials', last', moment', .step hfirst' hretries', hlast⟩

theorem Retries.map_failure_eq
    (h : template.Retries timeline sequence now attempts retrials last moment)
    (h' : template'.Retries timeline' sequence' now' attempts retrials' last' moment') :
    (retrials'.map fun retrial => retrial.report.failure)
      = retrials.map fun retrial => retrial.report.failure :=
  (List.map_inj_right fun _ _ => Except.error.inj).mp (h'.map_outcome.symm.trans h.map_outcome)

theorem Halts.signals_congr {halt halt' : Run α}
    (h : template.Halts timeline sequence now attempts halt)
    (h' : template'.Halts timeline' sequence' now' attempts halt')
    (hwhole : halt.ending.Final ∨ attempts = []) (hending : halt'.ending = halt.ending)
    (hnumber : sequence'.attempts = sequence.attempts)
    (hlisteners : template'.listeners = template.listeners) :
    halt'.signals = halt.signals := by
  rcases hwhole with hfinal | rfl
  · obtain ⟨attempt, rest, rfl, _⟩ := h.exists_last hfinal 1
    rw [h'.signals_eq (hending ▸ hfinal), h.signals_eq hfinal, hnumber, hlisteners]
  · cases h
    cases h'
    rfl

/-! ### A second run on the attempts of a first one -/

section Second

variable {now : Instant} {last' : Sequence template'.policy.State}
  {course : template.Course timeline now attempts}
  (h' : template'.Retries timeline' (template'.started now) now course.earlier retrials' last'
    moment')
include h'

/-- The course of a second run that makes its last step at the same attempt. -/
def Course.second {halt' : Run α}
    (hhalts' : template'.Halts timeline' last' moment' course.rest halt') :
    template'.Course timeline' now attempts where
  earlier := course.earlier
  rest := course.rest
  retrials := retrials'
  last := last'
  moment := moment'
  halt := halt'
  attempts_eq := course.attempts_eq
  retries := h'
  halts := hhalts'

theorem Course.le_length_calls (hrest : course.rest ≠ []) :
    course.retrials.length + 1 ≤ (template'.run timeline' now attempts).calls.length := by
  obtain ⟨attempt, rest, hcons⟩ := List.exists_cons_of_ne_nil hrest
  have hcalls := h'.calls_append course.rest
  have hlast := template'.length_calls_resume_cons timeline' last' moment' attempt rest
  rw [← course.attempts_eq] at hcalls
  rw [hcalls, hcons, List.length_append, List.length_map, h'.length_eq, course.retries.length_eq]
  exact Nat.add_le_add_left hlast _

/-- Up to the last call of the first run, the second one tells the same story. -/
theorem Course.HasStory.signals_prefix {story : Story α} (h : course.HasStory story) :
    story.events.dropLast.flatMap (Signal.round template'.listeners)
      <+: (template'.run timeline' now attempts).signals := by
  have hsignals := h'.signals_append course.rest
  rw [← course.attempts_eq, course.retries.map_failure_eq h'] at hsignals
  refine ⟨_, Eq.trans (congrArg (· ++ _) ?_) hsignals.symm⟩
  rw [Story.events, List.dropLast_concat, h.retried, List.zipIdx_map, List.zipIdx_map,
    List.map_map, List.flatMap_map, List.flatMap_map]
  rfl

/-- A success ends the second run as well, if it comes so far. -/
theorem Course.endsAfter_of_returned {value : α} (hvalue : course.halt.ending = .returned value) :
    (template'.run timeline' now attempts).EndsAfter (course.retrials.length + 1)
      ∧ (template'.run timeline' now attempts).ending = .returned value := by
  obtain ⟨attempt, rest, hrest, houtcome⟩ := course.halts.exists_returned hvalue
  obtain ⟨halt', hhalts', hending'⟩ : ∃ halt', template'.Halts timeline' last' moment'
      course.rest halt' ∧ halt'.ending = .returned value := by
    rw [hrest]
    exact ⟨_, .succeeded houtcome, rfl⟩
  let course' := Course.second h' hhalts'
  have hending : (template'.run timeline' now attempts).ending = .returned value :=
    course'.ending_eq.trans hending'
  have hcalls := course'.length_calls (hending' ▸ Ending.Final.returned value)
  refine ⟨⟨hending ▸ .returned value, ?_⟩, hending⟩
  rw [hcalls, course.retries.length_eq, ← h'.length_eq]
  rfl

theorem Course.run_congr {halt' : Run α}
    (hhalts' : template'.Halts timeline' last' moment' course.rest halt')
    (hwhole : course.halt.ending.Final ∨ course.rest = [])
    (hending : halt'.ending = course.halt.ending)
    (hlisteners : template'.listeners = template.listeners) :
    (template'.run timeline' now attempts).signals = (template.run timeline now attempts).signals
      ∧ (template'.run timeline' now attempts).ending
        = (template.run timeline now attempts).ending := by
  let course' := Course.second h' hhalts'
  have hnumber : last'.attempts = course.last.attempts := by
    rw [h'.attempts_eq, course.retries.attempts_eq, h'.length_eq, course.retries.length_eq]
    rfl
  have hhalt : halt'.signals = course.halt.signals :=
    course.halts.signals_congr hhalts' hwhole hending hnumber hlisteners
  refine ⟨?_, course'.ending_eq.trans (hending.trans course.ending_eq.symm)⟩
  have hsignals := course'.signals_eq
  unfold course' Course.second at hsignals
  rw [hhalt, course.retries.map_failure_eq h', hlisteners] at hsignals
  exact hsignals.trans course.signals_eq.symm

end Second

end Retry.Template
