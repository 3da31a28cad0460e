import Retry.Proofs.Sequence.Stop

/-!
# What a run tells

A run that ends has a story: the failures that were retried, each with the delay after it, and the
last outcome. The listeners and the log of the loop tell the story in the same order, every
listener the whole of it, and no listener hears more or less because of the others
(`Template.run_tells_story`).
-/

namespace Retry

variable {α β σ : Type} {π : Type u}

/-! ### Stories -/

/-- What became of an operation up to its last call. -/
structure Story (α : Type) where
  /-- The failures that were followed by another call, each with the delay before that call. -/
  retried : List (Failure × Span)
  last : Except Failure α

def Event.isLast : Event → Bool
  | .retry .. => false
  | .success _ => true
  | .exhausted .. => true

namespace Story

def count (story : Story α) : Nat := story.retried.length + 1

def outcomes (story : Story α) : List (Except Failure α) :=
  story.retried.map (fun round => .error round.1) ++ [story.last]

/-- The story as a listener hears it. -/
def events (story : Story α) : List Event :=
  (story.retried.zipIdx 1).map (fun (round, number) => .retry (UInt32.ofNat number) round.1)
    ++ [.last (UInt32.ofNat story.count) story.last]

/-- The story as the loop writes it. -/
def entries (story : Story α) : List Entry :=
  (story.retried.zipIdx 1).map
      (fun (round, number) => .retrying (UInt32.ofNat number) round.1 round.2)
    ++ Entry.last (UInt32.ofNat story.count) story.last

/-- The story is about the attempts of a template: it has their outcomes up to its end, and the
delays that the template has for them. -/
structure Fits (story : Story α) (template : Template π) (attempts : List (Attempt α)) : Prop where
  outcomes : story.outcomes = (attempts.take story.count).map Attempt.outcome
  delays : story.retried.map (fun round => .ok round.2)
    = ((attempts.take story.retried.length).zipIdx 1).map
      fun (attempt, number) => template.delay attempt.factor (UInt32.ofNat number)

end Story

/-- What is noticed outside of the loop. -/
inductive Signal where
  | call
  | heard (listener : Nat) (event : Event)
deriving DecidableEq

/-- A call, and then an event that the listeners hear one after the other. -/
def Signal.round (listeners : Nat) (event : Event) : List Signal :=
  .call :: (List.range listeners).map (.heard · event)

def Signal.heard? : Signal → Option (Nat × Event)
  | .call => none
  | .heard listener event => some (listener, event)

def Action.signal? : Action → Option Signal
  | .call _ => some .call
  | .notify listener event => some (.heard listener event)
  | _ => none

namespace Run

def signals (run : Run α) : List Signal := run.trace.filterMap Action.signal?

theorem events_eq (run : Run α) : run.events = run.signals.filterMap Signal.heard? := by
  rw [signals, List.filterMap_filterMap, events]
  congr 1
  funext action
  cases action <;> rfl

theorem length_calls_eq (run : Run α) : run.calls.length = run.signals.count .call := by
  rw [calls_eq, signals]
  induction run.trace with
  | nil => rfl
  | cons action trace ih =>
      cases action with
      | call moment => exact (congrArg (· + 1) ih).trans List.count_cons_self.symm
      | log entry => exact ih
      | notify listener event =>
          have hother : Signal.heard listener event ≠ .call := nofun
          exact ih.trans (List.count_cons_of_ne hother).symm
      | wait delay => exact ih

/-- The events that reach one listener. -/
def heardBy (run : Run α) (listener : Nat) : List Event :=
  (run.events.filter fun heard => heard.1 = listener).map Prod.snd

end Run

def Retrial.round (retrial : Retrial σ) : Failure × Span := (retrial.report.failure, retrial.delay)

namespace Template

/-! ### The trace of a row of retrials -/

theorem retrialsActions_eq (template : Template π) (number : Nat) (retrials : List (Retrial σ)) :
    template.retrialsActions (UInt32.ofNat number) retrials
      = (retrials.zipIdx number).flatMap fun numbered =>
        template.retrialActions (UInt32.ofNat numbered.2) numbered.1 := by
  induction retrials generalizing number with
  | nil => rfl
  | cons retrial retrials ih =>
      rw [retrialsActions, List.zipIdx_cons, List.flatMap_cons, ← ih]
      exact congrArg _ (congrArg (template.retrialsActions · retrials)
        (UInt32.ofNat_add number 1).symm)

theorem retrialsActions_append (template : Template π) (number : Nat)
    (first second : List (Retrial σ)) :
    template.retrialsActions (UInt32.ofNat number) (first ++ second)
      = template.retrialsActions (UInt32.ofNat number) first
        ++ template.retrialsActions (UInt32.ofNat (number + first.length)) second := by
  rw [retrialsActions_eq, retrialsActions_eq, retrialsActions_eq, List.zipIdx_append,
    List.flatMap_append]

theorem retrialLines_eq (number : Nat) (retrials : List (Retrial σ)) :
    retrialLines (UInt32.ofNat number) retrials
      = ((retrials.map Retrial.round).zipIdx number).map fun (round, number) =>
        .retrying (UInt32.ofNat number) round.1 round.2 := by
  induction retrials generalizing number with
  | nil => rfl
  | cons retrial retrials ih =>
      rw [retrialLines, List.map_cons, List.zipIdx_cons, List.map_cons, ← ih]
      exact congrArg _ (congrArg (retrialLines · retrials) (UInt32.ofNat_add number 1).symm)

theorem filterMap_signal?_notifyAll (template : Template π) (event : Event) :
    (template.notifyAll event).filterMap Action.signal?
      = (List.range template.listeners).map (.heard · event) := by
  rw [notifyAll, List.filterMap_map]
  exact congrFun (List.filterMap_eq_map (f := (Signal.heard · event))) _

theorem filterMap_signal?_retrialActions (template : Template π) (number : UInt32)
    (retrial : Retrial σ) :
    (template.retrialActions number retrial).filterMap Action.signal?
      = Signal.round template.listeners (.retry number retrial.report.failure) := by
  simp only [retrialActions, beforeRetry, List.filterMap_append, List.filterMap_cons,
    Action.signal?, filterMap_map_log Action.signal? fun _ => rfl, filterMap_signal?_notifyAll]
  split <;> simp [Signal.round, Action.signal?]

theorem filterMap_signal?_retrialsActions (template : Template π) (number : Nat)
    (retrials : List (Retrial σ)) :
    (template.retrialsActions (UInt32.ofNat number) retrials).filterMap Action.signal?
      = ((retrials.map fun retrial => retrial.report.failure).zipIdx number).flatMap
        fun (failure, number) =>
          Signal.round template.listeners (.retry (UInt32.ofNat number) failure) := by
  rw [retrialsActions_eq, List.filterMap_flatMap, List.zipIdx_map, List.flatMap_map]
  simp only [filterMap_signal?_retrialActions]
  rfl

theorem filterMap_signal?_last (template : Template π) (moment : Instant) (lines : List Entry)
    (event : Event) :
    (Action.call moment :: lines.map Action.log ++ template.notifyAll event).filterMap
        Action.signal?
      = Signal.round template.listeners event := by
  rw [List.cons_append, List.filterMap_cons, List.filterMap_append,
    filterMap_map_log _ fun _ => rfl, filterMap_signal?_notifyAll]
  rfl

/-- The last step of a run that ends of its own is a call, and then its end is told. -/
theorem Halts.signals_eq {template : Template Rule} {timeline : Timeline}
    {sequence : Sequence template.policy.State} {now : Instant} {attempt : Attempt α}
    {rest : List (Attempt α)} {run : Run α}
    (h : template.Halts timeline sequence now (attempt :: rest) run) (hfinal : run.ending.Final) :
    run.signals
      = Signal.round template.listeners (.last sequence.attempts attempt.outcome) := by
  obtain ⟨first, more, hfirst, _, htrace⟩ := h.exists_last hfinal 1
  obtain ⟨rfl, rfl⟩ := List.cons_eq_cons.mp hfirst
  rw [Run.signals, htrace, filterMap_signal?_last]

theorem Retries.signals_append {template : Template Rule} {timeline : Timeline}
    {now moment : Instant} {last : Sequence template.policy.State} {earlier : List (Attempt α)}
    {retrials : List (Retrial template.policy.State)}
    (h : template.Retries timeline (template.started now) now earlier retrials last moment)
    (rest : List (Attempt α)) :
    (template.run timeline now (earlier ++ rest)).signals
      = (((retrials.map fun retrial => retrial.report.failure).zipIdx 1).flatMap
          fun (failure, number) =>
            Signal.round template.listeners (.retry (UInt32.ofNat number) failure))
        ++ (template.resume timeline last moment rest).signals := by
  have hretrials : (template.retrialsActions 1 retrials).filterMap Action.signal? = _ :=
    template.filterMap_signal?_retrialsActions 1 retrials
  rw [h.run_append, Run.signals, Run.after, List.filterMap_append, List.filterMap_append,
    filterMap_map_log _ fun _ => rfl, hretrials]
  rfl

theorem Retries.map_delay {template : Template Rule} {timeline : Timeline}
    {sequence last : Sequence template.policy.State} {now moment : Instant}
    {attempts : List (Attempt α)} {retrials : List (Retrial template.policy.State)}
    (h : template.Retries timeline sequence now attempts retrials last moment) (number : Nat)
    (hnumber : sequence.attempts = UInt32.ofNat number) :
    (retrials.map Retrial.round).map (fun round => .ok round.2)
      = (attempts.zipIdx number).map fun (attempt, number) =>
        template.delay attempt.factor (UInt32.ofNat number) := by
  induction h generalizing number with
  | refl => rfl
  | step first _ ih =>
      have hnext := ih (number + 1) (by
        rw [Sequence.retried, hnumber]
        exact (UInt32.ofNat_add number 1).symm)
      have hdelay := first.delayed
      rw [hnumber] at hdelay
      rw [List.map_cons, List.map_cons, List.zipIdx_cons, List.map_cons, hnext]
      exact congrArg (· :: _) hdelay.symm

/-! ### The story of a run -/

namespace Course

variable {template : Template Rule} {timeline : Timeline} {now : Instant}
  {attempts : List (Attempt α)} (course : template.Course timeline now attempts)

theorem signals_eq :
    (template.run timeline now attempts).signals
      = (((course.retrials.map fun retrial => retrial.report.failure).zipIdx 1).flatMap
          fun (failure, number) =>
            Signal.round template.listeners (.retry (UInt32.ofNat number) failure))
        ++ course.halt.signals := by
  have hsignals := course.retries.signals_append course.rest
  rwa [course.halts.resume_eq, ← course.attempts_eq] at hsignals

/-- The retrials make the beginning of a story, and the last step tells its end. -/
structure HasStory (story : Story α) : Prop where
  retried : story.retried = course.retrials.map Retrial.round
  fits : story.Fits template attempts
  ends : ∃ attempt rest, course.rest = attempt :: rest ∧ attempt.outcome = story.last
    ∧ course.halt.finish = timeline.run course.moment attempt.takes
  trace : course.halt.trace = .call course.moment
    :: (Consultation.transcript course.closing
        (Entry.last (UInt32.ofNat story.count) story.last)).map .log
    ++ template.notifyAll (.last (UInt32.ofNat story.count) story.last)

/-- A run that comes to an end of its own has a story. -/
theorem exists_story (hfinal : course.halt.ending.Final) : ∃ story, course.HasStory story := by
  obtain ⟨attempt, rest, hrest, hfinish, htrace⟩ :=
    course.halts.exists_last hfinal (1 + course.retrials.length)
  have hcount : (⟨course.retrials.map Retrial.round, attempt.outcome⟩ : Story α).count
      = course.retrials.length + 1 := by
    rw [Story.count, List.length_map]
  refine ⟨⟨course.retrials.map Retrial.round, attempt.outcome⟩, rfl, ⟨?_, ?_⟩,
    ⟨attempt, rest, hrest, rfl, hfinish⟩, ?_⟩
  · rw [hcount, course.take_attempts, List.map_append, course.retries.map_outcome, hrest,
      Story.outcomes, List.map_map, List.map_map]
    rfl
  · rw [List.length_map, course.take_earlier]
    exact course.retries.map_delay 1 rfl
  · rw [hcount, ← course.last_attempts]
    exact htrace

namespace HasStory

variable {course} {story : Story α}

theorem count_eq (h : course.HasStory story) : story.count = course.retrials.length + 1 := by
  rw [Story.count, h.retried, List.length_map]

theorem signals_eq (h : course.HasStory story) :
    (template.run timeline now attempts).signals
      = story.events.flatMap (Signal.round template.listeners) := by
  rw [course.signals_eq, Run.signals, h.trace, filterMap_signal?_last, Story.events, h.retried,
    List.flatMap_append, List.flatMap_singleton, List.zipIdx_map, List.zipIdx_map, List.map_map,
    List.flatMap_map, List.flatMap_map]
  rfl

theorem log_eq (h : course.HasStory story) :
    (template.run timeline now attempts).log
      = (template.policy.start now).2 ++ Consultation.transcript
        ((template.consultations timeline now attempts).take story.count) story.entries := by
  have hhalt : course.halt.log = Consultation.transcript course.closing
      (Entry.last (UInt32.ofNat story.count) story.last) := by
    rw [Run.log_eq, h.trace, List.cons_append, List.filterMap_cons, List.filterMap_append,
      filterMap_entry?_map_log, template.filterMap_notifyAll _ fun _ _ => rfl, List.append_nil]
    rfl
  have hlines : retrialLines 1 course.retrials = _ := retrialLines_eq 1 course.retrials
  have hlength : (retrialLines 1 course.retrials).length
      = (course.retrials.map Retrial.consultation).length := by
    rw [length_retrialLines, List.length_map]
  rw [course.log_eq, hhalt, h.count_eq, course.take_consultations, Story.entries, h.retried,
    ← hlines, Consultation.transcript_append _ _ hlength, List.append_assoc, h.count_eq]

end HasStory

end Course

/-! ### Other listeners -/

def hearing (template : Template π) (listeners : Nat) : Template π :=
  { template with listeners := listeners }

section Hearing

variable {template : Template Rule} {timeline : Timeline}
  {sequence last : Sequence template.policy.State} {now moment : Instant}
  {attempts : List (Attempt α)} {retrials : List (Retrial template.policy.State)}

theorem Retried.hearing {attempt : Attempt α} {retrial : Retrial template.policy.State}
    (h : template.Retried timeline sequence now attempt retrial) (listeners : Nat) :
    (template.hearing listeners).Retried timeline sequence now attempt retrial :=
  ⟨h.called, h.reported, h.failed, h.consulted, h.allowed, h.delayed⟩

theorem Retries.hearing
    (h : template.Retries timeline sequence now attempts retrials last moment)
    (listeners : Nat) :
    (template.hearing listeners).Retries timeline sequence now attempts retrials last moment := by
  induction h with
  | refl sequence now => exact @Retries.refl α (template.hearing listeners) timeline sequence now
  | step first _ ih => exact .step (first.hearing listeners) ih

theorem Halts.hearing {run : Run α} (h : template.Halts timeline sequence now attempts run)
    (listeners : Nat) :
    ∃ other, (template.hearing listeners).Halts timeline sequence now attempts other
      ∧ other.ending = run.ending := by
  cases h with
  | unfinished => exact ⟨_, .unfinished, rfl⟩
  | succeeded houtcome => exact ⟨_, .succeeded houtcome, rfl⟩
  | refused houtcome hconsult hrefused =>
      exact ⟨_, .refused houtcome hconsult hrefused, rfl⟩
  | broken houtcome hconsult hallowed hdelay =>
      exact ⟨_, .broken houtcome hconsult hallowed hdelay, rfl⟩

end Hearing

end Template

theorem Signal.filterMap_heard?_round (listeners : Nat) (event : Event) :
    (Signal.round listeners event).filterMap Signal.heard?
      = (List.range listeners).map fun listener => (listener, event) := by
  rw [Signal.round, List.filterMap_cons, List.filterMap_map]
  exact congrFun (List.filterMap_eq_map (f := fun listener => (listener, event))) _

theorem filter_range_eq {listeners listener : Nat} (hlistener : listener < listeners) :
    (List.range listeners).filter (· = listener) = [listener] := by
  induction listeners with
  | zero => cases hlistener
  | succ listeners ih =>
      rw [List.range_succ, List.filter_append]
      rcases Nat.lt_succ_iff_lt_or_eq.mp hlistener with hlt | rfl
      · rw [ih hlt, List.filter_cons_of_neg (by simpa using Nat.ne_of_gt hlt)]
        rfl
      · have hnone : (List.range listener).filter (· = listener) = [] := by
          refine List.filter_eq_nil_iff.mpr fun other hmem => ?_
          simpa using Nat.ne_of_lt (List.mem_range.mp hmem)
        rw [hnone, List.filter_cons_of_pos (by simp)]
        rfl

/-- A listener hears each event of a story once. -/
theorem Run.heardBy_eq {run : Run α} {listeners listener : Nat} (hlistener : listener < listeners)
    {events : List Event} (hsignals : run.signals = events.flatMap (Signal.round listeners)) :
    run.heardBy listener = events := by
  have hround : ∀ event, (((Signal.round listeners event).filterMap Signal.heard?).filter
      fun heard => heard.1 = listener).map Prod.snd = [event] := by
    intro event
    rw [Signal.filterMap_heard?_round, List.filter_map, List.map_map]
    exact congrArg _ (filter_range_eq hlistener)
  rw [heardBy, run.events_eq, hsignals, List.filterMap_flatMap, List.filter_flatMap,
    List.map_flatMap]
  simp only [hround]
  exact List.flatMap_singleton' events

namespace Story

/-- The attempts settle how a story ends. -/
theorem Fits.eq {τ : Type v} {story other : Story α} {template : Template π}
    {template' : Template τ} {attempts : List (Attempt α)} (h : story.Fits template attempts)
    (hother : other.Fits template' attempts) (hretried : other.retried = story.retried) :
    other = story := by
  have houtcomes : other.outcomes = story.outcomes := by
    rw [h.outcomes, hother.outcomes, count, count, hretried]
  rw [Story.outcomes, Story.outcomes, hretried, List.append_cancel_left_eq] at houtcomes
  obtain ⟨retried, last⟩ := story
  obtain ⟨retried', last'⟩ := other
  obtain rfl : retried' = retried := hretried
  obtain rfl : last' = last := List.singleton_inj.mp houtcomes
  rfl

theorem countP_isLast_events (story : Story α) : story.events.countP Event.isLast = 1 := by
  have hretries : ((story.retried.zipIdx 1).map fun (round, number) =>
      Event.retry (UInt32.ofNat number) round.1).countP Event.isLast = 0 := by
    rw [List.countP_map, List.countP_eq_zero]
    exact fun _ _ => Bool.false_ne_true
  rw [events, List.countP_append, hretries, List.countP_singleton, Nat.zero_add]
  cases story.last <;> rfl

end Story

namespace Template

theorem Course.HasStory.heardBy_hearing {template : Template Rule} {timeline : Timeline}
    {now : Instant} {attempts : List (Attempt α)}
    {course : template.Course timeline now attempts} {story : Story α}
    (h : course.HasStory story) (hfinal : course.halt.ending.Final) {listeners listener : Nat}
    (hlistener : listener < listeners) :
    ((template.hearing listeners).run timeline now attempts).heardBy listener = story.events := by
  -- The retrials do not depend on the listeners, so they belong to the other run as well.
  obtain ⟨halt, hhalts, hending⟩ := course.halts.hearing listeners
  let other : (template.hearing listeners).Course timeline now attempts :=
    { earlier := course.earlier
      rest := course.rest
      retrials := course.retrials
      last := course.last
      moment := course.moment
      halt := halt
      attempts_eq := course.attempts_eq
      retries := course.retries.hearing listeners
      halts := hhalts }
  obtain ⟨story', h'⟩ := other.exists_story (hending ▸ hfinal)
  obtain rfl := h.fits.eq h'.fits (h'.retried.trans h.retried.symm)
  exact Run.heardBy_eq hlistener h'.signals_eq

theorem exists_course_of_endsAfter {template : Template Rule} {timeline : Timeline}
    {now : Instant} {attempts : List (Attempt α)} {count : Nat}
    (hends : (template.run timeline now attempts).EndsAfter count) :
    ∃ (course : template.Course timeline now attempts) (story : Story α),
      course.halt.ending.Final ∧ course.HasStory story ∧ story.count = count := by
  obtain ⟨course⟩ := template.nonempty_course timeline now attempts
  obtain ⟨hfinal, rfl⟩ := hends
  rw [course.ending_eq] at hfinal
  obtain ⟨story, hstory⟩ := course.exists_story hfinal
  exact ⟨course, story, hfinal, hstory, hstory.count_eq.trans (course.length_calls hfinal).symm⟩

/-- **The story of a run.** Call by call, all listeners hear in order of the retry that follows,
and after the last call of the end. Each listener hears one end, and the same events whatever the
number of the others. The loop writes one line for each of the events, but none for a first call
that succeeds. -/
theorem run_tells_story (template : Template Rule) (timeline : Timeline) (now : Instant)
    (attempts : List (Attempt α)) (count : Nat) (hsize : count < UInt32.size)
    (hends : (template.run timeline now attempts).EndsAfter count) :
    let run := template.run timeline now attempts
    ∃ story : Story α, story.count = count
      ∧ story.Fits template attempts
      ∧ run.ending.Tells story.outcomes
      ∧ run.signals = story.events.flatMap (Signal.round template.listeners)
      ∧ (∀ listeners, ∀ listener < listeners,
        ((template.hearing listeners).run timeline now attempts).heardBy listener
          = story.events)
      ∧ story.events.countP Event.isLast = 1
      ∧ run.log = (template.policy.start now).2 ++ Consultation.transcript
        ((template.consultations timeline now attempts).take count) story.entries := by
  intro run
  obtain ⟨course, story, hfinal, hstory, rfl⟩ := exists_course_of_endsAfter hends
  refine ⟨story, rfl, hstory.fits, ?_, hstory.signals_eq,
    fun _ _ hlistener => hstory.heardBy_hearing hfinal hlistener, story.countP_isLast_events,
    hstory.log_eq⟩
  rw [hstory.fits.outcomes, hstory.count_eq, course.ending_eq]
  rw [hstory.count_eq] at hsize
  exact course.tells hfinal hsize

/-- One failure and a success, told to two listeners, and to the second of three. -/
theorem run_tells_story_to_two :
    let template := ((Template.new (Policy.rule (.attempts ⟨3⟩))).withListener).withListener
    let attempts : List (Attempt Nat) :=
      [⟨.error ⟨⟨"Broken", "broken", none⟩, []⟩, .zero, 1⟩, ⟨.ok 1, .zero, 1⟩]
    let run := template.run .timer .origin attempts
    2 < UInt32.size ∧ run.EndsAfter 2
      ∧ ∃ story : Story Nat, story.count = 2
        ∧ run.signals = story.events.flatMap (Signal.round 2)
        ∧ ((template.hearing 3).run .timer .origin attempts).heardBy 1 = story.events := by
  intro template attempts run
  have hsize : 2 < UInt32.size := by decide
  have hends : run.EndsAfter 2 := by
    unfold run attempts template
    decide
  obtain ⟨story, hcount, _, _, hsignals, hheard, _⟩ :=
    run_tells_story template .timer .origin attempts 2 hsize hends
  exact ⟨hsize, hends, story, hcount, hsignals, hheard 3 1 (by decide)⟩

end Template

end Retry
