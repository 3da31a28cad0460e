import Retry.Proofs.Sequence.Schedule

/-!
# Rules put together

What a run shows of its rule ends with the first refusal. So rules that answer alike up to there
give the same run (`Template.run_sameDeeds`), whatever they would answer past it. Two rules
together make the run of the one that refuses first, and it does not matter whether a predicate
guards both of them or one of the two (`Template.run_composed`).
-/

namespace Retry

variable {α β : Type} {π : Type u}

theorem Action.filterMap_deed? (actions : List Action) {view : Action → Option β}
    (hview : ∀ entry, view (.log entry) = none) :
    (actions.filterMap deed?).filterMap view = actions.filterMap view := by
  rw [List.filterMap_filterMap]
  congr 1
  funext action
  cases action with
  | log entry => exact (hview entry).symm
  | call moment => rfl
  | notify listener event => rfl
  | wait delay => rfl

namespace Run

/-- Two runs that differ in nothing but what they write to the log. -/
structure SameDeeds (run other : Run α) : Prop where
  calls : run.calls = other.calls
  events : run.events = other.events
  waits : run.waits = other.waits
  /-- Calls, events and waits come in the same order. -/
  deeds : run.deeds = other.deeds
  ending : run.ending = other.ending
  finish : run.finish = other.finish

variable {run other : Run α}

theorem filterMap_trace_congr (hdeeds : run.deeds = other.deeds) {view : Action → Option β}
    (hview : ∀ entry, view (.log entry) = none) :
    run.trace.filterMap view = other.trace.filterMap view := by
  rw [← Action.filterMap_deed? run.trace hview, ← Action.filterMap_deed? other.trace hview]
  exact congrArg (List.filterMap view) hdeeds

theorem SameDeeds.of_deeds (hdeeds : run.deeds = other.deeds) (hending : run.ending = other.ending)
    (hfinish : run.finish = other.finish) : run.SameDeeds other where
  calls := filterMap_trace_congr hdeeds fun _ => rfl
  events := filterMap_trace_congr hdeeds fun _ => rfl
  waits := filterMap_trace_congr hdeeds fun _ => rfl
  deeds := hdeeds
  ending := hending
  finish := hfinish

theorem SameDeeds.after (h : run.SameDeeds other) {actions actions' : List Action}
    (hactions : actions.filterMap Action.deed? = actions'.filterMap Action.deed?) :
    (run.after actions).SameDeeds (other.after actions') := by
  have hdeeds : run.trace.filterMap Action.deed? = other.trace.filterMap Action.deed? := h.deeds
  refine .of_deeds ?_ h.ending h.finish
  rw [Run.deeds, Run.deeds, Run.after, Run.after, List.filterMap_append, List.filterMap_append,
    hactions, hdeeds]

end Run

/-- The deeds are those of one of two runs, and it does not make more calls than the other. -/
def Run.Shorter (run first second : Run α) : Prop :=
  (run.SameDeeds first ∧ first.calls.length ≤ second.calls.length)
    ∨ (run.SameDeeds second ∧ second.calls.length ≤ first.calls.length)

namespace Run.Shorter

variable {run first second : Run α}

theorem length_calls (h : run.Shorter first second) :
    run.calls.length = min first.calls.length second.calls.length := by
  rcases h with ⟨hsame, hle⟩ | ⟨hsame, hle⟩
  · rw [hsame.calls, Nat.min_eq_left hle]
  · rw [hsame.calls, Nat.min_eq_right hle]

theorem after (h : run.Shorter first second) {actions actions₁ actions₂ : List Action}
    (hfirst : actions.filterMap Action.deed? = actions₁.filterMap Action.deed?)
    (hsecond : actions.filterMap Action.deed? = actions₂.filterMap Action.deed?) :
    (run.after actions).Shorter (first.after actions₁) (second.after actions₂) := by
  have hcalls : actions₁.filterMap Action.call? = actions₂.filterMap Action.call? := by
    rw [← Action.filterMap_deed? actions₁ fun _ => rfl, ← hfirst, hsecond,
      Action.filterMap_deed? actions₂ fun _ => rfl]
  refine h.imp (fun h => ⟨h.1.after hfirst, ?_⟩) fun h => ⟨h.1.after hsecond, ?_⟩
  · rw [Run.calls_after, Run.calls_after, List.length_append, List.length_append, hcalls]
    exact Nat.add_le_add_left h.2 _
  · rw [Run.calls_after, Run.calls_after, List.length_append, List.length_append, hcalls]
    exact Nat.add_le_add_left h.2 _

end Run.Shorter

/-- What a new execution of a rule answers to reports one after another. -/
def Rule.answers (rule : Rule) (start : Instant) (reports : List Report) : List Bool :=
  (rule.consultations (rule.start start).1 reports).map Consultation.retry

/-- The states of two rules are related from the start and as long as both rules allow, and related
states answer alike. -/
structure Rule.Agree (rule rule' : Rule) (related : rule.State → rule'.State → Prop) : Prop where
  start : ∀ now, related (rule.start now).1 (rule'.start now).1
  retry : ∀ {state state'} (failure : Failure) (now : Instant), related state state' →
    (rule'.consult state' failure now).retry = (rule.consult state failure now).retry
  next : ∀ {state state'} (failure : Failure) (now : Instant), related state state' →
    (rule.consult state failure now).retry = true →
      related (rule.consult state failure now).next (rule'.consult state' failure now).next

namespace Rule

variable (accepts : Failure → Bool) (first second : Rule)

theorem retry_both (state : first.State) (state' : second.State) (failure : Failure)
    (now : Instant) : ((both first second).consult (state, state') failure now).retry
      = ((first.consult state failure now).retry
        && (second.consult state' failure now).retry) := rfl

/-- Two rules with the same states agree if they refuse what a predicate rejects, and consult alike
about the rest. What they do with a rejected failure does not matter. -/
theorem agree_of_accepts {σ : Type} {start start' : Instant → σ × List Entry}
    {consult consult' : σ → Failure → Instant → Consultation σ}
    (hstart : ∀ now, (start now).1 = (start' now).1)
    (haccepts : ∀ state failure now, accepts failure = true →
      consult state failure now = consult' state failure now)
    (hrejects : ∀ state failure now, ¬ accepts failure = true →
      (consult state failure now).retry = false ∧ (consult' state failure now).retry = false) :
    (Rule.mk σ start consult).Agree (Rule.mk σ start' consult') fun state state' =>
      state = state' where
  start := hstart
  retry := by
    rintro state _ failure now rfl
    by_cases haccepted : accepts failure = true
    · exact congrArg Consultation.retry (haccepts state failure now haccepted).symm
    · obtain ⟨hrefused, hrefused'⟩ := hrejects state failure now haccepted
      exact hrefused'.trans hrefused.symm
  next := by
    rintro state _ failure now rfl hallowed
    by_cases haccepted : accepts failure = true
    · exact congrArg Consultation.next (haccepts state failure now haccepted)
    · have hrefused := (hrejects state failure now haccepted).1
      cases hallowed.symm.trans hrefused

theorem agree_first : (both (retryIf accepts first) second).Agree
    (retryIf accepts (both first second)) fun state state' => state = state' := by
  apply agree_of_accepts accepts
  · exact fun now => rfl
  · intro state failure now haccepted
    simp only [retryIf, both, Consultation.filtered, haccepted, if_true]
  · intro state failure now hrejected
    simp only [retryIf, both, Consultation.filtered, if_neg hrejected, Consultation.both_retry,
      Bool.false_and, and_self]

theorem agree_second : (both first (retryIf accepts second)).Agree
    (retryIf accepts (both first second)) fun state state' => state = state' := by
  apply agree_of_accepts accepts
  · exact fun now => rfl
  · intro state failure now haccepted
    simp only [retryIf, both, Consultation.filtered, haccepted, if_true]
  · intro state failure now hrejected
    simp only [retryIf, both, Consultation.filtered, if_neg hrejected, Consultation.both_retry,
      Bool.and_false, and_self]

end Rule

namespace Template

/-- The same loop around a rule. -/
def around (template : Template π) (rule : Rule) : Template Rule := template.map fun _ => rule

variable {template : Template π} {timeline : Timeline} {rule rule' : Rule} {number : UInt32}
  {failures : List Failure} {state : rule.State} {state' : rule'.State} {now : Instant}
  {attempt : Attempt α} {rest : List (Attempt α)}

/-- Two rules answer alike about the failure of an attempt, if it fails. -/
def AnswerAlike (timeline : Timeline) (now : Instant) (attempt : Attempt α) (rule rule' : Rule)
    (state : rule.State) (state' : rule'.State) : Prop :=
  ∀ failure, attempt.outcome = .error failure →
    (rule'.consult state' failure (timeline.run now attempt.takes)).retry
      = (rule.consult state failure (timeline.run now attempt.takes)).retry

/-- **One retrial** under a rule is one under every rule that answers alike. -/
theorem Retried.around {retrial : Retrial rule.State}
    (h : (template.around rule).Retried timeline ⟨state, number, failures⟩ now attempt retrial)
    (halike : AnswerAlike timeline now attempt rule rule' state state') :
    (template.around rule').Retried timeline ⟨state', number, failures⟩ now attempt
      ⟨retrial.called, retrial.report,
        rule'.consult state' retrial.report.failure retrial.report.moment, retrial.delay⟩ := by
  refine ⟨h.called, h.reported, h.failed, rfl, ?_, h.delayed⟩
  have hallowed := h.allowed
  have hanswer := halike _ h.failed
  rw [h.consulted] at hallowed
  rw [← h.reported] at hanswer
  exact hanswer.trans hallowed

/-- **The last step** under a rule is one under every rule that answers alike. -/
theorem Halts.around {halt : Run α}
    (h : (template.around rule).Halts timeline ⟨state, number, failures⟩ now (attempt :: rest) halt)
    (halike : AnswerAlike timeline now attempt rule rule' state state') :
    ∃ halt', (template.around rule').Halts timeline ⟨state', number, failures⟩ now
      (attempt :: rest) halt' ∧ halt.SameDeeds halt' := by
  cases h with
  | succeeded houtcome => exact ⟨_, .succeeded houtcome, .of_deeds rfl rfl rfl⟩
  | refused houtcome hconsult hrefused =>
      have hanswer := halike _ houtcome
      subst hconsult
      refine ⟨_, .refused houtcome rfl (hanswer.trans hrefused), .of_deeds ?_ rfl rfl⟩
      simp only [Run.deeds, List.cons_append, List.filterMap_cons, List.filterMap_append,
        filterMap_map_log Action.deed? fun _ => rfl]
      rfl
  | broken houtcome hconsult hallowed hdelay =>
      have hanswer := halike _ houtcome
      subst hconsult
      refine ⟨_, .broken houtcome rfl (hanswer.trans hallowed) hdelay, .of_deeds ?_ rfl rfl⟩
      simp only [Run.deeds, List.filterMap_cons, filterMap_map_log Action.deed? fun _ => rfl]

/-- A last step under a rule that answers alike is not the longer run. -/
theorem Halts.shorter {halt : Run α}
    (h : (template.around rule).Halts timeline ⟨state, number, failures⟩ now (attempt :: rest) halt)
    (halike : AnswerAlike timeline now attempt rule rule' state state') {other : Rule}
    (sequence : Sequence other.State) :
    ((template.around rule).resume timeline ⟨state, number, failures⟩ now
        (attempt :: rest)).SameDeeds
      ((template.around rule').resume timeline ⟨state', number, failures⟩ now (attempt :: rest))
      ∧ ((template.around rule').resume timeline ⟨state', number, failures⟩ now
          (attempt :: rest)).calls.length
        ≤ ((template.around other).resume timeline sequence now
          (attempt :: rest)).calls.length := by
  obtain ⟨halt', hhalts', hsame⟩ := h.around halike
  rw [h.resume_eq, hhalts'.resume_eq, hhalts'.calls_eq]
  exact ⟨hsame, (template.around other).length_calls_resume_cons timeline sequence now attempt rest⟩

theorem filterMap_deed?_around (number : UInt32) {retrial : Retrial rule.State}
    {consultation : Consultation rule'.State} :
    ((template.around rule).retrialActions number retrial).filterMap Action.deed?
      = ((template.around rule').retrialActions number
          ⟨retrial.called, retrial.report, consultation, retrial.delay⟩).filterMap
        Action.deed? := by
  rw [filterMap_deed?_retrialActions, filterMap_deed?_retrialActions]
  rfl

/-- **A sequence.** Rules that answer alike until they refuse give the same deeds. -/
theorem resume_sameDeeds {related : rule.State → rule'.State → Prop}
    (hagree : rule.Agree rule' related) (hrelated : related state state')
    (attempts : List (Attempt α)) :
    ((template.around rule).resume timeline ⟨state, number, failures⟩ now attempts).SameDeeds
      ((template.around rule').resume timeline ⟨state', number, failures⟩ now attempts) := by
  -- Related states are needed as long as nothing is refused, and a refusal is the last step.
  induction attempts generalizing state state' number failures now with
  | nil => exact .of_deeds rfl rfl rfl
  | cons attempt rest ih =>
      have halike : AnswerAlike timeline now attempt rule rule' state state' :=
        fun failure _ => hagree.retry failure _ hrelated
      rcases (template.around rule).retried_or_halts timeline ⟨state, number, failures⟩ now attempt
        rest with ⟨retrial, hretried⟩ | ⟨halt, hhalts⟩
      · obtain ⟨called, report, consultation, delay⟩ := retrial
        obtain rfl : consultation = rule.consult state report.failure report.moment :=
          hretried.consulted
        have hnext := hagree.next report.failure report.moment hrelated hretried.allowed
        rw [hretried.resume_eq, (hretried.around halike).resume_eq]
        exact (ih hnext).after (filterMap_deed?_around number)
      · obtain ⟨halt', hhalts', hsame⟩ := hhalts.around halike
        rw [hhalts.resume_eq, hhalts'.resume_eq]
        exact hsame

theorem run_sameDeeds {related : rule.State → rule'.State → Prop}
    (hagree : rule.Agree rule' related) (attempts : List (Attempt α)) :
    ((template.around rule).run timeline now attempts).SameDeeds
      ((template.around rule').run timeline now attempts) := by
  apply (resume_sameDeeds hagree (hagree.start now) attempts).after
  rw [filterMap_map_log _ fun _ => rfl, filterMap_map_log _ fun _ => rfl]

/-! ### Two rules together -/

theorem AnswerAlike.of_failed {failure : Failure} (hfailed : attempt.outcome = .error failure)
    (h : (rule'.consult state' failure (timeline.run now attempt.takes)).retry
      = (rule.consult state failure (timeline.run now attempt.takes)).retry) :
    AnswerAlike timeline now attempt rule rule' state state' := by
  intro other hother
  obtain rfl : failure = other := Except.error.inj (hfailed.symm.trans hother)
  exact h

section Both

variable {first second : Rule} {state : first.State} {state' : second.State}

/-- Two rules together answer as one of them does. -/
theorem answerAlike_or (timeline : Timeline) (now : Instant) (attempt : Attempt α)
    (state : first.State) (state' : second.State) :
    AnswerAlike timeline now attempt (.both first second) first (state, state') state
      ∨ AnswerAlike timeline now attempt (.both first second) second (state, state') state' := by
  cases houtcome : attempt.outcome with
  | ok value =>
      left
      intro failure hfailed
      rw [houtcome] at hfailed
      cases hfailed
  | error failure =>
      cases hanswer : (first.consult state failure (timeline.run now attempt.takes)).retry with
      | false =>
          left
          apply AnswerAlike.of_failed houtcome
          rw [Rule.retry_both, hanswer, Bool.false_and]
      | true =>
          right
          apply AnswerAlike.of_failed houtcome
          rw [Rule.retry_both, hanswer, Bool.true_and]

/-- What two rules retry together, each of them retries. -/
theorem Retried.answerAlike {retrial : Retrial (Rule.both first second).State}
    (h : (template.around (.both first second)).Retried timeline ⟨(state, state'), number, failures⟩
      now attempt retrial) :
    AnswerAlike timeline now attempt (.both first second) first (state, state') state
      ∧ AnswerAlike timeline now attempt (.both first second) second (state, state') state' := by
  have hallowed := h.allowed
  rw [h.consulted, h.reported] at hallowed
  obtain ⟨hfirst, hsecond⟩ := Bool.and_eq_true_iff.mp hallowed
  exact ⟨.of_failed h.failed (hfirst.trans hallowed.symm),
    .of_failed h.failed (hsecond.trans hallowed.symm)⟩

/-- **Two rules together.** The run is the one with the rule that refuses first. -/
theorem resume_both (attempts : List (Attempt α)) :
    ((template.around (.both first second)).resume timeline ⟨(state, state'), number, failures⟩ now
        attempts).Shorter
      ((template.around first).resume timeline ⟨state, number, failures⟩ now attempts)
      ((template.around second).resume timeline ⟨state', number, failures⟩ now attempts) := by
  induction attempts generalizing state state' number failures now with
  | nil => exact Or.inl ⟨.of_deeds rfl rfl rfl, Nat.le_refl _⟩
  | cons attempt rest ih =>
      rcases (template.around (.both first second)).retried_or_halts timeline
        ⟨(state, state'), number, failures⟩ now attempt rest with
        ⟨retrial, hretried⟩ | ⟨halt, hhalts⟩
      · -- Both rules allow, so all three runs make the retrial and go on.
        obtain ⟨hfirst, hsecond⟩ := hretried.answerAlike
        obtain ⟨called, report, consultation, delay⟩ := retrial
        obtain rfl : consultation = (Rule.both first second).consult (state, state')
          report.failure report.moment := hretried.consulted
        rw [hretried.resume_eq, (hretried.around hfirst).resume_eq,
          (hretried.around hsecond).resume_eq]
        exact ih.after (filterMap_deed?_around number) (filterMap_deed?_around number)
      · -- The rule that answers as both together ends its run here, and the other makes a call too.
        rcases answerAlike_or timeline now attempt state state' with halike | halike
        · exact Or.inl (hhalts.shorter halike _)
        · exact Or.inr (hhalts.shorter halike _)

theorem run_both (template : Template π) (timeline : Timeline) (now : Instant)
    (attempts : List (Attempt α)) (first second : Rule) :
    ((template.around (.both first second)).run timeline now attempts).Shorter
      ((template.around first).run timeline now attempts)
      ((template.around second).run timeline now attempts) := by
  apply (resume_both attempts).after
  · rw [filterMap_map_log _ fun _ => rfl, filterMap_map_log _ fun _ => rfl]
  · rw [filterMap_map_log _ fun _ => rfl, filterMap_map_log _ fun _ => rfl]

end Both

/-- **Composition.** Two rules together make as many calls as the one that makes fewer, and the run
is the run with that one. A predicate may guard one of them or both: calls, events, waits and ending
are the same. The executions are not the same; past a refusal they can answer in three ways. -/
theorem run_composed (template : Template π) (timeline : Timeline) (now : Instant)
    (attempts : List (Attempt α)) (accepts : Failure → Bool) (first second : Rule) :
    let run (rule : Rule) := (template.around rule).run timeline now attempts
    (run (.both first second)).calls.length
        = min (run first).calls.length (run second).calls.length
      ∧ (∃ rule ∈ [first, second], (run (.both first second)).SameDeeds (run rule))
      ∧ (run (.both (.retryIf accepts first) second)).SameDeeds
        (run (.retryIf accepts (.both first second)))
      ∧ (run (.both first (.retryIf accepts second))).SameDeeds
        (run (.retryIf accepts (.both first second)))
      ∧ ∃ (accepts : Failure → Bool) (first second : Rule) (reports : List Report),
        ([.both (.retryIf accepts first) second, .both first (.retryIf accepts second),
          .retryIf accepts (.both first second)].map
            fun rule : Rule => rule.answers .origin reports).Nodup := by
  intro run
  have hshorter := template.run_both timeline now attempts first second
  refine ⟨hshorter.length_calls, ?_, run_sameDeeds (Rule.agree_first accepts first second) attempts,
    run_sameDeeds (Rule.agree_second accepts first second) attempts, ?_⟩
  · rcases hshorter with ⟨hsame, _⟩ | ⟨hsame, _⟩
    · exact ⟨first, List.mem_cons_self, hsame⟩
    · exact ⟨second, List.mem_cons_of_mem _ (List.mem_singleton_self second), hsame⟩
  · -- What is rejected first is counted by the rule that the predicate does not guard.
    let transient (failure : Failure) : Bool := failure.kind != "Fatal"
    let rejected : Report := ⟨⟨⟨"Fatal", "fatal", none⟩, []⟩, .origin⟩
    let accepted : Report := ⟨⟨⟨"Transient", "transient", none⟩, []⟩, .origin⟩
    refine ⟨transient, Policy.rule (.attempts ⟨2⟩), Policy.rule (.attempts ⟨3⟩),
      [rejected, rejected, accepted, accepted], ?_⟩
    unfold transient rejected accepted
    decide

end Template

end Retry
