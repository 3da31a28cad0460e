import Retry.Proofs.Sequence.Execute
import Retry.Proofs.Sequence.Story

/-!
# The count of calls

The loop counts its calls in 32 bits, and nothing stops the count at the largest number. Up to there
the listeners, the log, the delays and the error of a run go by the number of calls made so far
(`Run.CountsCalls`); from the call after it on, they do not. Which policies keep every run below
that is a question of their parts: those with a bound on attempts below the ceiling of its own
count, and those that accept no failure at all (`Template.execute_countsCalls_iff`).
-/

namespace Retry

variable {α : Type} {π : Type u}

/-! ### The numbers in a trace -/

/-- The number of calls that a line of the loop shows. The lines of policies show none. -/
def Entry.number? : Entry → Option UInt32
  | .retrying attempt .. => some attempt
  | .givingUp attempts _ => some attempts
  | .succeeded attempts => some attempts
  | _ => none

def Event.number : Event → UInt32
  | .retry attempt _ => attempt
  | .success attempts => attempts
  | .exhausted attempts _ => attempts

namespace Action

def number? : Action → Option UInt32
  | .log entry => entry.number?
  | .notify _ event => some event.number
  | _ => none

def callsAmong (actions : List Action) : Nat := (actions.filterMap call?).length

theorem callsAmong_append (first second : List Action) :
    callsAmong (first ++ second) = callsAmong first + callsAmong second := by
  rw [callsAmong, List.filterMap_append, List.length_append]
  rfl

/-- No other number is shown among actions. -/
def ShowOnly (number : UInt32) (actions : List Action) : Prop :=
  ∀ action ∈ actions, ∀ shown ∈ action.number?, shown = number

/-- Each number that actions show is that of the calls made so far, as far as 32 bits hold it. A
number of calls was made before them. -/
def Numbered (calls : Nat) (actions : List Action) : Prop :=
  ∀ before action after, actions = before ++ action :: after → ∀ number ∈ action.number?,
    number = UInt32.ofNat (calls + callsAmong before)

variable {calls : Nat} {number : UInt32} {first second actions : List Action}

theorem ShowOnly.append (h : ShowOnly number first) (h' : ShowOnly number second) :
    ShowOnly number (first ++ second) :=
  List.forall_mem_append.mpr ⟨h, h'⟩

theorem showOnly_map_log {lines : List Entry}
    (h : ∀ line ∈ lines, ∀ shown ∈ line.number?, shown = number) :
    ShowOnly number (lines.map .log) :=
  List.forall_mem_map.mpr h

theorem showOnly_map_log_of_none {lines : List Entry} (h : ∀ line ∈ lines, line.number? = none) :
    ShowOnly number (lines.map .log) :=
  showOnly_map_log fun line hline shown hshown => by
    rw [h line hline] at hshown
    cases hshown

theorem Numbered.append (h : Numbered calls first)
    (h' : Numbered (calls + callsAmong first) second) : Numbered calls (first ++ second) := by
  intro before action after hsplit shown hshown
  -- The action stands in the second list, or begins it, or stands in the first.
  rcases List.append_eq_append_iff.mp hsplit with ⟨middle, rfl, hsecond⟩ | ⟨middle, hfirst, hrest⟩
  · rw [callsAmong_append, ← Nat.add_assoc]
    exact h' middle action after hsecond shown hshown
  · cases middle with
    | nil =>
        rw [List.append_nil] at hfirst
        have hnumber := h' [] action after hrest.symm shown hshown
        rwa [hfirst] at hnumber
    | cons other middle =>
        obtain ⟨rfl, rfl⟩ := List.cons_eq_cons.mp hrest
        exact h before action middle hfirst shown hshown

theorem numbered_of_silent (hsilent : ∀ action ∈ actions, action.number? = none) :
    Numbered calls actions := by
  rintro before action after rfl shown hshown
  rw [hsilent action (by simp)] at hshown
  cases hshown

theorem numbered_of_showOnly (hshow : ShowOnly (UInt32.ofNat calls) actions)
    (hnone : actions.filterMap call? = []) : Numbered calls actions := by
  rintro before action after rfl shown hshown
  rw [List.filterMap_append, List.append_eq_nil_iff] at hnone
  rw [callsAmong, hnone.1, List.length_nil, Nat.add_zero]
  exact hshow action (by simp) shown hshown

/-- A call, and then its number. -/
theorem numbered_call_cons (moment : Instant) (hshow : ShowOnly (UInt32.ofNat (calls + 1)) actions)
    (hnone : actions.filterMap call? = []) : Numbered calls (.call moment :: actions) := by
  have hcall : Numbered calls [.call moment] := numbered_of_silent (by simp [number?])
  exact hcall.append (numbered_of_showOnly hshow hnone)

end Action

/-- A rule that leaves it to the loop to show numbers of calls. -/
structure Rule.Unnumbered (rule : Rule) : Prop where
  start : ∀ now, ∀ line ∈ (rule.start now).2, line.number? = none
  consult : ∀ state failure now, ∀ line ∈ (rule.consult state failure now).log,
    line.number? = none

theorem Policy.number?_of_mem_start (policy : Policy) (now : Instant) :
    ∀ line ∈ (policy.start now).2, line.number? = none := by
  induction policy with
  | attempts limit => exact List.forall_mem_nil _
  | duration limit => exact List.forall_mem_singleton.mpr rfl
  | both first second ihfirst ihsecond => exact List.forall_mem_append.mpr ⟨ihfirst, ihsecond⟩
  | retryIf accepts inner ih => exact ih
  | absent => exact List.forall_mem_nil _
  | present policy ih => exact ih

theorem Execution.number?_of_mem_consult (execution : Execution) (failure : Failure)
    (now : Instant) : ∀ line ∈ (execution.consult failure now).log, line.number? = none := by
  induction execution with
  | attempts count => exact List.forall_mem_nil _
  | duration watch => exact List.forall_mem_singleton.mpr rfl
  | both first second ihfirst ihsecond => exact List.forall_mem_append.mpr ⟨ihfirst, ihsecond⟩
  | retryIf accepts inner ih =>
      change ∀ line ∈ (Consultation.filtered accepts failure inner _).log, _
      rw [Consultation.filtered]
      split
      · exact ih
      · exact List.forall_mem_singleton.mpr rfl
  | absent => exact List.forall_mem_nil _
  | present execution ih => exact ih

theorem Policy.unnumbered_rule (policy : Policy) : policy.rule.Unnumbered :=
  ⟨policy.number?_of_mem_start, Execution.number?_of_mem_consult⟩

namespace Template

open Retry.Action

/-! ### Steps show the numbers of their calls -/

theorem showOnly_notifyAll (template : Template π) (event : Event) :
    ShowOnly event.number (template.notifyAll event) := by
  refine List.forall_mem_map.mpr fun listener _ shown hshown => ?_
  exact (Option.mem_some_iff.mp hshown).symm

theorem showOnly_beforeRetry (template : Template π) (number : UInt32) (failure : Failure)
    (delay : Span) : ShowOnly number (template.beforeRetry number failure delay) := by
  have hline : ShowOnly number [.log (.retrying number failure delay)] :=
    List.forall_mem_singleton.mpr fun _ hshown => (Option.mem_some_iff.mp hshown).symm
  have hwait : ShowOnly number (if delay = Span.zero then [] else [.wait delay]) := by
    split
    · exact List.forall_mem_nil _
    · exact List.forall_mem_singleton.mpr nofun
  exact (hline.append (template.showOnly_notifyAll (.retry number failure))).append hwait

/-- The end of a run is written and told with the number of its last call. -/
theorem showOnly_last (template : Template π) (number : UInt32) (outcome : Except Failure α) :
    ShowOnly number ((Entry.last number outcome).map .log
      ++ template.notifyAll (.last number outcome)) := by
  refine ShowOnly.append (showOnly_map_log fun line hline shown hshown => ?_) ?_
  · cases outcome with
    | ok value =>
        rw [Entry.last] at hline
        split at hline
        · obtain rfl := List.mem_singleton.mp hline
          exact (Option.mem_some_iff.mp hshown).symm
        · cases hline
    | error failure =>
        obtain rfl := List.mem_singleton.mp hline
        exact (Option.mem_some_iff.mp hshown).symm
  · have hnotify := template.showOnly_notifyAll (.last number outcome)
    cases outcome <;> exact hnotify

section Steps

variable {template : Template Rule} {timeline : Timeline}
  {sequence last : Sequence template.policy.State} {now moment : Instant}
  {attempts : List (Attempt α)} {retrials : List (Retrial template.policy.State)} {calls : Nat}

theorem numbered_retrialActions {retrial : Retrial template.policy.State}
    (hlines : ∀ line ∈ retrial.consultation.log, line.number? = none) :
    Numbered calls (template.retrialActions (UInt32.ofNat (calls + 1)) retrial) := by
  have hshow := (showOnly_map_log_of_none hlines).append
    (template.showOnly_beforeRetry (UInt32.ofNat (calls + 1)) retrial.report.failure retrial.delay)
  rw [retrialActions, List.cons_append]
  refine numbered_call_cons retrial.called hshow ?_
  rw [List.filterMap_append, filterMap_map_log _ fun _ => rfl, filterMap_call?_beforeRetry,
    List.append_nil]

theorem retrialActions_eq {σ : Type} (template : Template π) (number : UInt32)
    (retrial : Retrial σ) :
    template.retrialActions number retrial
      = .call retrial.called :: retrial.consultation.log.map .log
        ++ .log (.retrying number retrial.report.failure retrial.delay)
          :: (template.notifyAll (.retry number retrial.report.failure)
            ++ (if retrial.delay = Span.zero then [] else [.wait retrial.delay])) := rfl

theorem callsAmong_retrialsActions (template : Template π) (number : UInt32)
    {σ : Type} (retrials : List (Retrial σ)) :
    callsAmong (template.retrialsActions number retrials) = retrials.length := by
  rw [callsAmong, filterMap_call?_retrialsActions, List.length_map]

theorem Retries.numbered (hrule : template.policy.Unnumbered)
    (h : template.Retries timeline sequence now attempts retrials last moment)
    (hnumber : sequence.attempts = UInt32.ofNat (calls + 1)) :
    Numbered calls (template.retrialsActions sequence.attempts retrials) := by
  induction h generalizing calls with
  | refl => exact numbered_of_silent (List.forall_mem_nil _)
  | @step sequence last now moment attempt attempts retrial retrials first rest ih =>
      have hlines : ∀ line ∈ retrial.consultation.log, line.number? = none := by
        rw [first.consulted]
        exact hrule.consult _ _ _
      have hcall : callsAmong (template.retrialActions sequence.attempts retrial) = 1 := by
        have hrow := template.callsAmong_retrialsActions sequence.attempts [retrial]
        rwa [retrialsActions, retrialsActions, List.append_nil] at hrow
      have hnext : (sequence.retried retrial).attempts = UInt32.ofNat (calls + 1 + 1) := by
        rw [Sequence.retried, hnumber]
        exact (UInt32.ofNat_add _ 1).symm
      rw [retrialsActions]
      refine Numbered.append ?_ ?_
      · rw [hnumber]
        exact numbered_retrialActions hlines
      · rw [hcall]
        exact ih hnext

theorem Halts.numbered {run : Run α} (hrule : template.policy.Unnumbered)
    (h : template.Halts timeline sequence now attempts run)
    (hnumber : sequence.attempts = UInt32.ofNat (calls + 1)) : Numbered calls run.trace := by
  cases h with
  | unfinished => exact numbered_of_silent (List.forall_mem_nil _)
  | @succeeded attempt rest value houtcome =>
      rw [hnumber, succeeded_eq template _ value]
      exact numbered_call_cons now (template.showOnly_last _ _) (template.filterMap_call?_last _ _)
  | @refused attempt rest failure consultation houtcome hconsult hrefused =>
      have hlines : ∀ line ∈ consultation.log, line.number? = none :=
        hconsult ▸ hrule.consult _ _ _
      rw [hnumber, gaveUp_eq α, List.cons_append]
      refine numbered_call_cons now
        ((showOnly_map_log_of_none hlines).append (template.showOnly_last _ _)) ?_
      rw [List.filterMap_append, filterMap_map_log _ fun _ => rfl, filterMap_call?_last,
        List.append_nil]
  | @broken attempt rest failure consultation error houtcome hconsult hallowed hdelay =>
      have hlines : ∀ line ∈ consultation.log, line.number? = none :=
        hconsult ▸ hrule.consult _ _ _
      exact numbered_call_cons now (showOnly_map_log_of_none hlines)
        (filterMap_map_log _ (fun _ => rfl) _)

end Steps

end Template

/-! ### Runs that count their calls -/

/-- A run that goes by the true number of its calls wherever it goes by one. -/
structure Run.CountsCalls (run : Run α) (template : Template π) (timeline : Timeline)
    (attempts : List (Attempt α)) : Prop where
  /-- Listeners hear, and lines show, the number of calls so far. -/
  told : ∀ before action after, run.trace = before ++ action :: after →
    ∀ number ∈ action.number?, number.toNat = Action.callsAmong before
  /-- Between two calls lies the delay of the retry that has the number of the first one. -/
  delayed : ∀ index, index + 1 < run.calls.length → ∃ call attempt number delay,
    number.toNat = index + 1 ∧ run.calls[index]? = some call
      ∧ attempts[index]? = some attempt ∧ template.delay attempt.factor number = .ok delay
      ∧ run.calls[index + 1]? = some (timeline.pause (timeline.run call attempt.takes) delay)
  /-- A success after several calls is written with their number. -/
  returned : ∀ value, run.ending = .returned value → 1 < run.calls.length →
    ∃ number, number.toNat = run.calls.length ∧ .log (.succeeded number) ∈ run.trace
  exhausted : ∀ error, run.ending = .exhausted error → error.attempts.toNat = run.calls.length
  /-- A delay that cannot be computed is that of the retry after the last call. -/
  broken : ∀ error, run.ending = .broken error → ∃ attempt number,
    number.toNat = run.calls.length ∧ attempts[run.calls.length - 1]? = some attempt
      ∧ template.delay attempt.factor number = .error error

namespace Template.Course

open Retry.Action

variable {template : Template Rule} {timeline : Timeline} {now : Instant}
  {attempts : List (Attempt α)} (course : template.Course timeline now attempts)

include course

/-- Every number in a trace is that of the calls so far, as far as 32 bits hold it. -/
theorem numbered (hrule : template.policy.Unnumbered) :
    Numbered 0 (template.run timeline now attempts).trace := by
  have hstart : Numbered 0 ((template.policy.start now).2.map .log) := by
    refine numbered_of_silent (List.forall_mem_map.mpr ?_)
    exact hrule.start now
  have hnone : callsAmong ((template.policy.start now).2.map .log) = 0 := by
    rw [callsAmong, filterMap_map_log _ fun _ => rfl, List.length_nil]
  have hretrials : Numbered 0 (template.retrialsActions 1 course.retrials) :=
    course.retries.numbered hrule rfl
  have hhalt : Numbered course.retrials.length course.halt.trace :=
    course.halts.numbered hrule course.last_attempts
  rw [course.run_eq, Run.after]
  refine (hstart.append ?_).append ?_
  · rwa [hnone]
  · rwa [callsAmong_append, hnone, callsAmong_retrialsActions, Nat.zero_add, Nat.zero_add]

/-- The line about a retry stands after the calls it counts. -/
theorem exists_line {index : Nat} {retrial : Retrial template.policy.State}
    (hretrial : course.retrials[index]? = some retrial) :
    ∃ before after, (template.run timeline now attempts).trace
        = before ++ .log (.retrying (UInt32.ofNat (index + 1)) retrial.report.failure
          retrial.delay) :: after
      ∧ callsAmong before = index + 1 := by
  obtain ⟨hlt, hget⟩ := List.getElem?_eq_some_iff.mp hretrial
  have hlength : (course.retrials.take index).length = index :=
    List.length_take_of_le (Nat.le_of_lt hlt)
  have hsplit : course.retrials.take index ++ retrial :: course.retrials.drop (index + 1)
      = course.retrials := by
    rw [← hget, ← List.drop_eq_getElem_cons hlt, List.take_append_drop]
  have hactions := template.retrialsActions_append 1 (course.retrials.take index)
    (retrial :: course.retrials.drop (index + 1))
  rw [hsplit, hlength, Nat.add_comm 1, retrialsActions, retrialActions_eq] at hactions
  refine ⟨(template.policy.start now).2.map .log
      ++ (template.retrialsActions 1 (course.retrials.take index)
        ++ .call retrial.called :: retrial.consultation.log.map .log),
    template.notifyAll (.retry (UInt32.ofNat (index + 1)) retrial.report.failure)
      ++ (if retrial.delay = Span.zero then [] else [.wait retrial.delay])
      ++ template.retrialsActions (UInt32.ofNat (index + 1) + 1) (course.retrials.drop (index + 1))
      ++ course.halt.trace, ?_, ?_⟩
  · rw [course.run_eq, Run.after]
    change _ ++ template.retrialsActions (UInt32.ofNat 1) course.retrials ++ _ = _
    rw [hactions]
    simp only [List.append_assoc, List.cons_append]
    rfl
  · rw [callsAmong_append, callsAmong_append, callsAmong_retrialsActions, hlength, callsAmong,
      callsAmong, filterMap_map_log _ fun _ => rfl, List.filterMap_cons,
      filterMap_map_log _ fun _ => rfl]
    exact Nat.zero_add _

theorem countsCalls (hrule : template.policy.Unnumbered)
    (hsize : (template.run timeline now attempts).calls.length < UInt32.size) :
    (template.run timeline now attempts).CountsCalls template timeline attempts := by
  have hexact : ∀ calls ≤ (template.run timeline now attempts).calls.length,
      (UInt32.ofNat calls).toNat = calls := fun calls hcalls =>
    UInt32.toNat_ofNat_of_lt' (Nat.lt_of_le_of_lt hcalls hsize)
  have hlast : course.halt.ending ≠ .unfinished → course.last.attempts.toNat
      = (template.run timeline now attempts).calls.length := fun hending => by
    rw [course.last_attempts, ← course.length_calls_of_ne_nil (course.halts.ne_nil hending)]
    exact hexact _ (Nat.le_refl _)
  refine ⟨?_, ?_, ?_, ?_, ?_⟩
  · intro before action after hsplit number hnumber
    rw [course.numbered hrule before action after hsplit number hnumber, Nat.zero_add]
    refine hexact _ ?_
    rw [Run.calls_eq, hsplit, List.filterMap_append, List.length_append]
    exact Nat.le_add_right _ _
  · intro index hnext
    obtain ⟨call, attempt, delay, hcall, hattempt, hdelay, hafter⟩ := course.exists_next hnext
    exact ⟨call, attempt, UInt32.ofNat (index + 1), delay, hexact _ (Nat.le_of_lt hnext), hcall,
      hattempt, hdelay, hafter⟩
  · intro value hending hseveral
    rw [course.ending_eq] at hending
    have hcount := hlast (by rw [hending]; nofun)
    refine ⟨course.last.attempts, hcount, ?_⟩
    rw [course.run_eq]
    refine List.mem_append_right _ (course.halts.mem_trace_of_returned hending ?_)
    rw [UInt32.lt_iff_toNat_lt, hcount]
    exact hseveral
  · intro error hending
    rw [course.ending_eq] at hending
    rw [course.halts.attempts_of_exhausted hending]
    exact hlast (by rw [hending]; nofun)
  · intro error hending
    rw [course.ending_eq] at hending
    have hcount := hlast (by rw [hending]; nofun)
    obtain ⟨attempt, hattempt, hdelay⟩ := course.halts.delay_of_broken hending
    refine ⟨attempt, course.last.attempts, hcount, ?_, hdelay⟩
    rw [course.length_calls_of_ne_nil (course.halts.ne_nil (by rw [hending]; nofun)),
      Nat.add_sub_cancel, course.getElem?_attempts]
    exact hattempt

/-- A number of 32 bits is below that of too many calls, so one of them has a false number. -/
theorem length_calls_lt
    (h : (template.run timeline now attempts).CountsCalls template timeline attempts) :
    (template.run timeline now attempts).calls.length < UInt32.size := by
  by_contra hmany
  have hfalse : ∀ number : UInt32,
      number.toNat ≠ (template.run timeline now attempts).calls.length :=
    fun number heq => hmany (heq ▸ number.toNat_lt)
  -- The number is shown before the retry that it counts, or at the end if no such retry is left.
  by_cases hretrials : UInt32.size ≤ course.retrials.length
  · obtain ⟨index, hindex⟩ : ∃ index, index + 1 = UInt32.size := ⟨4294967295, rfl⟩
    obtain ⟨retrial, hretrial⟩ : ∃ retrial, course.retrials[index]? = some retrial :=
      ⟨_, List.getElem?_eq_getElem (by omega)⟩
    obtain ⟨before, after, hsplit, hcount⟩ := course.exists_line hretrial
    have hnumber := h.told before _ after hsplit _ (Option.mem_some_self _)
    rw [hcount, hindex] at hnumber
    exact Nat.ne_of_lt (UInt32.toNat_lt _) hnumber
  · have hrest : course.rest ≠ [] := fun hnil => by
      have hcalls := course.calls_eq
      rw [hnil, List.take_nil, List.map_nil, List.append_nil] at hcalls
      rw [hcalls, List.length_map] at hmany
      omega
    rcases course.halts.exists_ending hrest with ⟨value, hvalue⟩ | ⟨error, herror⟩ | ⟨error, herror⟩
    · have hseveral : 1 < (template.run timeline now attempts).calls.length :=
        Nat.lt_of_lt_of_le (by decide) (Nat.le_of_not_lt hmany)
      obtain ⟨number, hnumber, _⟩ := h.returned value (course.ending_eq.trans hvalue) hseveral
      exact hfalse number hnumber
    · exact hfalse error.attempts (h.exhausted error (course.ending_eq.trans herror))
    · obtain ⟨_, number, hnumber, _⟩ := h.broken error (course.ending_eq.trans herror)
      exact hfalse number hnumber

end Template.Course

/-- A rule that shows no numbers itself keeps the count of the loop up to the ceiling, and no
further. -/
theorem Template.run_countsCalls_iff {template : Template Rule}
    (hrule : template.policy.Unnumbered) (timeline : Timeline) (now : Instant)
    (attempts : List (Attempt α)) :
    (template.run timeline now attempts).CountsCalls template timeline attempts
      ↔ (template.run timeline now attempts).calls.length < UInt32.size := by
  obtain ⟨course⟩ := template.nonempty_course timeline now attempts
  exact ⟨course.length_calls_lt, course.countsCalls hrule⟩

theorem Run.countsCalls_map {ρ : Type v} (run : Run α) (template : Template π) (f : π → ρ)
    (timeline : Timeline) (attempts : List (Attempt α)) :
    run.CountsCalls (template.map f) timeline attempts
      ↔ run.CountsCalls template timeline attempts :=
  ⟨fun h => ⟨h.told, h.delayed, h.returned, h.exhausted, h.broken⟩,
    fun h => ⟨h.told, h.delayed, h.returned, h.exhausted, h.broken⟩⟩

/-! ### Policies that keep the count -/

/-- A policy that no number of reports of a failure makes refuse it, while the clock stands still:
its predicates accept the failure, and its bounds on attempts are out of reach of their counts. -/
structure Policy.Endless (policy : Policy) (failure : Failure) : Prop where
  accepted : ∀ accepts ∈ policy.predicates, accepts failure = true
  unlimited : ∀ limit ∈ policy.limits, AttemptCount.ceiling ≤ limit.maximum.toNat

theorem Policy.Endless.allows {policy : Policy} {failure : Failure} (h : policy.Endless failure)
    {past : List Report} (hpast : policy.Unfiltered past) (now : Instant) :
    policy.allows now past ⟨failure, now⟩ = true := by
  refine (allows_iff hpast).mpr ⟨h.accepted, fun limit hlimit => ?_, fun bound _ => ?_⟩
  · exact Nat.le_trans (Nat.min_le_right _ _) (h.unlimited limit hlimit)
  · rw [Instant.since_self]
    exact Nat.zero_le _

/-- A clock that stands still. -/
def Timeline.still (moment : Instant) : Timeline where
  run _ _ := moment
  wait _ _ := moment

namespace Template.Course

variable {template : Template Policy} {timeline : Timeline} {now : Instant}
  {attempts : List (Attempt α)}
  (course : (template.map Policy.rule).Course timeline now attempts)

include course

/-- Too many calls are made only for a failure that the policy would let pass for ever. -/
theorem exists_endless
    (hmany : UInt32.size ≤ (template.execute timeline now attempts).calls.length) :
    ∃ failure, template.policy.Endless failure := by
  have hle : (template.execute timeline now attempts).calls.length
      ≤ course.retrials.length + 1 := course.length_calls_le
  have htwo : 1 < UInt32.size := by decide
  obtain ⟨retrial, hretrial⟩ : ∃ retrial, course.retrials[0]? = some retrial :=
    ⟨_, List.getElem?_eq_getElem (by omega)⟩
  refine ⟨retrial.report.failure, (Policy.parts_of_allows (course.allows hretrial)).1, ?_⟩
  intro limit hlimit
  by_contra hlow
  have hfew := course.length_retrials_le hlimit (Nat.not_le.mp hlow)
  rw [AttemptCount.ceiling] at hlow
  omega

end Template.Course

namespace Template

section Endless

variable (template : Template Policy) {now : Instant} (attempt : Attempt α) {failure : Failure}
  {past : List Report}

/-- On a clock that stands still, a failure that is endless under the policy is retried as often as
it comes. -/
theorem exists_retries_of_endless (sequence : Sequence (template.map Policy.rule).policy.State)
    (h : template.policy.Endless failure)
    (hfailed : attempt.outcome = .error failure)
    (hdelay : ∀ number, ∃ delay, template.delay attempt.factor number = .ok delay)
    (hstate : sequence.state = template.policy.executionAfter now past)
    (hpast : template.policy.Unfiltered past) (count : Nat) :
    ∃ retrials last, (template.map Policy.rule).Retries (.still now) sequence now
      (List.replicate count attempt) retrials last now := by
  -- What the policy keeps of the past is that it accepted every failure in it.
  induction count generalizing sequence past with
  | zero => exact ⟨[], sequence, .refl sequence now⟩
  | succ count ih =>
      obtain ⟨delay, hdelayed⟩ := hdelay sequence.attempts
      obtain ⟨retrial, hretried⟩ := @exists_retried _ _ (.still now) _ now _ _ _ hstate
        ⟨failure, now⟩ rfl hfailed (h.allows hpast now) _ hdelayed
      have hfailure : retrial.report.failure = failure :=
        Except.error.inj (hretried.failed.symm.trans hfailed)
      have hunfiltered : template.policy.Unfiltered (past ++ [retrial.report]) :=
        List.forall_mem_append.mpr
          ⟨hpast, List.forall_mem_singleton.mpr (hfailure ▸ h.accepted)⟩
      have hpause : (Timeline.still now).pause retrial.report.moment retrial.delay = now := by
        rw [Timeline.pause]
        split
        · exact hretried.reported
        · rfl
      have hnext := congrArg Consultation.next (hretried.consultation_eq hstate)
      obtain ⟨retrials, last, hrest⟩ := ih (sequence.retried retrial) hnext hunfiltered
      refine ⟨retrial :: retrials, last, .step hretried ?_⟩
      rwa [hpause]

/-- A run that begins so has counted its failures as far as 32 bits go. -/
theorem exists_retries_started (h : template.policy.Endless failure)
    (hfailed : attempt.outcome = .error failure)
    (hdelay : ∀ number, ∃ delay, template.delay attempt.factor number = .ok delay) (now : Instant)
    (count : Nat) :
    ∃ retrials last, (template.map Policy.rule).Retries (.still now)
        ((template.map Policy.rule).started now) now (List.replicate count attempt) retrials last
        now
      ∧ retrials.length = count ∧ last.attempts = 1 + UInt32.ofNat count := by
  obtain ⟨retrials, last, hretries⟩ :=
    template.exists_retries_of_endless attempt ((template.map Policy.rule).started now) h hfailed
      hdelay (template.policy.start_fst now) (List.forall_mem_nil _) count
  have hlength : retrials.length = count := hretries.length_eq.trans List.length_replicate
  refine ⟨retrials, last, hretries, hlength, ?_⟩
  rw [hretries.attempts_eq, hlength]
  rfl

end Endless

/-- **The count of calls.** The numbers in a run are those of its calls as 32 bits hold them, so
they are true exactly if there are fewer calls than 32 bits can tell apart. A policy ensures this in
all runs exactly if there is no failure that its predicates accept and its bounds on attempts never
refuse. -/
theorem execute_countsCalls_iff (α : Type) :
    (∀ (template : Template Policy) (timeline : Timeline) (now : Instant)
        (attempts : List (Attempt α)),
        let run := template.execute timeline now attempts
        Action.Numbered 0 run.trace
          ∧ (run.CountsCalls template timeline attempts ↔ run.calls.length < UInt32.size))
      ∧ ∀ policy : Policy,
        (∀ (template : Template Policy) (timeline : Timeline) (now : Instant)
          (attempts : List (Attempt α)), template.policy = policy →
          (template.execute timeline now attempts).CountsCalls template timeline attempts)
        ↔ ∀ failure, ¬ policy.Endless failure := by
  have hcounts : ∀ (template : Template Policy) (timeline : Timeline) (now : Instant)
      (attempts : List (Attempt α)),
      (template.execute timeline now attempts).CountsCalls template timeline attempts
        ↔ (template.execute timeline now attempts).calls.length < UInt32.size := by
    intro template timeline now attempts
    rw [← Run.countsCalls_map _ template Policy.rule]
    exact run_countsCalls_iff template.policy.unnumbered_rule timeline now attempts
  refine ⟨fun template timeline now attempts => ⟨?_, hcounts template timeline now attempts⟩,
    fun policy => ⟨fun hall failure hendless => ?_, fun hnone template timeline now attempts => ?_⟩⟩
  · obtain ⟨course⟩ := (template.map Policy.rule).nonempty_course timeline now attempts
    exact course.numbered template.policy.unnumbered_rule
  · let attempt : Attempt α := ⟨.error failure, .zero, 1⟩
    obtain ⟨retrials, last, hretries, hlength, _⟩ :=
      (Template.new policy).exists_retries_started attempt hendless rfl
        (fun _ => ⟨Span.zero, rfl⟩) .origin UInt32.size
    have hcalls := congrArg List.length (hretries.calls_append [])
    rw [List.length_append, List.length_map, hlength] at hcalls
    have hlt := (hcounts _ _ _ _).mp (hall (Template.new policy) (.still .origin) .origin
      (List.replicate UInt32.size attempt ++ []) rfl)
    exact Nat.not_lt.mpr (hcalls ▸ Nat.le_add_right _ _) hlt
  · rintro rfl
    rw [hcounts]
    by_contra hmany
    obtain ⟨course⟩ := (template.map Policy.rule).nonempty_course timeline now attempts
    obtain ⟨failure, hendless⟩ := course.exists_endless (Nat.not_lt.mp hmany)
    exact hnone failure hendless

/-- A bound of two retries makes no failure endless, so three calls are counted as they are. -/
theorem execute_countsCalls_of_two_retries :
    let template := ((Template.new (.both (.attempts ⟨2⟩) .absent)).withBackoff
      (.fixed (.ofSeconds 10))).withListener
    let failing : Attempt Nat := ⟨.error ⟨⟨"Broken", "broken", none⟩, []⟩, .zero, 1⟩
    let attempts := [failing, failing, failing]
    let run := template.execute .timer .origin attempts
    (∀ failure, ¬ template.policy.Endless failure)
      ∧ run.calls.length = 3 ∧ run.calls.length < UInt32.size
      ∧ run.CountsCalls template .timer attempts := by
  intro template failing attempts run
  have hendless : ∀ failure, ¬ template.policy.Endless failure := fun failure h =>
    absurd (h.unlimited ⟨2⟩ (List.mem_singleton_self _)) (by decide)
  have hcalls : run.calls.length = 3 := by
    unfold run attempts failing template
    decide
  exact ⟨hendless, hcalls, hcalls ▸ by decide,
    ((execute_countsCalls_iff Nat).2 template.policy).mpr hendless template .timer .origin
      attempts rfl⟩

/-- Without a policy, an operation that fails `2^32` times and then succeeds is said to have
succeeded at the first attempt. -/
theorem exists_run_miscounted :
    let failing : Attempt Nat := ⟨.error ⟨⟨"x", "x", none⟩, []⟩, .zero, 1⟩
    let attempts := List.replicate 4294967296 failing ++ [⟨.ok 7, .zero, 1⟩]
    let template := (Template.new Policy.absent).withListener
    let run := template.execute (.still .origin) .origin attempts
    run.calls.length = 4294967297 ∧ run.ending = .returned 7 ∧ (0, .success 1) ∈ run.events
      ∧ ¬ run.CountsCalls template (.still .origin) attempts := by
  intro failing attempts template run
  have hendless : template.policy.Endless ⟨⟨"x", "x", none⟩, []⟩ :=
    ⟨List.forall_mem_nil _, List.forall_mem_nil _⟩
  obtain ⟨retrials, last, hretries, hlength, hlast⟩ :=
    template.exists_retries_started failing hendless rfl
      (fun _ => ⟨Span.zero, rfl⟩) .origin 4294967296
  have hhalts : (template.map Policy.rule).Halts (.still .origin) last .origin
    [(⟨.ok 7, .zero, 1⟩ : Attempt Nat)] _ := .succeeded rfl
  have hrun : run = _ := hretries.run_append [⟨.ok 7, .zero, 1⟩]
  have hcalls : run.calls = _ := hretries.calls_append [⟨.ok 7, .zero, 1⟩]
  rw [hhalts.resume_eq] at hrun hcalls
  have hcount : run.calls.length = 4294967297 := by
    rw [hcalls, hhalts.calls_eq, List.length_append, List.length_map, hlength]
    rfl
  have hending : run.ending = .returned 7 := by
    rw [hrun]
    rfl
  have hnumber : last.attempts = 1 := hlast.trans (by decide)
  refine ⟨hcount, hending, ?_, fun h => ?_⟩
  · have hheard : .notify 0 (.success last.attempts) ∈ run.trace := by
      rw [hrun]
      refine List.mem_append_right _ (List.mem_cons_of_mem _ (List.mem_append_right _ ?_))
      exact List.mem_map.mpr ⟨0, List.mem_range.mpr Nat.one_pos, rfl⟩
    rw [hnumber] at hheard
    exact List.mem_filterMap.mpr ⟨_, hheard, rfl⟩
  · obtain ⟨number, hnumber, _⟩ := h.returned 7 hending (by rw [hcount]; decide)
    rw [hcount] at hnumber
    exact absurd (hnumber ▸ number.toNat_lt) (by decide)

end Template

end Retry
