import Retry.Proofs.Sequence.Course

/-!
# What a trace shows

A run is read through its trace: the calls, the lines of the log. Each of these views takes a row
of retrials to a list with one entry, or one group of entries, for each retrial.
-/

namespace Retry

variable {α β σ : Type} {π : Type u}

def Action.call? : Action → Option Instant
  | .call moment => some moment
  | _ => none

def Action.entry? : Action → Option Entry
  | .log entry => some entry
  | _ => none

namespace Run

theorem calls_eq (run : Run α) : run.calls = run.trace.filterMap Action.call? := rfl

theorem log_eq (run : Run α) : run.log = run.trace.filterMap Action.entry? := rfl

theorem calls_after (run : Run α) (actions : List Action) :
    (run.after actions).calls = actions.filterMap Action.call? ++ run.calls :=
  List.filterMap_append

theorem log_after (run : Run α) (actions : List Action) :
    (run.after actions).log = actions.filterMap Action.entry? ++ run.log :=
  List.filterMap_append

end Run

/-- The event at the end of a run. -/
def Event.last (attempts : UInt32) : Except Failure α → Event
  | .ok _ => .success attempts
  | .error failure => .exhausted attempts failure

/-- What the loop writes at the end of a run: nothing if the first call succeeded. -/
def Entry.last (attempts : UInt32) : Except Failure α → List Entry
  | .ok _ => if 1 < attempts then [.succeeded attempts] else []
  | .error failure => [.givingUp attempts failure]

/-- The log of consultations, each of them followed by a line of the run. -/
def Consultation.transcript : List (Consultation σ) → List Entry → List Entry
  | [], lines => lines
  | _ :: _, [] => []
  | consultation :: consultations, line :: lines =>
    consultation.log ++ line :: transcript consultations lines

theorem Consultation.transcript_append (first second : List (Consultation σ))
    {lines : List Entry} (hlength : lines.length = first.length) (more : List Entry) :
    transcript (first ++ second) (lines ++ more)
      = transcript first lines ++ transcript second more := by
  induction first generalizing lines with
  | nil => rw [List.eq_nil_of_length_eq_zero hlength]; rfl
  | cons consultation first ih =>
      cases lines with
      | nil => simp at hlength
      | cons line lines =>
          rw [List.cons_append, List.cons_append, transcript, transcript,
            ih (Nat.succ.inj hlength), List.append_assoc, List.cons_append]

namespace Template

theorem filterMap_map_log (view : Action → Option β) (hview : ∀ entry, view (.log entry) = none)
    (lines : List Entry) : (lines.map Action.log).filterMap view = [] := by
  rw [List.filterMap_map, List.filterMap_eq_nil_iff]
  exact fun entry _ => hview entry

theorem filterMap_entry?_map_log (lines : List Entry) :
    (lines.map Action.log).filterMap Action.entry? = lines := by
  rw [List.filterMap_map]
  exact List.filterMap_some

theorem filterMap_notifyAll (template : Template π) (view : Action → Option β)
    (hview : ∀ listener event, view (.notify listener event) = none) (event : Event) :
    (template.notifyAll event).filterMap view = [] := by
  rw [notifyAll, List.filterMap_map, List.filterMap_eq_nil_iff]
  exact fun listener _ => hview listener event

theorem filterMap_call?_beforeRetry (template : Template π) (number : UInt32)
    (failure : Failure) (delay : Span) :
    (template.beforeRetry number failure delay).filterMap Action.call? = [] := by
  simp only [beforeRetry, List.filterMap_append, List.filterMap_cons, Action.call?,
    template.filterMap_notifyAll Action.call? fun _ _ => rfl]
  split <;> rfl

theorem filterMap_entry?_beforeRetry (template : Template π) (number : UInt32)
    (failure : Failure) (delay : Span) :
    (template.beforeRetry number failure delay).filterMap Action.entry?
      = [.retrying number failure delay] := by
  simp only [beforeRetry, List.filterMap_append, List.filterMap_cons, Action.entry?,
    template.filterMap_notifyAll Action.entry? fun _ _ => rfl]
  split <;> rfl

theorem filterMap_call?_retrialsActions (template : Template π) (number : UInt32)
    (retrials : List (Retrial σ)) :
    (template.retrialsActions number retrials).filterMap Action.call?
      = retrials.map Retrial.called := by
  induction retrials generalizing number with
  | nil => rfl
  | cons retrial retrials ih =>
      simp only [retrialsActions, retrialActions, List.filterMap_append, List.filterMap_cons,
        Action.call?, filterMap_map_log Action.call? fun _ => rfl, filterMap_call?_beforeRetry, ih,
        List.append_nil, List.singleton_append, List.map_cons]

def retrialLines : UInt32 → List (Retrial σ) → List Entry
  | _, [] => []
  | number, retrial :: rest =>
    .retrying number retrial.report.failure retrial.delay :: retrialLines (number + 1) rest

theorem length_retrialLines (number : UInt32) (retrials : List (Retrial σ)) :
    (retrialLines number retrials).length = retrials.length := by
  induction retrials generalizing number with
  | nil => rfl
  | cons retrial retrials ih => rw [retrialLines, List.length_cons, ih, List.length_cons]

theorem filterMap_entry?_retrialsActions (template : Template π) (number : UInt32)
    (retrials : List (Retrial σ)) :
    (template.retrialsActions number retrials).filterMap Action.entry?
      = Consultation.transcript (retrials.map Retrial.consultation)
        (retrialLines number retrials) := by
  induction retrials generalizing number with
  | nil => rfl
  | cons retrial retrials ih =>
      simp only [retrialsActions, retrialActions, List.filterMap_append, List.filterMap_cons,
        Action.entry?, filterMap_entry?_map_log, filterMap_entry?_beforeRetry, ih,
        List.append_assoc, List.singleton_append, List.map_cons, retrialLines,
        Consultation.transcript]

theorem succeeded_eq (template : Template π) (attempts : UInt32) (value : α) :
    template.succeeded attempts
      = (Entry.last attempts (.ok value : Except Failure α)).map .log
        ++ template.notifyAll (.last attempts (.ok value : Except Failure α)) := by
  rw [succeeded, Entry.last, apply_ite (List.map Action.log)]
  rfl

theorem gaveUp_eq (α : Type) (template : Template π) (attempts : UInt32) (failure : Failure) :
    template.gaveUp attempts failure
      = (Entry.last attempts (.error failure : Except Failure α)).map .log
        ++ template.notifyAll (.last attempts (.error failure : Except Failure α)) := rfl

theorem filterMap_call?_last (template : Template π) (attempts : UInt32)
    (outcome : Except Failure α) :
    ((Entry.last attempts outcome).map Action.log
      ++ template.notifyAll (.last attempts outcome)).filterMap Action.call? = [] := by
  rw [List.filterMap_append, filterMap_map_log _ fun _ => rfl,
    template.filterMap_notifyAll _ fun _ _ => rfl, List.append_nil]

theorem Halts.calls_eq {template : Template Rule} {timeline : Timeline}
    {sequence : Sequence template.policy.State} {now : Instant} {attempts : List (Attempt α)}
    {run : Run α} (h : template.Halts timeline sequence now attempts run) :
    run.calls = (attempts.take 1).map fun _ => now := by
  rw [Run.calls_eq]
  cases h with
  | unfinished => rfl
  | @succeeded attempt rest value houtcome =>
      rw [succeeded_eq template sequence.attempts value, List.filterMap_cons,
        filterMap_call?_last]
      rfl
  | refused houtcome hconsult hrefused =>
      rw [gaveUp_eq α, List.cons_append, List.filterMap_cons, List.filterMap_append,
        filterMap_map_log _ fun _ => rfl, filterMap_call?_last]
      rfl
  | broken houtcome hconsult hallowed hdelay =>
      simp only [List.filterMap_cons, Action.call?, filterMap_map_log Action.call? fun _ => rfl]
      rfl

theorem Retries.calls_append {template : Template Rule} {timeline : Timeline}
    {now moment : Instant} {last : Sequence template.policy.State} {earlier : List (Attempt α)}
    {retrials : List (Retrial template.policy.State)}
    (h : template.Retries timeline (template.started now) now earlier retrials last moment)
    (rest : List (Attempt α)) :
    (template.run timeline now (earlier ++ rest)).calls
      = retrials.map Retrial.called ++ (template.resume timeline last moment rest).calls := by
  rw [h.run_append, Run.calls_after, List.filterMap_append, filterMap_map_log _ fun _ => rfl,
    filterMap_call?_retrialsActions, List.nil_append]

/-- The call of a retrial, and then the calls of the sequence after it. -/
theorem Retried.calls_eq {template : Template Rule} {timeline : Timeline}
    {sequence : Sequence template.policy.State} {now : Instant} {attempt : Attempt α}
    {retrial : Retrial template.policy.State}
    (h : template.Retried timeline sequence now attempt retrial) (rest : List (Attempt α)) :
    (template.resume timeline sequence now (attempt :: rest)).calls
      = now :: (template.resume timeline (sequence.retried retrial)
          (timeline.pause retrial.report.moment retrial.delay) rest).calls := by
  rw [h.resume_eq, Run.calls_after, retrialActions, List.filterMap_append,
    filterMap_call?_beforeRetry, List.filterMap_cons, filterMap_map_log _ fun _ => rfl, h.called]
  rfl

theorem length_calls_resume_cons (template : Template Rule) (timeline : Timeline)
    (sequence : Sequence template.policy.State) (now : Instant) (attempt : Attempt α)
    (rest : List (Attempt α)) :
    1 ≤ (template.resume timeline sequence now (attempt :: rest)).calls.length := by
  rcases template.retried_or_halts timeline sequence now attempt rest with
    ⟨retrial, hretried⟩ | ⟨run, hhalts⟩
  · rw [hretried.calls_eq, List.length_cons]
    exact Nat.le_add_left 1 _
  · rw [hhalts.resume_eq, hhalts.calls_eq]
    exact Nat.le_refl 1

/-- A run makes the calls of its retrials and that of its last step. -/
theorem Course.calls_eq {template : Template Rule} {timeline : Timeline} {now : Instant}
    {attempts : List (Attempt α)} (course : template.Course timeline now attempts) :
    (template.run timeline now attempts).calls
      = course.retrials.map Retrial.called ++ (course.rest.take 1).map fun _ => course.moment := by
  have hcalls := course.retries.calls_append course.rest
  rwa [course.halts.resume_eq, ← course.attempts_eq, course.halts.calls_eq] at hcalls

section Course

variable {template : Template Rule} {timeline : Timeline} {now : Instant}
  {attempts : List (Attempt α)} (course : template.Course timeline now attempts)

theorem Course.length_calls_le :
    (template.run timeline now attempts).calls.length ≤ course.retrials.length + 1 := by
  rw [course.calls_eq, List.length_append, List.length_map, List.length_map, List.length_take]
  omega

theorem Course.exists_retrial {index : Nat}
    (hnext : index + 1 < (template.run timeline now attempts).calls.length) :
    ∃ retrial, course.retrials[index]? = some retrial := by
  have hlength := course.length_calls_le
  exact ⟨_, List.getElem?_eq_getElem (by omega)⟩

theorem Course.getElem?_calls {index : Nat} {retrial : Retrial template.policy.State}
    (hretrial : course.retrials[index]? = some retrial) :
    (template.run timeline now attempts).calls[index]? = some retrial.called := by
  have hlt := (List.getElem?_eq_some_iff.mp hretrial).1
  rw [course.calls_eq, List.getElem?_append_left (by rwa [List.length_map]), List.getElem?_map,
    hretrial]
  rfl

theorem Course.getElem?_calls_length {attempt : Attempt α}
    (hattempt : course.rest[0]? = some attempt) :
    (template.run timeline now attempts).calls[course.retrials.length]? = some course.moment := by
  have hlength : (course.retrials.map Retrial.called).length = course.retrials.length :=
    List.length_map _
  rw [course.calls_eq, List.getElem?_append_right (Nat.le_of_eq hlength), hlength, Nat.sub_self,
    List.getElem?_map, List.getElem?_take_of_lt Nat.one_pos, hattempt]
  rfl

/-- The call after a retrial begins where the pause ends. -/
theorem Course.getElem?_calls_succ {index : Nat} {retrial : Retrial template.policy.State}
    (hretrial : course.retrials[index]? = some retrial)
    (hnext : index + 1 < (template.run timeline now attempts).calls.length) :
    (template.run timeline now attempts).calls[index + 1]?
      = some (timeline.pause retrial.report.moment retrial.delay) := by
  obtain ⟨more, hmore⟩ : (template.run timeline now attempts).calls
      <+: course.retrials.map Retrial.called ++ [course.moment] := by
    rw [course.calls_eq, List.prefix_append_right_inj]
    cases course.rest with
    | nil => exact List.nil_prefix
    | cons attempt rest => exact List.prefix_rfl
  rw [← List.getElem?_append_left hnext, hmore, course.retries.called_append_singleton,
    List.getElem?_cons_succ, List.getElem?_map, hretrial]
  rfl

include course in
/-- The next call begins where the wait after the failure ends. -/
theorem Course.exists_next {index : Nat}
    (hnext : index + 1 < (template.run timeline now attempts).calls.length) :
    ∃ call attempt delay, (template.run timeline now attempts).calls[index]? = some call
      ∧ attempts[index]? = some attempt
      ∧ template.delay attempt.factor (UInt32.ofNat (index + 1)) = .ok delay
      ∧ (template.run timeline now attempts).calls[index + 1]?
        = some (timeline.pause (timeline.run call attempt.takes) delay) := by
  obtain ⟨retrial, hretrial⟩ := course.exists_retrial hnext
  obtain ⟨attempt, hattempt, _, hmoment, hdelay⟩ := course.exists_attempt hretrial
  refine ⟨retrial.called, attempt, retrial.delay, course.getElem?_calls hretrial, hattempt,
    hdelay, ?_⟩
  rw [← hmoment]
  exact course.getElem?_calls_succ hretrial hnext

end Course

/-- The log of a run is that of the start, that of its retrials and that of its last step. -/
theorem Course.log_eq {template : Template Rule} {timeline : Timeline} {now : Instant}
    {attempts : List (Attempt α)} (course : template.Course timeline now attempts) :
    (template.run timeline now attempts).log
      = (template.policy.start now).2
        ++ Consultation.transcript (course.retrials.map Retrial.consultation)
          (retrialLines 1 course.retrials)
        ++ course.halt.log := by
  rw [course.run_eq, Run.log_after, List.filterMap_append, filterMap_entry?_map_log,
    filterMap_entry?_retrialsActions]

end Template

end Retry
