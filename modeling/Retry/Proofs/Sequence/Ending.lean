import Retry.Proofs.Sequence.Trace

/-!
# How a run ends

A run ends of its own when the operation succeeds or the policy refuses; otherwise an attempt or a
delay is missing. A run that ends of its own makes one call more than it has retrials, and tells of
the outcome of every call.
-/

namespace Retry

variable {α : Type}

/-- Whether a run came to an end of its own: the operation succeeded or the policy refused. -/
inductive Ending.Final : Ending α → Prop
  | returned (value : α) : Final (.returned value)
  | exhausted (error : Exhaustion) : Final (.exhausted error)

instance (ending : Ending α) : Decidable ending.Final :=
  match ending with
  | .returned value => .isTrue (.returned value)
  | .exhausted error => .isTrue (.exhausted error)
  | .broken _ => .isFalse nofun
  | .unfinished => .isFalse nofun

/-- The outcomes that an ending tells of: the failures and the value, or all the failures. -/
inductive Ending.Tells : Ending α → List (Except Failure α) → Prop
  | returned (failures : List Failure) (value : α) :
      Tells (.returned value) (failures.map .error ++ [.ok value])
  | exhausted (error : Exhaustion)
      (hattempts : error.attempts.toNat = error.suppressed.length + 1) :
      Tells (.exhausted error) (error.suppressed.map .error ++ [.error error.last])

/-- A run that came to an end of its own after a number of calls. -/
structure Run.EndsAfter (run : Run α) (count : Nat) : Prop where
  final : run.ending.Final
  calls : run.calls.length = count

instance (run : Run α) (count : Nat) : Decidable (run.EndsAfter count) :=
  decidable_of_iff (run.ending.Final ∧ run.calls.length = count)
    ⟨fun h => ⟨h.1, h.2⟩, fun h => ⟨h.final, h.calls⟩⟩

namespace Template

section Halts

variable {template : Template Rule} {timeline : Timeline}
  {sequence : Sequence template.policy.State} {now : Instant} {attempts : List (Attempt α)}
  {run : Run α}

theorem Halts.final_or (h : template.Halts timeline sequence now attempts run) :
    run.ending.Final ∨ attempts = []
      ∨ ∃ attempt ∈ attempts, ∃ error,
        template.delay attempt.factor sequence.attempts = .error error := by
  cases h with
  | unfinished => exact Or.inr (Or.inl rfl)
  | succeeded => exact Or.inl (.returned _)
  | refused => exact Or.inl (.exhausted _)
  | broken houtcome hconsult hallowed hdelay =>
      exact Or.inr (Or.inr ⟨_, List.mem_cons_self, _, hdelay⟩)

theorem Halts.exists_returned (h : template.Halts timeline sequence now attempts run) {value : α}
    (hvalue : run.ending = .returned value) :
    ∃ attempt rest, attempts = attempt :: rest ∧ attempt.outcome = .ok value := by
  cases h with
  | unfinished => cases hvalue
  | succeeded houtcome =>
      cases hvalue
      exact ⟨_, _, rfl, houtcome⟩
  | refused => cases hvalue
  | broken => cases hvalue

theorem Halts.ne_nil (h : template.Halts timeline sequence now attempts run)
    (hending : run.ending ≠ .unfinished) : attempts ≠ [] := by
  cases h with
  | unfinished => exact absurd rfl hending
  | succeeded => exact List.cons_ne_nil _ _
  | refused => exact List.cons_ne_nil _ _
  | broken => exact List.cons_ne_nil _ _

theorem Halts.exists_ending (h : template.Halts timeline sequence now attempts run)
    (hattempts : attempts ≠ []) :
    (∃ value, run.ending = .returned value) ∨ (∃ error, run.ending = .exhausted error)
      ∨ ∃ error, run.ending = .broken error := by
  cases h with
  | unfinished => exact absurd rfl hattempts
  | succeeded => exact Or.inl ⟨_, rfl⟩
  | refused => exact Or.inr (Or.inl ⟨_, rfl⟩)
  | broken => exact Or.inr (Or.inr ⟨_, rfl⟩)

/-- A success is written with the number of its call, unless it came at once. -/
theorem Halts.mem_trace_of_returned (h : template.Halts timeline sequence now attempts run)
    {value : α} (hvalue : run.ending = .returned value) (hseveral : 1 < sequence.attempts) :
    .log (.succeeded sequence.attempts) ∈ run.trace := by
  cases h with
  | unfinished => cases hvalue
  | succeeded houtcome =>
      rw [Template.succeeded, if_pos hseveral]
      simp
  | refused => cases hvalue
  | broken => cases hvalue

theorem Halts.attempts_of_exhausted (h : template.Halts timeline sequence now attempts run)
    {error : Exhaustion} (herror : run.ending = .exhausted error) :
    error.attempts = sequence.attempts := by
  cases h with
  | unfinished => cases herror
  | succeeded => cases herror
  | refused =>
      cases herror
      rfl
  | broken => cases herror

theorem Halts.delay_of_broken (h : template.Halts timeline sequence now attempts run)
    {error : Span.ConversionError} (herror : run.ending = .broken error) :
    ∃ attempt, attempts[0]? = some attempt
      ∧ template.delay attempt.factor sequence.attempts = .error error := by
  cases h with
  | unfinished => cases herror
  | succeeded => cases herror
  | refused => cases herror
  | broken houtcome hconsult hallowed hdelay =>
      cases herror
      exact ⟨_, rfl, hdelay⟩

theorem Halts.tells (h : template.Halts timeline sequence now attempts run)
    (hfinal : run.ending.Final)
    (hcounter : sequence.attempts.toNat = sequence.failures.length + 1) :
    run.ending.Tells
      (sequence.failures.map .error ++ (attempts.take 1).map Attempt.outcome) := by
  cases h with
  | unfinished => cases hfinal
  | succeeded houtcome =>
      rw [List.take_succ_cons, List.take_zero, List.map_singleton, houtcome]
      exact .returned _ _
  | refused houtcome hconsult hrefused =>
      rw [List.take_succ_cons, List.take_zero, List.map_singleton, houtcome]
      exact .exhausted ⟨_, _, _⟩ hcounter
  | broken => cases hfinal

end Halts

namespace Course

variable {template : Template Rule} {timeline : Timeline} {now : Instant}
  {attempts : List (Attempt α)} (course : template.Course timeline now attempts)

theorem rest_ne_nil (hfinal : course.halt.ending.Final) : course.rest ≠ [] :=
  course.halts.ne_nil fun hending => nomatch hending ▸ hfinal

theorem length_calls_of_ne_nil (hrest : course.rest ≠ []) :
    (template.run timeline now attempts).calls.length = course.retrials.length + 1 := by
  obtain ⟨attempt, more, hcons⟩ := List.exists_cons_of_ne_nil hrest
  rw [course.calls_eq, hcons, List.length_append, List.length_map, List.length_map]
  rfl

/-- A run that comes to an end of its own makes one call more than it has retrials. -/
theorem length_calls (hfinal : course.halt.ending.Final) :
    (template.run timeline now attempts).calls.length = course.retrials.length + 1 :=
  course.length_calls_of_ne_nil (course.rest_ne_nil hfinal)

theorem getElem?_attempts : attempts[course.retrials.length]? = course.rest[0]? := by
  have hlength := course.retries.length_eq
  obtain ⟨earlier, rest, retrials, last, moment, halt, rfl, _, _⟩ := course
  rw [hlength, List.getElem?_append_right (Nat.le_refl _), Nat.sub_self]

theorem take_attempts :
    attempts.take (course.retrials.length + 1) = course.earlier ++ course.rest.take 1 := by
  have hlength := course.retries.length_eq
  obtain ⟨earlier, rest, retrials, last, moment, halt, rfl, _, _⟩ := course
  rw [hlength, List.take_length_add_append]

theorem take_attempts_of_le {number : Nat} (hnumber : number ≤ course.retrials.length) :
    attempts.take number = course.earlier.take number := by
  rw [course.retries.length_eq] at hnumber
  calc attempts.take number = (course.earlier ++ course.rest).take number :=
        congrArg _ course.attempts_eq
    _ = course.earlier.take number := List.take_append_of_le_length hnumber

theorem take_earlier : attempts.take course.retrials.length = course.earlier := by
  rw [course.take_attempts_of_le (Nat.le_refl _), course.retries.length_eq, List.take_length]

theorem last_attempts : course.last.attempts = UInt32.ofNat (course.retrials.length + 1) := by
  rw [course.retries.attempts_eq, started, UInt32.add_comm, UInt32.ofNat_add]
  rfl

theorem toNat_attempts (hsize : course.retrials.length + 1 < UInt32.size) :
    course.last.attempts.toNat = course.retrials.length + 1 := by
  rw [course.last_attempts, UInt32.toNat_ofNat_of_lt' hsize]

theorem tells (hfinal : course.halt.ending.Final)
    (hsize : course.retrials.length + 1 < UInt32.size) :
    course.halt.ending.Tells
      ((attempts.take (course.retrials.length + 1)).map Attempt.outcome) := by
  have hfailures := course.retries.failures_eq
  rw [started, List.nil_append] at hfailures
  rw [course.take_attempts, List.map_append, course.retries.map_outcome, ← hfailures]
  apply course.halts.tells hfinal
  rw [course.toNat_attempts hsize, hfailures, List.length_map]

end Course

end Template

end Retry
