import Retry.Proofs.Policy.Meaning

/-!
# The parts of a policy

A policy is met by a failure exactly when each of its predicates and bounds is, wherever in the
tree they stand (`Policy.allows_iff`). This needs that no predicate rejected an earlier failure:
a predicate keeps what it rejects from the bounds inside it, and their counts fall behind.
-/

namespace Retry.Policy

def predicates : Policy → List (Failure → Bool)
  | .attempts _ => []
  | .duration _ => []
  | .both first second => first.predicates ++ second.predicates
  | .retryIf accepts inner => accepts :: inner.predicates
  | .absent => []
  | .present policy => policy.predicates

def limits : Policy → List AttemptLimit
  | .attempts limit => [limit]
  | .duration _ => []
  | .both first second => first.limits ++ second.limits
  | .retryIf _ inner => inner.limits
  | .absent => []
  | .present policy => policy.limits

def bounds : Policy → List Span
  | .attempts _ => []
  | .duration limit => [limit.bound]
  | .both first second => first.bounds ++ second.bounds
  | .retryIf _ inner => inner.bounds
  | .absent => []
  | .present policy => policy.bounds

variable {policy : Policy} {start : Instant} {past : List Report} {report : Report}

/-- What a policy allows is accepted by its predicates and within its bounds on time, whatever the
history is. -/
theorem parts_of_allows (hallows : policy.allows start past report = true) :
    (∀ accepts ∈ policy.predicates, accepts report.failure = true)
      ∧ ∀ bound ∈ policy.bounds, report.moment.since start ≤ bound := by
  induction policy generalizing past with
  | attempts limit => simp [predicates, bounds]
  | duration limit =>
      rw [allows, decide_eq_true_eq] at hallows
      refine ⟨by simp [predicates], fun bound hmem => ?_⟩
      rw [List.mem_singleton.mp hmem]
      exact hallows
  | both first second ihfirst ihsecond =>
      rw [allows, Bool.and_eq_true] at hallows
      obtain ⟨hpredicates, hbounds⟩ := ihfirst hallows.1
      obtain ⟨hpredicates', hbounds'⟩ := ihsecond hallows.2
      exact ⟨List.forall_mem_append.mpr ⟨hpredicates, hpredicates'⟩,
        List.forall_mem_append.mpr ⟨hbounds, hbounds'⟩⟩
  | retryIf accepts inner ih =>
      rw [allows, Bool.and_eq_true] at hallows
      obtain ⟨hpredicates, hbounds⟩ := ih hallows.2
      exact ⟨List.forall_mem_cons.mpr ⟨hallows.1, hpredicates⟩, hbounds⟩
  | absent => simp [predicates, bounds]
  | present policy ih => exact ih hallows

/-- Every report of the history was accepted by all predicates. -/
def Unfiltered (policy : Policy) (past : List Report) : Prop :=
  ∀ earlier ∈ past, ∀ accepts ∈ policy.predicates, accepts earlier.failure = true

/-- **The parts decide.** After a history that no predicate touched, a policy allows a failure
exactly when all predicates accept it and all bounds are kept. -/
theorem allows_iff (hpast : policy.Unfiltered past) :
    policy.allows start past report = true
      ↔ (∀ accepts ∈ policy.predicates, accepts report.failure = true)
        ∧ (∀ limit ∈ policy.limits,
          min (past.length + 1) AttemptCount.ceiling ≤ limit.maximum.toNat)
        ∧ ∀ bound ∈ policy.bounds, report.moment.since start ≤ bound := by
  induction policy generalizing past with
  | attempts limit => simp [allows, predicates, limits, bounds]
  | duration limit => simp [allows, predicates, limits, bounds]
  | both first second ihfirst ihsecond =>
      have hfirst : first.Unfiltered past := fun earlier hmem accepts haccepts =>
        hpast earlier hmem accepts (List.mem_append_left _ haccepts)
      have hsecond : second.Unfiltered past := fun earlier hmem accepts haccepts =>
        hpast earlier hmem accepts (List.mem_append_right _ haccepts)
      rw [allows, Bool.and_eq_true, ihfirst hfirst, ihsecond hsecond]
      simp only [predicates, limits, bounds, List.forall_mem_append]
      constructor
      · rintro ⟨⟨hpredicates, hlimits, hbounds⟩, hpredicates', hlimits', hbounds'⟩
        exact ⟨⟨hpredicates, hpredicates'⟩, ⟨hlimits, hlimits'⟩, hbounds, hbounds'⟩
      · rintro ⟨⟨hpredicates, hpredicates'⟩, ⟨hlimits, hlimits'⟩, hbounds, hbounds'⟩
        exact ⟨⟨hpredicates, hlimits, hbounds⟩, hpredicates', hlimits', hbounds'⟩
  | retryIf accepts inner ih =>
      have hinner : inner.Unfiltered past := fun earlier hmem other hother =>
        hpast earlier hmem other (List.mem_cons_of_mem _ hother)
      -- The predicate hides nothing of this history from the policy inside it.
      have hfilter : (past.filter fun earlier => accepts earlier.failure) = past :=
        List.filter_eq_self.mpr fun earlier hmem => hpast earlier hmem accepts List.mem_cons_self
      rw [allows, Bool.and_eq_true, hfilter, ih hinner]
      simp only [predicates, limits, bounds, List.forall_mem_cons, and_assoc]
  | absent => simp [allows, predicates, limits, bounds]
  | present policy ih => exact ih hpast

end Retry.Policy
