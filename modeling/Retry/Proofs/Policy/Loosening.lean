import Retry.Proofs.Policy.Parts

/-!
# Looser policies

A policy is loosened by raising its bounds, by letting its predicates accept more and by dropping
optional parts. The parts decide as long as no predicate has rejected a failure, and then the looser
policy allows what the first one allows (`Policy.Loosens.allows`). After a rejection this is no
longer so: what a looser predicate lets pass is counted by the bounds inside it.
-/

namespace Retry.Policy

/-- The second policy has the shape of the first one, and none of its parts is stricter. An optional
part may be gone. -/
inductive Loosens : Policy → Policy → Prop
  | attempts {limit limit' : AttemptLimit} (hmaximum : limit.maximum ≤ limit'.maximum) :
      Loosens (.attempts limit) (.attempts limit')
  | duration {limit limit' : TimeLimit} (hbound : limit.bound ≤ limit'.bound) :
      Loosens (.duration limit) (.duration limit')
  | both {first first' second second' : Policy} (hfirst : Loosens first first')
      (hsecond : Loosens second second') : Loosens (.both first second) (.both first' second')
  | retryIf {accepts accepts' : Failure → Bool} {inner inner' : Policy}
      (haccepts : ∀ failure, accepts failure = true → accepts' failure = true)
      (hinner : Loosens inner inner') : Loosens (.retryIf accepts inner) (.retryIf accepts' inner')
  | absent : Loosens .absent .absent
  | present {policy policy' : Policy} (hpolicy : Loosens policy policy') :
      Loosens (.present policy) (.present policy')
  | dropped (policy : Policy) : Loosens (.present policy) .absent

variable {policy policy' : Policy} {start : Instant} {past past' : List Report}
  {report report' : Report}

theorem forall_append_exists {β : Type} {relation : β → β → Prop} {xs xs' ys ys' : List β}
    (h : ∀ y ∈ ys, ∃ x ∈ xs, relation x y) (h' : ∀ y ∈ ys', ∃ x ∈ xs', relation x y) :
    ∀ y ∈ ys ++ ys', ∃ x ∈ xs ++ xs', relation x y := by
  refine List.forall_mem_append.mpr ⟨fun y hy => ?_, fun y hy => ?_⟩
  · obtain ⟨x, hx, hxy⟩ := h y hy
    exact ⟨x, List.mem_append_left _ hx, hxy⟩
  · obtain ⟨x, hx, hxy⟩ := h' y hy
    exact ⟨x, List.mem_append_right _ hx, hxy⟩

/-- Each part of a looser policy has a part of the first one that is as strict. -/
theorem Loosens.parts (h : policy.Loosens policy') :
    (∀ accepts' ∈ policy'.predicates, ∃ accepts ∈ policy.predicates,
        ∀ failure, accepts failure = true → accepts' failure = true)
      ∧ (∀ limit' ∈ policy'.limits, ∃ limit ∈ policy.limits, limit.maximum ≤ limit'.maximum)
      ∧ ∀ bound' ∈ policy'.bounds, ∃ bound ∈ policy.bounds, bound ≤ bound' := by
  induction h with
  | @attempts limit limit' hmaximum => simpa [predicates, limits, bounds] using hmaximum
  | @duration limit limit' hbound => simpa [predicates, limits, bounds] using hbound
  | both _ _ ihfirst ihsecond =>
      obtain ⟨hpredicates, hlimits, hbounds⟩ := ihfirst
      obtain ⟨hpredicates', hlimits', hbounds'⟩ := ihsecond
      exact ⟨forall_append_exists hpredicates hpredicates', forall_append_exists hlimits hlimits',
        forall_append_exists hbounds hbounds'⟩
  | @retryIf accepts accepts' _ _ haccepts _ ih =>
      have houter : ∀ other' ∈ [accepts'], ∃ other ∈ [accepts],
          ∀ failure, other failure = true → other' failure = true := by
        simpa using haccepts
      exact ⟨forall_append_exists houter ih.1, ih.2⟩
  | absent => simp [predicates, limits, bounds]
  | present _ ih => exact ih
  | dropped policy => simp [predicates, limits, bounds]

theorem exists_mem_of_map_failure_eq
    (hfailures : past'.map Report.failure = past.map Report.failure) {earlier' : Report}
    (hmem : earlier' ∈ past') : ∃ earlier ∈ past, earlier.failure = earlier'.failure :=
  List.mem_map.mp (hfailures ▸ List.mem_map_of_mem hmem)

theorem Loosens.unfiltered (h : policy.Loosens policy') (hpast : policy.Unfiltered past)
    (hfailures : past'.map Report.failure = past.map Report.failure) :
    policy'.Unfiltered past' := by
  intro earlier' hearlier' accepts' haccepts'
  obtain ⟨accepts, haccepts, himp⟩ := h.parts.1 accepts' haccepts'
  obtain ⟨earlier, hearlier, hfailure⟩ := exists_mem_of_map_failure_eq hfailures hearlier'
  exact himp _ (hfailure ▸ hpast earlier hearlier accepts haccepts)

/-- **Looser policies allow more**, of the same failures at moments that are not later. -/
theorem Loosens.allows (h : policy.Loosens policy') (hpast : policy.Unfiltered past)
    (hfailures : past'.map Report.failure = past.map Report.failure)
    (hfailure : report'.failure = report.failure)
    (hmoment : report'.moment.nanoseconds ≤ report.moment.nanoseconds)
    (hallows : policy.allows start past report = true) :
    policy'.allows start past' report' = true := by
  have hlength : past'.length = past.length := by simpa using congrArg List.length hfailures
  obtain ⟨hpredicates, hlimits, hbounds⟩ := h.parts
  rw [allows_iff (h.unfiltered hpast hfailures), hfailure, hlength]
  rw [allows_iff hpast] at hallows
  refine ⟨fun accepts' hmem => ?_, fun limit' hmem => ?_, fun bound' hmem => ?_⟩
  · obtain ⟨accepts, haccepts, himp⟩ := hpredicates accepts' hmem
    exact himp _ (hallows.1 accepts haccepts)
  · obtain ⟨limit, hlimit, hmaximum⟩ := hlimits limit' hmem
    exact Nat.le_trans (hallows.2.1 limit hlimit) hmaximum
  · obtain ⟨bound, hbound, hle⟩ := hbounds bound' hmem
    have hsince := Instant.since_le_since hmoment start
    exact Nat.le_trans hsince (Nat.le_trans (hallows.2.2 bound hbound) hle)

/-- Without bounds on time a policy does not look at the moments. -/
theorem allows_congr (hbounds : policy.bounds = [])
    (hfailures : past'.map Report.failure = past.map Report.failure)
    (hfailure : report'.failure = report.failure) :
    policy.allows start past' report' = policy.allows start past report := by
  induction policy generalizing past past' with
  | attempts limit =>
      have hlength : past'.length = past.length := by simpa using congrArg List.length hfailures
      rw [allows, allows, hlength]
  | duration limit => cases hbounds
  | both first second ihfirst ihsecond =>
      obtain ⟨hfirst, hsecond⟩ := List.append_eq_nil_iff.mp hbounds
      rw [allows, allows, ihfirst hfirst hfailures, ihsecond hsecond hfailures]
  | retryIf accepts inner ih =>
      have hkept : (past'.filter fun earlier => accepts earlier.failure).map Report.failure
          = (past.filter fun earlier => accepts earlier.failure).map Report.failure := by
        have hfilter := congrArg (List.filter accepts) hfailures
        rwa [List.filter_map, List.filter_map] at hfilter
      rw [allows, allows, hfailure, ih hbounds hkept]
  | absent => rfl
  | present policy ih => exact ih hbounds hfailures

end Retry.Policy
