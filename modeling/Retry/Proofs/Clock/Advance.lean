import Retry.Clock

/-!
# Advancing a manual clock

To advance a clock is to search for the moment it comes to. The moment asked for is tried first.
While the platform cannot show the moment tried, its distance from the current one is halved
(`Settles`). The current moment is one the platform can show, so the search ends there at the
latest, and what it finds lies between the two and can be shown again (`Shows.advance`). That is
all a run of advances has to know about the search.
-/

namespace Retry

open scoped NatPower

namespace ManualClock

/-- The search from the moment `next` back to the current one. It takes a number of rounds and ends
at `result`. -/
inductive Settles (limit current : Nat) : (rounds next result : Nat) → Prop
  | stop {next : Nat} (h : next ≤ current ∨ next ≤ limit) : Settles limit current 0 next next
  | halve {rounds next result : Nat} (hahead : current < next) (hbeyond : limit < next)
      (hrest : Settles limit current rounds (current + (next - current) / 2) result) :
      Settles limit current (rounds + 1) next result

namespace Settles

variable {limit current rounds next result : Nat}

theorem current_le (h : Settles limit current rounds next result) (hnext : current ≤ next) :
    current ≤ result := by
  induction h with
  | stop _ => exact hnext
  | halve _ _ _ ih => exact ih (Nat.le_add_right _ _)

theorem le_next (h : Settles limit current rounds next result) : result ≤ next := by
  induction h with
  | stop _ => exact Nat.le_refl _
  | halve hahead _ _ ih => omega

/-- A search from a place at which the platform can show the clock ends at such a place. -/
theorem le_limit (h : Settles limit current rounds next result) (hcurrent : current ≤ limit) :
    result ≤ limit := by
  induction h with
  | stop hend =>
      rcases hend with hback | hshown
      · exact Nat.le_trans hback hcurrent
      · exact hshown
  | halve _ _ _ ih => exact ih

theorem eq_of_le (h : Settles limit current rounds next result) (hnext : next ≤ limit) :
    result = next := by
  cases h with
  | stop _ => rfl
  | halve _ hbeyond _ => omega

end Settles

/-- The search ends. Its rounds are at most the binary digits of the first distance. -/
theorem exists_settles (limit current : Nat) {step digits : Nat} (h : step < 2 ^ digits) :
    ∃ rounds ≤ digits,
      Settles limit current rounds (current + step) (settle limit current step) := by
  induction digits generalizing step with
  | zero =>
      have hzero : step = 0 := by omega
      subst hzero
      rw [settle, if_pos (Or.inl rfl)]
      exact ⟨0, Nat.le_refl 0, .stop (.inl (Nat.le_refl current))⟩
  | succ digits ih =>
      rw [settle]
      by_cases hend : step = 0 ∨ current + step ≤ limit
      · rw [if_pos hend]
        exact ⟨0, Nat.zero_le _, .stop (hend.imp (by omega) id)⟩
      · rw [if_neg hend]
        rw [not_or] at hend
        have hhalf : step / 2 < 2 ^ digits := by
          rw [Nat.pow_succ] at h
          omega
        obtain ⟨rounds, hrounds, hsettles⟩ := ih hhalf
        refine ⟨rounds + 1, Nat.succ_le_succ hrounds, .halve (by omega) (by omega) ?_⟩
        rw [Nat.add_sub_cancel_left]
        exact hsettles

/-- A search of at most 64 rounds takes a clock to where it stands after an advance. -/
theorem exists_settles_advance (limit : Nat) (clock : ManualClock) (span : Span) :
    ∃ rounds ≤ 64, Settles limit clock.offset rounds
      (max clock.offset (min (clock.offset + span.nanoseconds) longestOffset))
      (clock.advance limit span).offset := by
  have htarget : max clock.offset (min (clock.offset + span.nanoseconds) longestOffset)
      = clock.offset + (min (clock.offset + min span.nanoseconds longestOffset) longestOffset
        - clock.offset) := by omega
  rw [htarget]
  have hsize : longestOffset < 2 ^ 64 := by decide
  exact exists_settles limit clock.offset (by omega)

theorem offset_le_advance (limit : Nat) (clock : ManualClock) (span : Span) :
    clock.offset ≤ (clock.advance limit span).offset := by
  obtain ⟨_, _, hsettles⟩ := exists_settles_advance limit clock span
  exact hsettles.current_le (Nat.le_max_left _ _)

theorem advance_le (limit : Nat) (clock : ManualClock) (span : Span) :
    (clock.advance limit span).offset
      ≤ max clock.offset (min (clock.offset + span.nanoseconds) longestOffset) := by
  obtain ⟨_, _, hsettles⟩ := exists_settles_advance limit clock span
  exact hsettles.le_next

theorem now_advance_le (limit : Nat) (clock : ManualClock) (span : Span) :
    ((clock.advance limit span).now limit).nanoseconds ≤ clock.offset + span.nanoseconds := by
  have hadvance := advance_le limit clock span
  rw [now]
  split
  · exact Nat.le_trans hadvance (by omega)
  · exact Nat.zero_le _

/-- The clock is at a moment that the platform can show and that fits its counter. -/
structure Shows (limit : Nat) (clock : ManualClock) : Prop where
  le_limit : clock.offset ≤ limit
  le_longest : clock.offset ≤ longestOffset

theorem shows_new (limit : Nat) : Shows limit new := ⟨Nat.zero_le _, Nat.zero_le _⟩

namespace Shows

variable {limit : Nat} {clock : ManualClock}

theorem now_eq (h : Shows limit clock) : clock.now limit = ⟨clock.offset⟩ := if_pos h.le_limit

theorem nanoseconds_elapsed (h : Shows limit clock) :
    clock.elapsed.nanoseconds = clock.offset := by
  have hlongest : longestOffset < Span.overflow := by decide
  exact Span.ofNanoseconds_of_lt (Nat.lt_of_le_of_lt h.le_longest hlongest)

theorem since_origin (h : Shows limit clock) :
    (clock.now limit).since Instant.origin = clock.elapsed := by
  rw [h.now_eq, Instant.since, elapsed, Instant.origin, Nat.sub_zero]

theorem advance (h : Shows limit clock) (span : Span) : Shows limit (clock.advance limit span) := by
  obtain ⟨_, _, hsettles⟩ := exists_settles_advance limit clock span
  have hlongest := h.le_longest
  have hle := hsettles.le_next
  exact ⟨hsettles.le_limit h.le_limit, by omega⟩

/-- A clock arrives where the platform can show it. -/
theorem advance_eq (h : Shows limit clock) {span : Span}
    (hlimit : min (clock.offset + span.nanoseconds) longestOffset ≤ limit) :
    (clock.advance limit span).offset = min (clock.offset + span.nanoseconds) longestOffset := by
  obtain ⟨_, _, hsettles⟩ := exists_settles_advance limit clock span
  have hlongest := h.le_longest
  rw [hsettles.eq_of_le (by omega)]
  omega

end Shows

/-- A clock after some advances, one by one. -/
def advances (limit : Nat) (clock : ManualClock) (spans : List Span) : ManualClock :=
  spans.foldl (advance limit) clock

theorem advances_append (limit : Nat) (clock : ManualClock) (spans spans' : List Span) :
    clock.advances limit (spans ++ spans') = (clock.advances limit spans).advances limit spans' :=
  List.foldl_append

/-- A clock never goes back. -/
theorem offset_le_advances (limit : Nat) (clock : ManualClock) (spans : List Span) :
    clock.offset ≤ (clock.advances limit spans).offset := by
  induction spans generalizing clock with
  | nil => exact Nat.le_refl _
  | cons span spans ih =>
      exact Nat.le_trans (offset_le_advance limit clock span) (ih (clock.advance limit span))

end ManualClock

/-- The nanoseconds of spans together. They may be too many for one span. -/
def Span.total : List Span → Nat
  | [] => 0
  | span :: rest => span.nanoseconds + total rest

namespace ManualClock

namespace Shows

variable {limit : Nat} {clock : ManualClock}

theorem advances (h : Shows limit clock) (spans : List Span) :
    Shows limit (clock.advances limit spans) := by
  induction spans generalizing clock with
  | nil => exact h
  | cons span spans ih => exact ih (h.advance span)

theorem advances_le (h : Shows limit clock) (spans : List Span) :
    (clock.advances limit spans).offset
      ≤ min (clock.offset + Span.total spans) longestOffset := by
  refine Nat.le_min.mpr ⟨?_, (h.advances spans).le_longest⟩
  induction spans generalizing clock with
  | nil => exact Nat.le_refl _
  | cons span spans ih =>
      have hstep := advance_le limit clock span
      refine Nat.le_trans (ih (h.advance span)) ?_
      rw [Span.total]
      omega

/-- A clock moves by all it is told, up to the longest offset, if the platform can show where that
leads. -/
theorem advances_eq (h : Shows limit clock) {spans : List Span}
    (hlimit : min (clock.offset + Span.total spans) longestOffset ≤ limit) :
    (clock.advances limit spans).offset = min (clock.offset + Span.total spans) longestOffset := by
  induction spans generalizing clock with
  | nil => exact (Nat.min_eq_left h.le_longest).symm
  | cons span spans ih =>
      rw [Span.total] at hlimit ⊢
      have hstep : (clock.advance limit span).offset
          = min (clock.offset + span.nanoseconds) longestOffset := h.advance_eq (by omega)
      have hrest : ((clock.advance limit span).advances limit spans).offset
          = min ((clock.advance limit span).offset + Span.total spans) longestOffset :=
        ih (h.advance span) (by rw [hstep]; omega)
      refine hrest.trans ?_
      rw [hstep]
      omega

end Shows

/-- What holds of a clock that was new before it was advanced by the spans given. -/
structure KeepsTime (limit : Nat) (clock : ManualClock) (spans : List Span) : Prop where
  le_limit : clock.offset ≤ limit
  now_eq : clock.now limit = Instant.origin.later clock.offset
  since_origin : (clock.now limit).since Instant.origin = clock.elapsed
  nanoseconds_elapsed : clock.elapsed.nanoseconds = clock.offset
  offset_le : clock.offset ≤ min (Span.total spans) longestOffset
  offset_eq : longestOffset ≤ limit → clock.offset = min (Span.total spans) longestOffset
  /-- The next advance, by whatever span, is a search that ends. -/
  settles : ∀ span : Span, ∃ rounds ≤ 64, Settles limit clock.offset rounds
    (min (clock.offset + span.nanoseconds) longestOffset) (clock.advance limit span).offset

theorem keepsTime (limit : Nat) (spans : List Span) :
    (new.advances limit spans).KeepsTime limit spans := by
  have hnew : new.offset + Span.total spans = Span.total spans := Nat.zero_add _
  have hshows : Shows limit (new.advances limit spans) := (shows_new limit).advances spans
  refine ⟨hshows.le_limit, ?_, hshows.since_origin, hshows.nanoseconds_elapsed, ?_, ?_, ?_⟩
  · rw [hshows.now_eq, Instant.later, Instant.origin, Nat.zero_add]
  · rw [← hnew]
    exact (shows_new limit).advances_le spans
  · intro hlimit
    rw [← hnew]
    exact (shows_new limit).advances_eq (Nat.le_trans (Nat.min_le_right _ _) hlimit)
  · intro span
    have hlongest := hshows.le_longest
    have hahead : max (new.advances limit spans).offset
        (min ((new.advances limit spans).offset + span.nanoseconds) longestOffset)
        = min ((new.advances limit spans).offset + span.nanoseconds) longestOffset := by omega
    rw [← hahead]
    exact exists_settles_advance limit (new.advances limit spans) span

end ManualClock

end Retry
