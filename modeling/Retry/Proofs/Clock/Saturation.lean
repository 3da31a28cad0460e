import Retry.Proofs.Clock.Advance

/-!
# Where a manual clock stops

A clock that is told to go further than its platform can show halves the step until it fits.
Halving forgets the last binary digits of the step, so the clock comes to the last moment it can
show only if the digits of the room it has are the first digits of the step (`settle_eq_min_iff`).
Otherwise it stops earlier, and a later advance moves it again. But a halved step takes up at least
half of the room, so a clock that is told to go on and on arrives in the end
(`Shows.advances_longest_eq`).
-/

namespace Retry

open scoped NatPower

namespace ManualClock

variable {limit current step : Nat}

/-! ### One search -/

/-- The step is halved no more often than it has to be. -/
theorem exists_settle_eq (limit current step : Nat) :
    ∃ halvings : Nat, settle limit current step = current + step / 2 ^ halvings
      ∧ ∀ fewer < halvings, limit < current + step / 2 ^ fewer := by
  fun_induction settle limit current step with
  | case1 step hend =>
      exact ⟨0, by rw [Nat.pow_zero, Nat.div_one], fun fewer hfewer => by omega⟩
  | case2 step hend ih =>
      have hhalf (halvings : Nat) : step / 2 / 2 ^ halvings = step / 2 ^ (halvings + 1) := by
        rw [Nat.div_div_eq_div_mul, Nat.pow_succ, Nat.mul_comm]
      obtain ⟨halvings, hresult, hleast⟩ := ih
      refine ⟨halvings + 1, by rw [hresult, hhalf], fun fewer hfewer => ?_⟩
      cases fewer with
      | zero =>
          rw [Nat.pow_zero, Nat.div_one]
          exact Nat.lt_of_not_le fun hfits => hend (Or.inr hfits)
      | succ fewer =>
          rw [← hhalf]
          exact hleast fewer (Nat.lt_of_succ_lt_succ hfewer)

theorem settle_le_limit (h : current ≤ limit) (step : Nat) : settle limit current step ≤ limit := by
  obtain ⟨_, _, hsettles⟩ := exists_settles limit current (Nat.lt_two_pow_self (n := step))
  exact hsettles.le_limit h

theorem current_le_settle (limit current step : Nat) : current ≤ settle limit current step := by
  obtain ⟨_, hresult, _⟩ := exists_settle_eq limit current step
  exact hresult ▸ Nat.le_add_right _ _

/-- A clock beyond the limit stays where it is. -/
theorem settle_of_lt (h : limit < current) (step : Nat) : settle limit current step = current := by
  fun_induction settle limit current step with
  | case1 step hend => omega
  | case2 step _ ih => exact ih

/-- **The last moment is missed** unless the step fits, or the room is the step halved some number
of times. -/
theorem settle_eq_min_iff (limit current step : Nat) :
    settle limit current step = min (current + step) limit
      ↔ current + step ≤ limit
        ∨ current ≤ limit ∧ ∃ halvings : Nat, step / 2 ^ halvings = limit - current := by
  obtain ⟨halvings, hresult, hleast⟩ := exists_settle_eq limit current step
  constructor
  · intro harrived
    by_cases hfits : current + step ≤ limit
    · exact Or.inl hfits
    · have hcurrent := current_le_settle limit current step
      exact Or.inr ⟨by omega, halvings, by omega⟩
  · rintro (hfits | ⟨hcurrent, wanted, hwanted⟩)
    · rw [settle_of_le hfits, Nat.min_eq_left hfits]
    · have hlimit := settle_le_limit hcurrent step
      -- The room itself fits, so the halving stops there at the latest.
      have henough : halvings ≤ wanted := by
        refine Nat.le_of_not_lt fun hfewer => ?_
        have hbeyond := hleast wanted hfewer
        omega
      have hroom : step / 2 ^ wanted ≤ step / 2 ^ halvings :=
        Nat.div_le_div_left (Nat.pow_le_pow_right (by decide) henough) (Nat.two_pow_pos _)
      have hshort : step / 2 ^ halvings ≤ step := Nat.div_le_self _ _
      omega

/-- At least half of the way to the last moment is made. -/
theorem le_two_mul_settle (limit current step : Nat) :
    min (current + step) limit - current ≤ 2 * (settle limit current step - current) := by
  obtain ⟨halvings, hresult, hleast⟩ := exists_settle_eq limit current step
  cases halvings with
  | zero =>
      rw [Nat.pow_zero, Nat.div_one] at hresult
      omega
  | succ halvings =>
      have hbeyond := hleast halvings (Nat.lt_succ_self halvings)
      rw [Nat.pow_succ, ← Nat.div_div_eq_div_mul] at hresult
      omega

/-! ### Advances -/

theorem advance_of_limit_le {clock : ManualClock} (h : limit ≤ clock.offset) (span : Span) :
    (clock.advance limit span).offset = clock.offset := by
  rcases Nat.lt_or_eq_of_le h with hbeyond | rfl
  · exact settle_of_lt hbeyond _
  · exact Nat.le_antisymm (settle_le_limit (Nat.le_refl _) _) (current_le_settle _ _ _)

theorem advance_of_longest_le {clock : ManualClock} (h : longestOffset ≤ clock.offset)
    (span : Span) : (clock.advance limit span).offset = clock.offset := by
  refine Nat.le_antisymm ?_ (offset_le_advance limit clock span)
  have hadvance := advance_le limit clock span
  omega

/-- A clock can be moved as long as it is neither at the limit nor at the longest offset. -/
theorem advance_eq_self_iff (limit : Nat) (clock : ManualClock) :
    (∀ span, (clock.advance limit span).offset = clock.offset)
      ↔ limit ≤ clock.offset ∨ longestOffset ≤ clock.offset := by
  constructor
  · intro hstill
    refine Decidable.byContradiction fun hroom => ?_
    obtain ⟨tick, htick⟩ : ∃ tick : Span, tick.nanoseconds = 1 := ⟨⟨1, by decide⟩, rfl⟩
    have hclock : Shows limit clock := ⟨by omega, by omega⟩
    have hmoved : (clock.advance limit tick).offset
        = min (clock.offset + tick.nanoseconds) longestOffset := hclock.advance_eq (by omega)
    rw [hstill] at hmoved
    omega
  · rintro (hlimit | hlongest) span
    · exact advance_of_limit_le hlimit span
    · exact advance_of_longest_le hlongest span

namespace Shows

variable {clock : ManualClock}

/-- A clock that is sent as far as it can go makes at least half of the way. -/
theorem room_advance_longest_le (h : Shows limit clock) :
    2 * (min longestOffset limit - (clock.advance limit .longest).offset)
      ≤ min longestOffset limit - clock.offset := by
  have hlimit := h.le_limit
  have hlongest := h.le_longest
  have hspan : longestOffset ≤ Span.longest.nanoseconds := by decide
  have hstep : clock.offset + (min (clock.offset + min Span.longest.nanoseconds longestOffset)
      longestOffset - clock.offset) = longestOffset := by omega
  have hhalf := le_two_mul_settle limit clock.offset
    (min (clock.offset + min Span.longest.nanoseconds longestOffset) longestOffset - clock.offset)
  rw [hstep] at hhalf
  change _ ≤ 2 * ((clock.advance limit .longest).offset - clock.offset) at hhalf
  have hforward := offset_le_advance limit clock .longest
  omega

theorem room_advances_longest_le (h : Shows limit clock) (count : Nat) :
    2 ^ count * (min longestOffset limit
        - (clock.advances limit (List.replicate count .longest)).offset)
      ≤ min longestOffset limit - clock.offset := by
  induction count generalizing clock with
  | zero => rw [Nat.pow_zero, Nat.one_mul]; exact Nat.le_refl _
  | succ count ih =>
      have hrest := ih (h.advance .longest)
      have hstep := h.room_advance_longest_le
      have hfirst : clock.advances limit (List.replicate (count + 1) .longest)
          = (clock.advance limit .longest).advances limit (List.replicate count .longest) := rfl
      rw [hfirst, Nat.pow_succ, Nat.mul_comm (2 ^ count), Nat.mul_assoc]
      omega

/-- **A clock arrives in the end.** After 64 advances by the longest span it stands at the last
moment it can show. -/
theorem advances_longest_eq (h : Shows limit clock) {count : Nat} (hcount : 64 ≤ count) :
    (clock.advances limit (List.replicate count .longest)).offset = min longestOffset limit := by
  have hshows := h.advances (List.replicate count .longest)
  have hlimit := hshows.le_limit
  have hlongest := hshows.le_longest
  have hroom := h.room_advances_longest_le count
  have hsize : longestOffset < 2 ^ count :=
    Nat.lt_of_lt_of_le (by decide) (Nat.pow_le_pow_right (by decide) hcount)
  generalize (clock.advances limit (List.replicate count .longest)).offset = reached at *
  refine Nat.le_antisymm (Nat.le_min.mpr ⟨hlongest, hlimit⟩) (Nat.le_of_sub_eq_zero ?_)
  refine Nat.eq_zero_of_not_pos fun hpos => ?_
  have hle : 2 ^ count * 1 ≤ 2 ^ count * (min longestOffset limit - reached) :=
    Nat.mul_le_mul_left _ hpos
  omega

end Shows

section Step

variable (limit) {clock : ManualClock}

/-- The step an advance takes is the one to the moment asked for, or to the longest offset. -/
theorem advance_eq_settle (h : clock.offset ≤ longestOffset) {span : Span} {target : Nat}
    (htarget : min (clock.offset + span.nanoseconds) longestOffset = target) :
    clock.offset + (target - clock.offset) = target
      ∧ (clock.advance limit span).offset = settle limit clock.offset (target - clock.offset) := by
  have hstep : min (clock.offset + min span.nanoseconds longestOffset) longestOffset = target := by
    omega
  refine ⟨by omega, ?_⟩
  rw [advance, hstep]

theorem advance_eq_iff (h : clock.offset ≤ longestOffset) {span : Span} {target : Nat}
    (htarget : min (clock.offset + span.nanoseconds) longestOffset = target) :
    (clock.advance limit span).offset = min target limit
      ↔ target ≤ limit ∨ clock.offset ≤ limit
        ∧ ∃ halvings : Nat, (target - clock.offset) / 2 ^ halvings = limit - clock.offset := by
  obtain ⟨hahead, hreached⟩ := advance_eq_settle limit h htarget
  have harrives := settle_eq_min_iff limit clock.offset (target - clock.offset)
  rwa [hahead, ← hreached] at harrives

/-- An advance by the longest span is the last one that moves the clock only if it is not in need of
halving, or is halved to the room exactly. -/
theorem advance_longest_still_iff (h : clock.offset ≤ longestOffset) :
    let stopped := clock.advance limit .longest
    (∀ later, (stopped.advance limit later).offset = stopped.offset)
      ↔ longestOffset ≤ limit ∨ limit < clock.offset
        ∨ ∃ halvings : Nat,
          (longestOffset - clock.offset) / 2 ^ halvings = limit - clock.offset := by
  intro stopped
  rw [advance_eq_self_iff]
  rcases Nat.lt_or_ge limit clock.offset with hbeyond | hcurrent
  · have hstill : stopped.offset = clock.offset :=
      advance_of_limit_le (Nat.le_of_lt hbeyond) .longest
    exact iff_of_true (Or.inl (by omega)) (Or.inr (Or.inl hbeyond))
  · have hlongest : min (clock.offset + Span.longest.nanoseconds) longestOffset = longestOffset :=
      Nat.min_eq_right (Nat.le_trans (by decide) (Nat.le_add_left _ _))
    have harrives := advance_eq_iff limit h hlongest
    have hshows : Shows limit stopped := (Shows.mk hcurrent h).advance .longest
    have hlimit := hshows.le_limit
    have hfits := hshows.le_longest
    have hlast : limit ≤ stopped.offset ∨ longestOffset ≤ stopped.offset
        ↔ stopped.offset = min longestOffset limit := by omega
    rw [hlast, harrives]
    simp only [hcurrent, true_and, Nat.not_lt.mpr hcurrent, false_or]

end Step

/-- **Where an advance ends.** It ends at the moment asked for, the longest offset or the limit,
whichever comes first, exactly if the limit is not passed on the way or the room up to the limit is
the step halved some number of times. In any case at least half of the way is made. So an advance by
the longest span need not be the last one that moves the clock; but no clock is moved after 64. -/
theorem advance_eq_min_iff (limit : Nat) (clock : ManualClock) (h : clock.offset ≤ longestOffset)
    (span : Span) :
    let target := min (clock.offset + span.nanoseconds) longestOffset
    let reached := (clock.advance limit span).offset
    let stopped := clock.advance limit .longest
    (reached = min target limit
        ↔ target ≤ limit ∨ clock.offset ≤ limit
          ∧ ∃ halvings : Nat, (target - clock.offset) / 2 ^ halvings = limit - clock.offset)
      ∧ (clock.offset ≤ limit → reached ≤ min target limit)
      ∧ min target limit - clock.offset ≤ 2 * (reached - clock.offset)
      ∧ ((∀ later, (stopped.advance limit later).offset = stopped.offset)
        ↔ longestOffset ≤ limit ∨ limit < clock.offset
          ∨ ∃ halvings : Nat, (longestOffset - clock.offset) / 2 ^ halvings = limit - clock.offset)
      ∧ (clock.offset ≤ limit → ∀ count ≥ 64,
        (clock.advances limit (List.replicate count .longest)).offset
          = min longestOffset limit) := by
  intro target reached stopped
  refine ⟨advance_eq_iff limit h rfl, fun hcurrent => ?_, ?_, advance_longest_still_iff limit h,
    fun hcurrent count hcount => (Shows.mk hcurrent h).advances_longest_eq hcount⟩
  · have hadvance := advance_le limit clock span
    have hshows := (Shows.mk hcurrent h).advance span
    exact Nat.le_min.mpr ⟨by omega, hshows.le_limit⟩
  · have htarget : min (clock.offset + span.nanoseconds) longestOffset = target := rfl
    obtain ⟨hahead, hreached⟩ := advance_eq_settle limit h htarget
    have hhalf := le_two_mul_settle limit clock.offset (target - clock.offset)
    rwa [hahead, ← hreached] at hhalf

/-- Half of the longest offset is what is left of the first step when it is halved once. -/
theorem advance_eq_min_of_halved :
    let limit := longestOffset / 2
    new.offset ≤ longestOffset ∧ (new.advance limit .longest).offset = limit := by
  intro limit
  have hnew : new.offset ≤ longestOffset := Nat.zero_le _
  have harrives := (advance_eq_min_iff limit new hnew .longest).1.mpr
    (Or.inr ⟨Nat.zero_le _, 1, by decide⟩)
  exact ⟨hnew, harrives.trans (by decide)⟩

/-- If the limit is an hour before the longest offset, the clock stops in the middle, and a second
is added to that. -/
theorem exists_advance_short_of_limit :
    let limit := longestOffset - (Span.ofSeconds 3600).nanoseconds
    let stopped := new.advance limit .longest
    stopped.offset
        ≠ min (min (new.offset + Span.longest.nanoseconds) longestOffset) limit
      ∧ (stopped.advance limit (.ofSeconds 1)).offset ≠ stopped.offset := by
  intro limit stopped
  have hstopped : stopped.offset = longestOffset / 2 := by
    have hnew : new.offset ≤ longestOffset := Nat.zero_le _
    have htarget : min (new.offset + Span.longest.nanoseconds) longestOffset = longestOffset := by
      decide
    obtain ⟨_, hsettle⟩ := advance_eq_settle limit hnew htarget
    rw [hsettle, settle, if_neg (by decide), settle, if_pos (by decide)]
    decide
  have hshows : Shows limit stopped := (shows_new limit).advance .longest
  have hmoved : (stopped.advance limit (.ofSeconds 1)).offset
      = min (stopped.offset + (Span.ofSeconds 1).nanoseconds) longestOffset :=
    hshows.advance_eq (by rw [hstopped]; decide)
  rw [hmoved, hstopped]
  decide

end ManualClock

end Retry
