import Retry.Proofs.Clock.Advance

/-!
# Handles of manual clocks

A program makes clocks, clones their handles and advances them, each through any of its handles.
What a handle leads to is kept apart from the handle (`Handles`), so a move through one handle is
seen through all others of the same clock. The same commands that run on clocks run on records of
what each clock was told. The two runs go side by side (`clocks_eq`), so a clock is at all times
where the advances through all of its handles, in order, take a new one.
-/

namespace Retry

/-- Handles are known by the order in which they are made. -/
inductive ClockCommand where
  /-- A new clock with its first handle, on a platform with the limit given. -/
  | make (limit : Nat)
  | clone (handle : Nat)
  | advance (handle : Nat) (span : Span)

/-- Values, and for each handle the place of the value it leads to. -/
structure Handles (σ : Type) where
  values : List σ
  targets : List Nat

namespace Handles

variable {σ τ : Type}

def empty : Handles σ := ⟨[], []⟩

def value? (handles : Handles σ) (handle : Nat) : Option σ :=
  handles.targets[handle]?.bind fun target => handles.values[target]?

def map (f : σ → τ) (handles : Handles σ) : Handles τ :=
  { values := handles.values.map f, targets := handles.targets }

theorem value?_map (f : σ → τ) (handles : Handles σ) (handle : Nat) :
    (handles.map f).value? handle = (handles.value? handle).map f := by
  rw [value?, value?, map, Option.map_bind]
  simp only [List.getElem?_map]
  rfl

/-- One command, given what a new value is and how a value is moved. A command through a handle
that does not exist does nothing. -/
def step (make : Nat → σ) (move : σ → Span → σ) (handles : Handles σ) :
    ClockCommand → Handles σ
  | .make limit =>
    { values := handles.values ++ [make limit]
      targets := handles.targets ++ [handles.values.length] }
  | .clone handle =>
    { handles with targets := handles.targets ++ handles.targets[handle]?.toList }
  | .advance handle span =>
    { handles with
      values := handles.targets[handle]?.elim handles.values fun target =>
        handles.values.modify target (move · span) }

def run (make : Nat → σ) (move : σ → Span → σ) (handles : Handles σ)
    (commands : List ClockCommand) : Handles σ :=
  commands.foldl (step make move) handles

section Parallel

variable {make : Nat → σ} {move : σ → Span → σ} {make' : Nat → τ} {move' : τ → Span → τ}
  {f : σ → τ}

theorem map_modify {g : σ → σ} {g' : τ → τ} (h : ∀ value, f (g value) = g' (f value))
    (values : List σ) (target : Nat) :
    (values.modify target g).map f = (values.map f).modify target g' := by
  apply List.ext_getElem?
  intro place
  rw [List.getElem?_map, List.getElem?_modify, List.getElem?_modify, List.getElem?_map]
  cases values[place]? with
  | none => rfl
  | some value =>
      by_cases hplace : target = place
      · simp [hplace, h]
      · simp [hplace]

theorem step_map (hmake : ∀ limit, f (make limit) = make' limit)
    (hmove : ∀ value span, f (move value span) = move' (f value) span) (handles : Handles σ)
    (command : ClockCommand) :
    (handles.step make move command).map f = (handles.map f).step make' move' command := by
  cases command with
  | make limit => simp only [step, map, List.map_append, List.map_cons, List.map_nil, hmake,
      List.length_map]
  | clone handle => rfl
  | advance handle span =>
      cases htarget : handles.targets[handle]? with
      | none => simp only [step, map, htarget, Option.elim_none]
      | some target =>
          have hmodify : (handles.values.modify target (move · span)).map f
              = (handles.values.map f).modify target (move' · span) :=
            map_modify (fun value => hmove value span) handles.values target
          simp only [step, map, htarget, Option.elim_some, hmodify]

/-- **Two memories go side by side** if their new values match and their moves keep values
matching. -/
theorem run_map (hmake : ∀ limit, f (make limit) = make' limit)
    (hmove : ∀ value span, f (move value span) = move' (f value) span) (handles : Handles σ)
    (commands : List ClockCommand) :
    (handles.run make move commands).map f = (handles.map f).run make' move' commands := by
  induction commands generalizing handles with
  | nil => rfl
  | cons command commands ih =>
      rw [run, List.foldl_cons, ← run, ih, step_map hmake hmove]
      rfl

end Parallel

section Course

variable {make : Nat → σ} {move : σ → Span → σ} {handles : Handles σ}

/-- Every handle leads to a value. -/
def Valid (handles : Handles σ) : Prop :=
  ∀ target ∈ handles.targets, target < handles.values.length

theorem Valid.step (h : handles.Valid) (command : ClockCommand) :
    (handles.step make move command).Valid := by
  intro target hmem
  cases command with
  | make limit =>
      rw [Handles.step, List.mem_append, List.mem_singleton] at hmem
      rw [Handles.step, List.length_append, List.length_singleton]
      rcases hmem with hold | hnew
      · exact Nat.lt_succ_of_lt (h target hold)
      · omega
  | clone handle =>
      rw [Handles.step, List.mem_append, Option.mem_toList] at hmem
      rcases hmem with hold | hnew
      · exact h target hold
      · exact h target (List.mem_of_getElem? hnew)
  | advance handle span =>
      have hlength : (handles.step make move (.advance handle span)).values.length
          = handles.values.length := by
        rw [Handles.step]
        cases handles.targets[handle]? with
        | none => rfl
        | some place => exact List.length_modify _ _ _
      rw [hlength]
      exact h target hmem

theorem Valid.run (h : handles.Valid) (commands : List ClockCommand) :
    (handles.run make move commands).Valid := by
  induction commands generalizing handles with
  | nil => exact h
  | cons command commands ih => exact ih (h.step command)

theorem Valid.exists_value? (h : handles.Valid) {handle : Nat}
    (hhandle : handle < handles.targets.length) : ∃ value, handles.value? handle = some value := by
  have htarget := h _ (List.getElem_mem hhandle)
  refine ⟨handles.values[handles.targets[handle]], ?_⟩
  rw [value?, List.getElem?_eq_getElem hhandle, Option.bind_some, List.getElem?_eq_getElem htarget]

/-- Handles keep leading to the places they were made for. -/
theorem targets_prefix_run (handles : Handles σ) (commands : List ClockCommand) :
    handles.targets <+: (handles.run make move commands).targets := by
  induction commands generalizing handles with
  | nil => exact List.prefix_rfl
  | cons command commands ih =>
      refine List.IsPrefix.trans ?_ (ih (handles.step make move command))
      cases command with
      | make limit => exact List.prefix_append _ _
      | clone handle => exact List.prefix_append _ _
      | advance handle span => exact List.prefix_rfl

/-- A clone leads to what its original leads to, whatever is done afterwards. -/
theorem value?_clone {handle : Nat} (hhandle : handle < handles.targets.length)
    (commands : List ClockCommand) :
    (handles.run make move (.clone handle :: commands)).value? handles.targets.length
      = (handles.run make move (.clone handle :: commands)).value? handle := by
  have hstep : (handles.step make move (.clone handle)).targets
      = handles.targets ++ [handles.targets[handle]] := by
    rw [step, List.getElem?_eq_getElem hhandle, Option.toList_some]
  obtain ⟨rest, hrest⟩ : handles.targets ++ [handles.targets[handle]]
      <+: (handles.run make move (.clone handle :: commands)).targets := by
    rw [← hstep]
    exact targets_prefix_run _ commands
  have hclone : (handles.run make move (.clone handle :: commands)).targets[handles.targets.length]?
      = handles.targets[handle]? := by
    simp [← hrest, hhandle]
  have horiginal : (handles.run make move (.clone handle :: commands)).targets[handle]?
      = handles.targets[handle]? := by
    rw [← hrest, List.append_assoc, List.getElem?_append_left hhandle]
  rw [value?, value?, hclone, horiginal]

/-- What a handle leads to may be moved by a command, but is never replaced. -/
theorem value?_step {handle : Nat} {value : σ} (hvalue : handles.value? handle = some value)
    (command : ClockCommand) :
    (handles.step make move command).value? handle = some value
      ∨ ∃ span, (handles.step make move command).value? handle = some (move value span) := by
  obtain ⟨target, htarget, hat⟩ := Option.bind_eq_some_iff.mp hvalue
  have hhandle : handle < handles.targets.length := (List.getElem?_eq_some_iff.mp htarget).1
  have hplace : target < handles.values.length := (List.getElem?_eq_some_iff.mp hat).1
  cases command with
  | make limit =>
      refine Or.inl ?_
      rw [value?, step, List.getElem?_append_left hhandle, htarget, Option.bind_some,
        List.getElem?_append_left hplace, hat]
  | clone other =>
      refine Or.inl ?_
      rw [value?, step, List.getElem?_append_left hhandle, htarget, Option.bind_some, hat]
  | advance other span =>
      rw [value?, step, htarget, Option.bind_some]
      cases handles.targets[other]? with
      | none => exact Or.inl hat
      | some place =>
          rw [Option.elim_some, List.getElem?_modify, hat, Option.map_eq_map, Option.map_some]
          by_cases heq : place = target
          · exact Or.inr ⟨span, by rw [if_pos heq]⟩
          · exact Or.inl (by rw [if_neg heq])

theorem exists_value?_run {handle : Nat} {value : σ} (hvalue : handles.value? handle = some value)
    (commands : List ClockCommand) :
    ∃ spans : List Span,
      (handles.run make move commands).value? handle = some (spans.foldl move value) := by
  induction commands generalizing handles value with
  | nil => exact ⟨[], hvalue⟩
  | cons command commands ih =>
      rcases value?_step hvalue command with hkept | ⟨span, hmoved⟩
      · exact ih hkept
      · obtain ⟨spans, hspans⟩ := ih hmoved
        exact ⟨span :: spans, hspans⟩

end Course

end Handles

/-- A clock on a platform. -/
structure ClockCell where
  limit : Nat
  clock : ManualClock

/-- What a clock was told, through all of its handles. -/
structure ClockRecord where
  limit : Nat
  spans : List Span

namespace ClockCell

def new (limit : Nat) : ClockCell := ⟨limit, .new⟩

def move (cell : ClockCell) (span : Span) : ClockCell :=
  { cell with clock := cell.clock.advance cell.limit span }

theorem foldl_move (cell : ClockCell) (spans : List Span) :
    spans.foldl move cell = { cell with clock := cell.clock.advances cell.limit spans } := by
  induction spans generalizing cell with
  | nil => rfl
  | cons span spans ih => exact ih (cell.move span)

end ClockCell

namespace ClockRecord

def new (limit : Nat) : ClockRecord := ⟨limit, []⟩

def move (record : ClockRecord) (span : Span) : ClockRecord :=
  { record with spans := record.spans ++ [span] }

/-- The clock that was told all this from the start. -/
def cell (record : ClockRecord) : ClockCell :=
  ⟨record.limit, ManualClock.new.advances record.limit record.spans⟩

theorem cell_new (limit : Nat) : (new limit).cell = ClockCell.new limit := rfl

theorem cell_move (record : ClockRecord) (span : Span) :
    (record.move span).cell = record.cell.move span := by
  rw [cell, move, ManualClock.advances_append]
  rfl

end ClockRecord

namespace ClockCommand

/-- The clocks of a program and its handles to them, after some commands. -/
def clocks (commands : List ClockCommand) : Handles ClockCell :=
  Handles.empty.run ClockCell.new ClockCell.move commands

def records (commands : List ClockCommand) : Handles ClockRecord :=
  Handles.empty.run ClockRecord.new ClockRecord.move commands

theorem clocks_eq (commands : List ClockCommand) :
    clocks commands = (records commands).map ClockRecord.cell :=
  (Handles.run_map ClockRecord.cell_new ClockRecord.cell_move .empty commands).symm

theorem clocks_append (commands commands' : List ClockCommand) :
    clocks (commands ++ commands')
      = (clocks commands).run ClockCell.new ClockCell.move commands' :=
  List.foldl_append

/-- **Manual clocks keep time through all of their handles.** Every handle leads to a clock that
shows all it was told through any of them, as far as it and its platform can. The clock never goes
back, and clones of the handle lead to the same clock. -/
theorem clocks_keepTime (commands : List ClockCommand) {handle : Nat}
    (hhandle : handle < (clocks commands).targets.length) :
    ∃ limit clock spans, (clocks commands).value? handle = some ⟨limit, clock⟩
      ∧ (records commands).value? handle = some ⟨limit, spans⟩
      ∧ clock.KeepsTime limit spans
      ∧ (∀ more, ∃ later, (clocks (commands ++ more)).value? handle = some ⟨limit, later⟩
          ∧ clock.offset ≤ later.offset)
      ∧ ∀ more, (clocks (commands ++ .clone handle :: more)).value?
            (clocks commands).targets.length
          = (clocks (commands ++ .clone handle :: more)).value? handle := by
  have hvalid : (records commands).Valid :=
    Handles.Valid.run (fun _ hmem => absurd hmem List.not_mem_nil) commands
  have hrecords : handle < (records commands).targets.length := by
    rw [clocks_eq] at hhandle
    exact hhandle
  obtain ⟨⟨limit, spans⟩, hrecord⟩ := hvalid.exists_value? hrecords
  have hclock : (clocks commands).value? handle
      = some ⟨limit, ManualClock.new.advances limit spans⟩ := by
    rw [clocks_eq, Handles.value?_map, hrecord]
    rfl
  refine ⟨limit, _, spans, hclock, hrecord, ManualClock.keepsTime limit spans, ?_, ?_⟩
  · intro more
    rw [clocks_append]
    obtain ⟨further, hlater⟩ := Handles.exists_value?_run hclock more
    rw [hlater, ClockCell.foldl_move]
    exact ⟨_, rfl, ManualClock.offset_le_advances limit _ further⟩
  · intro more
    rw [clocks_append]
    exact Handles.value?_clone hhandle more

/-- A clock moved through a clone is seen to have moved through its first handle. -/
theorem clocks_keepTime_of_clone :
    let commands : List ClockCommand :=
      [.make ManualClock.longestOffset, .clone 0, .advance 1 (.ofSeconds 2)]
    0 < (clocks commands).targets.length
      ∧ ∃ clock, (clocks commands).value? 0 = some ⟨ManualClock.longestOffset, clock⟩
        ∧ clock.elapsed = .ofSeconds 2 := by
  intro commands
  have hhandle : 0 < (clocks commands).targets.length := by decide
  refine ⟨hhandle, ?_⟩
  obtain ⟨limit, clock, spans, hclock, hrecord, hkeeps, _⟩ := clocks_keepTime commands hhandle
  have htold : (records commands).value? 0
      = some ⟨ManualClock.longestOffset, [.ofSeconds 2]⟩ := rfl
  obtain ⟨rfl, rfl⟩ := ClockRecord.mk.inj (Option.some.inj (hrecord.symm.trans htold))
  have hmin : min (Span.total [.ofSeconds 2]) ManualClock.longestOffset
      = (Span.ofSeconds 2).nanoseconds := by decide
  refine ⟨clock, hclock, Span.ext ?_⟩
  rw [hkeeps.nanoseconds_elapsed, hkeeps.offset_eq (Nat.le_refl _), hmin]

end ClockCommand

end Retry
