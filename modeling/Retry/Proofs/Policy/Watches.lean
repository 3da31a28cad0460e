import Retry.Policy.Basic

/-!
# Bounds that are replaced

The bound of a time limit is replaced, limits are copied and started, their stopwatches are copied
and asked, in any order and in any number, while the clock is moved. A limit has the last bound
above zero that was offered to it, and a stopwatch keeps for ever the moment of its start and the
bound that was in force then (`WatchSession.run_keeps_bounds`).

The proof is a simulation. A chronicle notes what was offered to each limit and when each stopwatch
was started, and each command takes the session of a chronicle to the session of the next one.
-/

namespace Retry

/-! ### Sessions -/

/-- What a stopwatch can be asked. -/
inductive Question where
  | elapsed
  | expired
  | consult
deriving DecidableEq

/-- What can be done with time limits and stopwatches. Both are known by their numbers. -/
inductive WatchCommand where
  | setBound (limit : Nat) (bound : Span)
  /-- Makes one more limit with the bound of another one. -/
  | copyLimit (limit : Nat)
  | start (limit : Nat)
  /-- Makes one more stopwatch in the state of another one. -/
  | copyWatch (watch : Nat)
  /-- Moves the clock, forwards or backwards. -/
  | setClock (moment : Instant)
  | ask (watch : Nat) (question : Question)
deriving DecidableEq

inductive WatchReply where
  | replaced (result : Except SettingsError Unit)
  | started (lines : List Entry)
  | elapsed (span : Span)
  | expired (answer : Bool)
  | consulted (answer : Bool) (lines : List Entry)

/-- Time limits and stopwatches, in the order in which they were made, and their clock. -/
structure WatchSession where
  now : Instant
  limits : List TimeLimit
  watches : List Stopwatch

/-- What a stopwatch replies, and the stopwatch afterwards. -/
def Stopwatch.answer (watch : Stopwatch) (now : Instant) : Question → Stopwatch × WatchReply
  | .elapsed => (watch, .elapsed (watch.elapsed now))
  | .expired => (watch, .expired (watch.isExpired now))
  | .consult =>
    let consultation := watch.consult now
    (consultation.next, .consulted consultation.retry consultation.log)

namespace WatchSession

/-- Obeys a command. Nothing is replied about limits and stopwatches that do not exist. -/
def step (session : WatchSession) : WatchCommand → WatchSession × Option WatchReply
  | .setBound index bound =>
    match session.limits[index]? with
    | none => (session, none)
    | some limit =>
      match limit.setBound? bound with
      | .error error => (session, some (.replaced (.error error)))
      | .ok replaced =>
        ({ session with limits := session.limits.set index replaced }, some (.replaced (.ok ())))
  | .copyLimit index =>
    ({ session with limits := session.limits ++ session.limits[index]?.toList }, none)
  | .start index =>
    match session.limits[index]? with
    | none => (session, none)
    | some limit =>
      let started := limit.start session.now
      ({ session with watches := session.watches ++ [started.1] }, some (.started started.2))
  | .copyWatch index =>
    ({ session with watches := session.watches ++ session.watches[index]?.toList }, none)
  | .setClock moment => ({ session with now := moment }, none)
  | .ask index question =>
    match session.watches[index]? with
    | none => (session, none)
    | some watch =>
      let answer := watch.answer session.now question
      ({ session with watches := session.watches.set index answer.1 }, some answer.2)

def run : WatchSession → List WatchCommand → WatchSession × List (Option WatchReply)
  | session, [] => (session, [])
  | session, command :: rest =>
    let (next, reply) := session.step command
    let (last, replies) := run next rest
    (last, reply :: replies)

end WatchSession

/-! ### Chronicles -/

/-- The last of the bounds above zero that were offered to a limit. -/
def Span.lastAccepted (offers : List Span) : Span :=
  ((offers.filter (· ≠ zero)).getLast?).getD zero

/-- The start of a stopwatch: its moment, and what had been offered to the limit by then. -/
structure Launch where
  moment : Instant
  offers : List Span

namespace Launch

/-- The time since the start, no time if the clock was set back behind it. There is a longest
time. -/
def passed (launch : Launch) (now : Instant) : Span :=
  ⟨min (now.nanoseconds - launch.moment.nanoseconds) Span.longest.nanoseconds,
    Nat.lt_of_le_of_lt (Nat.min_le_right _ _) Span.longest.lt_overflow⟩

def within (launch : Launch) (now : Instant) : Bool :=
  launch.passed now ≤ Span.lastAccepted launch.offers

def reply (launch : Launch) (now : Instant) : Question → WatchReply
  | .elapsed => .elapsed (launch.passed now)
  | .expired => .expired (!launch.within now)
  | .consult =>
    .consulted (launch.within now)
      [.measured (launch.passed now) (Span.lastAccepted launch.offers) (launch.within now)]

def watch (source : TimeSource) (launch : Launch) : Stopwatch :=
  ⟨launch.moment, Span.lastAccepted launch.offers, source⟩

end Launch

/-- What was offered to each limit, how each stopwatch was started, and the clock. -/
structure WatchChronicle where
  now : Instant
  limits : List (List Span)
  watches : List Launch

namespace WatchChronicle

/-- What a command adds. An offer of zero is refused, and a question leaves no trace. -/
def step (chronicle : WatchChronicle) : WatchCommand → WatchChronicle × Option WatchReply
  | .setBound index bound =>
    match chronicle.limits[index]? with
    | none => (chronicle, none)
    | some offers =>
      ({ chronicle with limits := chronicle.limits.set index (offers ++ [bound]) },
        some (.replaced (if bound = Span.zero then .error .zeroDuration else .ok ())))
  | .copyLimit index =>
    ({ chronicle with limits := chronicle.limits ++ chronicle.limits[index]?.toList }, none)
  | .start index =>
    match chronicle.limits[index]? with
    | none => (chronicle, none)
    | some offers =>
      ({ chronicle with watches := chronicle.watches ++ [⟨chronicle.now, offers⟩] },
        some (.started [.started (Span.lastAccepted offers)]))
  | .copyWatch index =>
    ({ chronicle with watches := chronicle.watches ++ chronicle.watches[index]?.toList }, none)
  | .setClock moment => ({ chronicle with now := moment }, none)
  | .ask index question =>
    (chronicle, chronicle.watches[index]?.map fun launch => launch.reply chronicle.now question)

def run : WatchChronicle → List WatchCommand → WatchChronicle × List (Option WatchReply)
  | chronicle, [] => (chronicle, [])
  | chronicle, command :: rest =>
    let (next, reply) := chronicle.step command
    let (last, replies) := run next rest
    (last, reply :: replies)

/-- The session that a chronicle tells of. -/
def session (source : TimeSource) (chronicle : WatchChronicle) : WatchSession where
  now := chronicle.now
  limits := chronicle.limits.map fun offers => ⟨Span.lastAccepted offers, source⟩
  watches := chronicle.watches.map (Launch.watch source)

end WatchChronicle

theorem set_eq_self {β : Type} {list : List β} {index : Nat} {entry : β}
    (h : list[index]? = some entry) : list.set index entry = list := by
  obtain ⟨hindex, rfl⟩ := List.getElem?_eq_some_iff.mp h
  exact List.set_getElem_self hindex

/-! ### The bound in force -/

namespace Span

theorem lastAccepted_singleton {bound : Span} (h : bound ≠ zero) :
    lastAccepted [bound] = bound := by
  rw [lastAccepted, List.filter_cons_of_pos (by simpa using h)]
  rfl

theorem lastAccepted_append (offers : List Span) (bound : Span) :
    lastAccepted (offers ++ [bound]) = if bound = zero then lastAccepted offers else bound := by
  rw [lastAccepted, List.filter_append]
  split
  · rename_i hzero
    rw [List.filter_cons_of_neg (by simpa using hzero), List.filter_nil, List.append_nil,
      lastAccepted]
  · rename_i hpositive
    rw [List.filter_cons_of_pos (by simpa using hpositive), List.filter_nil,
      List.getLast?_concat]
    rfl

end Span

theorem Stopwatch.isExpired_eq (watch : Stopwatch) (now : Instant) :
    watch.isExpired now = !(watch.consult now).retry := by
  rw [isExpired, consult, ← decide_not]
  simp only [Span.lt_iff, Span.le_iff, Nat.not_le]

theorem Launch.watch_elapsed (source : TimeSource) (launch : Launch) (now : Instant) :
    (launch.watch source).elapsed now = launch.passed now :=
  Span.ext (Instant.nanoseconds_since now launch.moment)

/-- A question is answered by the launch, and the stopwatch stays as it is. -/
theorem Launch.watch_answer (source : TimeSource) (launch : Launch) (now : Instant)
    (question : Question) :
    (launch.watch source).answer now question
      = (launch.watch source, launch.reply now question) := by
  cases question with
  | elapsed =>
      rw [Stopwatch.answer, launch.watch_elapsed]
      rfl
  | expired =>
      rw [Stopwatch.answer, Stopwatch.isExpired_eq, Stopwatch.consult, launch.watch_elapsed]
      rfl
  | consult =>
      rw [Stopwatch.answer, Stopwatch.consult, launch.watch_elapsed]
      rfl

/-- **One command.** The session that a chronicle tells of stays one. -/
theorem WatchChronicle.step_session (source : TimeSource) (chronicle : WatchChronicle)
    (command : WatchCommand) :
    (chronicle.session source).step command
      = ((chronicle.step command).1.session source, (chronicle.step command).2) := by
  cases command with
  | setBound index bound =>
      simp only [WatchSession.step, step, session, List.getElem?_map]
      cases hoffers : chronicle.limits[index]? with
      | none => rfl
      | some offers =>
          simp only [Option.map_some, TimeLimit.setBound?, List.map_set, Span.lastAccepted_append]
          have hlimit : (chronicle.limits.map fun offers : List Span =>
              (⟨Span.lastAccepted offers, source⟩ : TimeLimit))[index]?
                = some ⟨Span.lastAccepted offers, source⟩ := by
            rw [List.getElem?_map, hoffers, Option.map_some]
          by_cases hzero : bound = Span.zero
          · simp only [hzero, if_true, set_eq_self hlimit]
          · simp only [hzero, if_false]
  | copyLimit index =>
      simp only [WatchSession.step, step, session, List.getElem?_map, List.map_append]
      cases chronicle.limits[index]? <;> rfl
  | start index =>
      simp only [WatchSession.step, step, session, List.getElem?_map]
      cases chronicle.limits[index]? with
      | none => rfl
      | some offers => simp [TimeLimit.start, Launch.watch]
  | copyWatch index =>
      simp only [WatchSession.step, step, session, List.getElem?_map, List.map_append]
      cases chronicle.watches[index]? <;> rfl
  | setClock moment => rfl
  | ask index question =>
      simp only [WatchSession.step, step, session, List.getElem?_map]
      cases hlaunch : chronicle.watches[index]? with
      | none => rfl
      | some launch =>
          have hwatch : (chronicle.watches.map (Launch.watch source))[index]?
              = some (launch.watch source) := by
            rw [List.getElem?_map, hlaunch, Option.map_some]
          simp only [Option.map_some, launch.watch_answer, set_eq_self hwatch]

theorem WatchChronicle.run_session (source : TimeSource) (chronicle : WatchChronicle)
    (commands : List WatchCommand) :
    (chronicle.session source).run commands
      = ((chronicle.run commands).1.session source, (chronicle.run commands).2) := by
  induction commands generalizing chronicle with
  | nil => rfl
  | cons command rest ih =>
      simp only [WatchSession.run, run, chronicle.step_session source, ih]

/-! ### What a session keeps -/

theorem Span.zero_lt {span : Span} (h : span ≠ zero) : zero < span :=
  Nat.pos_of_ne_zero fun heq => h (Span.ext heq)

theorem TimeLimit.new?_eq_ok {bound : Span} {source : TimeSource} {limit : TimeLimit}
    (h : new? bound source = .ok limit) : bound ≠ Span.zero ∧ limit = ⟨bound, source⟩ := by
  rw [new?] at h
  split at h
  · cases h
  · rename_i hpositive
    exact ⟨hpositive, (Except.ok.inj h).symm⟩

/-- A bound is replaced under the condition under which a limit is made. -/
theorem TimeLimit.setBound?_eq (limit : TimeLimit) (bound : Span) :
    limit.setBound? bound = new? bound limit.source := rfl

def WatchCommand.isQuestion : WatchCommand → Bool
  | .ask .. => true
  | _ => false

theorem Stopwatch.answer_fst (watch : Stopwatch) (now : Instant) (question : Question) :
    (watch.answer now question).1 = watch := by
  cases question <;> rfl

namespace WatchSession

theorem step_question (session : WatchSession) {command : WatchCommand}
    (h : command.isQuestion = true) : (session.step command).1 = session := by
  cases command with
  | ask index question =>
      rw [step]
      cases hwatch : session.watches[index]? with
      | none => rfl
      | some watch => simp only [watch.answer_fst, set_eq_self hwatch]
  | _ => cases h

/-- No command changes a stopwatch that exists. -/
theorem watches_prefix_step (session : WatchSession) (command : WatchCommand) :
    session.watches <+: (session.step command).1.watches := by
  cases command with
  | setBound index bound =>
      rw [step]
      split
      · exact List.prefix_rfl
      · split <;> exact List.prefix_rfl
  | start index =>
      rw [step]
      split
      · exact List.prefix_rfl
      · exact List.prefix_append _ _
  | copyWatch index => exact List.prefix_append _ _
  | ask index question =>
      have hsame : (session.step (.ask index question)).1 = session := session.step_question rfl
      exact ⟨[], (List.append_nil _).trans (congrArg WatchSession.watches hsame.symm)⟩
  | _ => exact List.prefix_rfl

/-- Every bound is above zero. -/
structure Positive (session : WatchSession) : Prop where
  limits : ∀ limit ∈ session.limits, Span.zero < limit.bound
  watches : ∀ watch ∈ session.watches, Span.zero < watch.bound

theorem Positive.step {session : WatchSession} (h : session.Positive) (command : WatchCommand) :
    (session.step command).1.Positive := by
  cases command with
  | setBound index bound =>
      rw [WatchSession.step]
      split
      · exact h
      · rename_i limit _
        cases hreplaced : limit.setBound? bound with
        | error error => exact h
        | ok replaced =>
            refine ⟨fun other hmem => ?_, h.watches⟩
            rcases List.mem_or_eq_of_mem_set hmem with hmem | rfl
            · exact h.limits other hmem
            · rw [limit.setBound?_eq] at hreplaced
              obtain ⟨hpositive, rfl⟩ := TimeLimit.new?_eq_ok hreplaced
              exact Span.zero_lt hpositive
  | copyLimit index =>
      refine ⟨fun limit hmem => ?_, h.watches⟩
      rcases List.mem_append.mp hmem with hmem | hmem
      · exact h.limits limit hmem
      · exact h.limits limit (List.mem_of_getElem? (Option.mem_toList.mp hmem))
  | start index =>
      rw [WatchSession.step]
      split
      · exact h
      · rename_i limit hlimit
        refine ⟨h.limits, List.forall_mem_append.mpr ⟨h.watches, ?_⟩⟩
        rw [List.forall_mem_singleton]
        exact h.limits limit (List.mem_of_getElem? hlimit)
  | copyWatch index =>
      refine ⟨h.limits, fun watch hmem => ?_⟩
      rcases List.mem_append.mp hmem with hmem | hmem
      · exact h.watches watch hmem
      · exact h.watches watch (List.mem_of_getElem? (Option.mem_toList.mp hmem))
  | setClock moment => exact ⟨h.limits, h.watches⟩
  | ask index question =>
      rw [session.step_question rfl]
      exact h

theorem Positive.run {session : WatchSession} (h : session.Positive)
    (commands : List WatchCommand) : (session.run commands).1.Positive := by
  induction commands generalizing session with
  | nil => exact h
  | cons command rest ih => exact ih (h.step command)

theorem run_append (session : WatchSession) (commands more : List WatchCommand) :
    (session.run (commands ++ more)).1 = ((session.run commands).1.run more).1 := by
  induction commands generalizing session with
  | nil => rfl
  | cons command rest ih => exact ih (session.step command).1

theorem watches_prefix_run (session : WatchSession) (commands : List WatchCommand) :
    session.watches <+: (session.run commands).1.watches := by
  induction commands generalizing session with
  | nil => exact List.prefix_rfl
  | cons command rest ih =>
      exact (session.watches_prefix_step command).trans (ih (session.step command).1)

theorem run_filter (session : WatchSession) (commands : List WatchCommand) :
    (session.run (commands.filter fun command => !command.isQuestion)).1
      = (session.run commands).1 := by
  induction commands generalizing session with
  | nil => rfl
  | cons command rest ih =>
      cases hquestion : command.isQuestion with
      | true =>
          rw [List.filter_cons_of_neg (by rw [hquestion]; decide), ih]
          exact congrArg (fun next : WatchSession => (next.run rest).1)
            (session.step_question hquestion).symm
      | false =>
          rw [List.filter_cons_of_pos (by rw [hquestion]; rfl)]
          exact ih (session.step command).1

/-- **Whole sessions.** Under every sequence of commands, a limit has the last bound above zero that
was offered to it, and an offer of zero is refused. A stopwatch has the moment and the bound of its
start and keeps them whatever follows. It replies by them and by the clock alone: the time since its
start, no time if the clock was set back behind it; whether this is within the bound, for every
failure; and the contrary of that. Questions change nothing. (A time that is longer than the longest
span would be cut to it. Two moments of one clock are never that far apart.) -/
theorem run_keeps_bounds (first : Span) (source : TimeSource) (limit : TimeLimit) (now : Instant)
    (commands : List WatchCommand) (hmade : TimeLimit.new? first source = .ok limit) :
    let start : WatchSession := ⟨now, [limit], []⟩
    let session := (start.run commands).1
    let chronicle := WatchChronicle.run ⟨now, [[first]], []⟩ commands
    start.run commands = (chronicle.1.session source, chronicle.2)
      ∧ session.Positive
      ∧ (∀ more, session.watches <+: (start.run (commands ++ more)).1.watches)
      ∧ (start.run (commands.filter fun command => !command.isQuestion)).1 = session
      ∧ ∀ watch ∈ session.watches, ∀ moment failure,
        let consultation := (Execution.duration watch).consult failure moment
        ((watch.elapsed moment).nanoseconds : Int)
            = min (max 0 ((moment.nanoseconds : Int) - watch.start.nanoseconds))
              Span.longest.nanoseconds
          ∧ consultation.retry = decide (watch.elapsed moment ≤ watch.bound)
          ∧ watch.isExpired moment = !consultation.retry
          ∧ consultation.next = .duration watch := by
  intro start session chronicle
  obtain ⟨hpositive, rfl⟩ := TimeLimit.new?_eq_ok hmade
  have hstart : start = WatchChronicle.session source ⟨now, [[first]], []⟩ := by
    simp only [WatchChronicle.session, List.map_cons, List.map_nil,
      Span.lastAccepted_singleton hpositive, start]
  have hpositives : start.Positive :=
    ⟨List.forall_mem_singleton.mpr (Span.zero_lt hpositive), List.forall_mem_nil _⟩
  refine ⟨?_, hpositives.run commands, fun more => ?_, start.run_filter commands,
    fun watch _ moment failure => ⟨?_, rfl, watch.isExpired_eq moment, rfl⟩⟩
  · rw [hstart]
    exact WatchChronicle.run_session source _ commands
  · rw [start.run_append]
    exact (start.run commands).1.watches_prefix_run more
  · have helapsed := Instant.nanoseconds_since moment watch.start
    rw [Stopwatch.elapsed, helapsed]
    omega

/-- A stopwatch keeps its bound of five seconds when the limit gets one second, and a refused offer
of zero leaves that. The clock is set back behind the start, and on beyond the bound. -/
theorem run_keeps_bounds_of_two :
    let limit : TimeLimit := ⟨.ofSeconds 5, .manual⟩
    let start : WatchSession := ⟨⟨10⟩, [limit], []⟩
    let commands : List WatchCommand :=
      [.start 0, .setBound 0 (.ofSeconds 1), .setBound 0 .zero, .start 0, .copyWatch 0,
        .setClock ⟨3⟩, .ask 0 .elapsed, .setClock ⟨2_000_000_010⟩, .ask 1 .consult,
        .ask 2 .consult]
    let session := (start.run commands).1
    TimeLimit.new? (.ofSeconds 5) .manual = .ok limit
      ∧ session.limits.map TimeLimit.bound = [.ofSeconds 1]
      ∧ session.watches.map Stopwatch.bound = [.ofSeconds 5, .ofSeconds 1, .ofSeconds 5]
      ∧ session.Positive
      ∧ (start.run (commands.filter fun command => !command.isQuestion)).1 = session
      ∧ start.run commands
        = ((WatchChronicle.run ⟨⟨10⟩, [[.ofSeconds 5]], []⟩ commands).1.session .manual,
          (WatchChronicle.run ⟨⟨10⟩, [[.ofSeconds 5]], []⟩ commands).2) := by
  intro limit start commands session
  have hmade : TimeLimit.new? (.ofSeconds 5) .manual = .ok limit := by
    rw [TimeLimit.new?, if_neg (by decide)]
  have hlimits : session.limits.map TimeLimit.bound = [.ofSeconds 1] := by
    unfold session commands start limit
    decide
  have hwatches : session.watches.map Stopwatch.bound
      = [.ofSeconds 5, .ofSeconds 1, .ofSeconds 5] := by
    unfold session commands start limit
    decide
  obtain ⟨hchronicle, hpositive, _, hquestions, _⟩ :=
    run_keeps_bounds (.ofSeconds 5) .manual limit ⟨10⟩ commands hmade
  exact ⟨hmade, hlimits, hwatches, hpositive, hquestions, hchronicle⟩

end WatchSession

end Retry
