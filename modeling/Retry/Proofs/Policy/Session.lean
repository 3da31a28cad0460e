import Mathlib.Data.List.Induction
import Retry.Proofs.Policy.Meaning

/-!
# Executions side by side

Any number of executions of one policy are started, cloned and consulted in any order while their
clock moves. Each of them answers by its own history alone (`Session.run_eq_chronicle`): what
happens to the others never shows, also after a refusal.

The proof is a simulation. A chronicle keeps histories where a session keeps executions, and each
command takes the session of a chronicle to the session of the next chronicle.
-/

namespace Retry

/-- What can be done with executions, which are known by their numbers. -/
inductive Command where
  | start
  /-- Makes one more execution in the state of another one. -/
  | clone (index : Nat)
  /-- Moves the clock, forwards or backwards. -/
  | setClock (moment : Instant)
  | consult (index : Nat) (failure : Failure)

/-- What an execution is asked for: its answer and the lines it writes. -/
abbrev Reply := Bool × List Entry

/-- The executions of a policy, in the order in which they were made, and their clock. -/
structure Session where
  now : Instant
  executions : List Execution

namespace Session

/-- Obeys a command. Only a consultation of an execution that exists is answered. -/
def step (policy : Policy) (session : Session) : Command → Session × Option Reply
  | .start =>
    ({ session with executions := session.executions ++ [(policy.start session.now).1] }, none)
  | .clone index =>
    ({ session with executions := session.executions ++ session.executions[index]?.toList }, none)
  | .setClock moment => ({ session with now := moment }, none)
  | .consult index failure =>
    match session.executions[index]? with
    | none => (session, none)
    | some execution =>
      let consultation := execution.consult failure session.now
      ({ session with executions := session.executions.set index consultation.next },
        some (consultation.retry, consultation.log))

def run (policy : Policy) : Session → List Command → Session × List (Option Reply)
  | session, [] => (session, [])
  | session, command :: rest =>
    let (next, reply) := session.step policy command
    let (last, replies) := run policy next rest
    (last, reply :: replies)

end Session

/-- The life of an execution. A clone has the life of its original up to the cloning. -/
structure History where
  start : Instant
  past : List Report

namespace History

/-- What an execution of this history replies about a report. -/
def reply (policy : Policy) (history : History) (report : Report) : Reply :=
  (policy.allows history.start history.past report, policy.lines history.start report)

/-- An execution that lives this history alone. -/
def relive (policy : Policy) (history : History) : Execution :=
  history.past.foldl (fun execution report =>
    (execution.consult report.failure report.moment).next) (policy.start history.start).1

end History

/-- The histories of executions, in the order in which these were made, and their clock. -/
structure Chronicle where
  now : Instant
  histories : List History

namespace Chronicle

/-- What a command adds to the histories. A consultation is answered by the history of the one
execution that is consulted. -/
def step (policy : Policy) (chronicle : Chronicle) : Command → Chronicle × Option Reply
  | .start => ({ chronicle with histories := chronicle.histories ++ [⟨chronicle.now, []⟩] }, none)
  | .clone index =>
    ({ chronicle with histories := chronicle.histories ++ chronicle.histories[index]?.toList },
      none)
  | .setClock moment => ({ chronicle with now := moment }, none)
  | .consult index failure =>
    match chronicle.histories[index]? with
    | none => (chronicle, none)
    | some history =>
      let report := ⟨failure, chronicle.now⟩
      ({ chronicle with
          histories := chronicle.histories.set index
            { history with past := history.past ++ [report] } },
        some (history.reply policy report))

def run (policy : Policy) : Chronicle → List Command → Chronicle × List (Option Reply)
  | chronicle, [] => (chronicle, [])
  | chronicle, command :: rest =>
    let (next, reply) := chronicle.step policy command
    let (last, replies) := run policy next rest
    (last, reply :: replies)

/-- The session in which every execution has lived its own history alone. -/
def session (policy : Policy) (chronicle : Chronicle) : Session :=
  ⟨chronicle.now, chronicle.histories.map (History.relive policy)⟩

end Chronicle

theorem History.relive_eq (policy : Policy) (history : History) :
    history.relive policy = policy.executionAfter history.start history.past := by
  obtain ⟨start, past⟩ := history
  induction past using List.reverseRecOn with
  | nil => exact policy.start_fst start
  | append_singleton past report ih =>
      rw [relive] at ih ⊢
      rw [List.foldl_append, List.foldl_cons, List.foldl_nil, ih]
      exact congrArg Consultation.next (policy.consult_executionAfter start past report)

/-- **One command.** A session of executions that lived their histories alone stays one. -/
theorem Chronicle.step_session (policy : Policy) (chronicle : Chronicle) (command : Command) :
    (chronicle.session policy).step policy command
      = ((chronicle.step policy command).1.session policy,
          (chronicle.step policy command).2) := by
  cases command with
  | start => simp [Session.step, step, session, History.relive]
  | clone index =>
      simp only [Session.step, step, session, List.getElem?_map, List.map_append]
      cases chronicle.histories[index]? <;> rfl
  | setClock moment => rfl
  | consult index failure =>
      simp only [Session.step, step, session, List.getElem?_map]
      cases chronicle.histories[index]? with
      | none => rfl
      | some history =>
          have hconsult := policy.consult_executionAfter history.start history.past
            ⟨failure, chronicle.now⟩
          simp only [Option.map_some, List.map_set, History.relive_eq, hconsult, History.reply]

/-- **Whole sessions.** Under every sequence of commands each execution replies as its own history
says, and ends in the state of an execution that lived that history alone. -/
theorem Session.run_eq_chronicle (policy : Policy) (now : Instant) (commands : List Command) :
    let chronicle := Chronicle.run policy ⟨now, []⟩ commands
    Session.run policy ⟨now, []⟩ commands = (chronicle.1.session policy, chronicle.2) := by
  have hrun : ∀ chronicle : Chronicle, Session.run policy (chronicle.session policy) commands
      = ((Chronicle.run policy chronicle commands).1.session policy,
          (Chronicle.run policy chronicle commands).2) := by
    induction commands with
    | nil => intro chronicle; rfl
    | cons command rest ih =>
        intro chronicle
        simp only [Session.run, Chronicle.run, chronicle.step_session policy, ih]
  exact hrun ⟨now, []⟩

end Retry
