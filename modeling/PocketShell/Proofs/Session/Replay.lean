import PocketShell.Proofs.Session.Calls
import Mathlib.Data.List.Forall2

/-!
# Replaying the history

The history of a session holds the lines that ask for something, without the
blanks around them, in the order in which they came.  Executing it in a new
session leads to the same session, and to the same replies but for those that
tell the time: blank lines do nothing, trimming keeps what a line asks for, and
no command but `date` looks at the clock.  The clock may run while the lines are
executed, so it is taken as a function of the position of a line.
-/

namespace PocketShell

def Text.hasNonBlank (text : String) : Bool :=
  text.toList.any (!isBlank ·)

namespace Session

/-- Executes the lines one after the other, each by the clock at its position. -/
def executeTimed : (clocks : Nat → Clock) → Session → List String → Session × List Reply
  | _, session, [] => (session, [])
  | clocks, session, line :: rest =>
      let (next, reply) := session.execute (clocks 0) line
      let (last, replies) := next.executeTimed (fun position => clocks (position + 1)) rest
      (last, reply :: replies)

theorem executeTimed_const (clock : Clock) (session : Session) (lines : List String) :
    session.executeTimed (fun _ => clock) lines = session.executeAll clock lines := by
  induction lines generalizing session with
  | nil => rfl
  | cons line rest ih => simp only [executeTimed, executeAll, ih]

theorem length_executeTimed (clocks : Nat → Clock) (session : Session) (lines : List String) :
    (session.executeTimed clocks lines).2.length = lines.length := by
  induction lines generalizing clocks session with
  | nil => rfl
  | cons line rest ih => simp only [executeTimed, List.length_cons, ih]

theorem hasNonBlank_eq_isSome (line : String) :
    Text.hasNonBlank line = (Command.ofLine? line).isSome := by
  rw [Bool.eq_iff_iff, Option.isSome_iff_ne_none, ne_eq, Command.ofLine?_eq_none_iff]
  simp [Text.hasNonBlank]

/-- No command but `date` looks at the clock. -/
theorem run_of_ne_date {command : Command} (other : command ≠ .date) (clock later : Clock)
    (session : Session) : session.run later command = session.run clock command := by
  cases command with
  | date => exact absurd rfl other
  | _ => rfl

/-- What becomes of the session does not depend on the clock at all. -/
theorem fst_run (clock later : Clock) (session : Session) (command : Command) :
    (session.run later command).1 = (session.run clock command).1 := by
  cases command <;> rfl

theorem fst_execute (clock later : Clock) (session : Session) (line : String) :
    (session.execute later line).1 = (session.execute clock line).1 := by
  cases asks : Command.ofLine? line with
  | none => rw [execute_of_blank asks, execute_of_blank asks]
  | some command =>
      rw [execute_of_command asks, execute_of_command asks]
      exact fst_run clock later _ command

/-- The lines with a character that is not blank are kept, without the blanks around them. -/
theorem history_executeTimed (clocks : Nat → Clock) (session : Session) (lines : List String) :
    (session.executeTimed clocks lines).1.history =
      session.history ++ (lines.filter Text.hasNonBlank).map Text.trim := by
  induction lines generalizing clocks session with
  | nil => simp [executeTimed]
  | cons line rest ih =>
      simp only [executeTimed, ih]
      cases asks : Command.ofLine? line with
      | none =>
          have blank : ¬ Text.hasNonBlank line = true := by simp [hasNonBlank_eq_isSome, asks]
          rw [execute_of_blank asks, List.filter_cons_of_neg blank]
      | some command =>
          have kept : Text.hasNonBlank line = true := by simp [hasNonBlank_eq_isSome, asks]
          rw [execute_of_command asks, (effect_run _ _ command).history_eq,
            List.filter_cons_of_pos kept]
          simp [remember]

/-- A line and its first reply agree with a reply given later, unless the line asks for the
time. -/
def AnswersAgain (asked : String × Reply) (later : Reply) : Prop :=
  Command.ofLine? asked.1 ≠ some .date → later = asked.2

/-- Executing the trimmed lines that are not blank, from the same session on and by other
clocks, leads to the same session and to the same replies but for the time. -/
theorem executeTimed_kept (clocks later : Nat → Clock) (session : Session)
    (lines : List String) :
    (session.executeTimed later ((lines.filter Text.hasNonBlank).map Text.trim)).1 =
        (session.executeTimed clocks lines).1 ∧
      List.Forall₂ AnswersAgain
        ((lines.zip (session.executeTimed clocks lines).2).filter (Text.hasNonBlank ·.1))
        (session.executeTimed later ((lines.filter Text.hasNonBlank).map Text.trim)).2 := by
  induction lines generalizing clocks later session with
  | nil => exact ⟨rfl, .nil⟩
  | cons line rest ih =>
      cases asks : Command.ofLine? line with
      | none =>
          have blank : Text.hasNonBlank line = false := by simp [hasNonBlank_eq_isSome, asks]
          simp only [executeTimed, execute_of_blank asks, List.zip_cons_cons,
            List.filter_cons, blank, Bool.false_eq_true, if_false]
          exact ih _ later session
      | some command =>
          have kept : Text.hasNonBlank line = true := by simp [hasNonBlank_eq_isSome, asks]
          have asksTrimmed : Command.ofLine? (Text.trim line) = some command := by
            rw [Command.ofLine?_trim, asks]
          simp only [List.filter_cons, kept, if_true, List.map_cons, executeTimed,
            execute_of_command asks, execute_of_command asksTrimmed, Text.trim_trim,
            List.zip_cons_cons, fst_run (clocks 0) (later 0)]
          obtain ⟨sameEnd, repliesAgain⟩ :=
            ih (fun position => clocks (position + 1)) (fun position => later (position + 1))
              ((session.remember (Text.trim line)).run (clocks 0) command).1
          refine ⟨sameEnd, .cons ?_ repliesAgain⟩
          intro notDate
          rw [asks, ne_eq, Option.some.injEq] at notDate
          rw [run_of_ne_date notDate (clocks 0) (later 0)]

/-- The history is the trimmed lines that are not blank, in order; and executing it in another
new session, by any other clocks, gives the same path, the same tree, the same history, and for
each line that is not blank the same reply unless it asks for the time. -/
theorem history_replays (clocks later : Nat → Clock) (lines : List String) :
    let run := new.executeTimed clocks lines
    let replay := new.executeTimed later run.1.history
    run.1.history = (lines.filter Text.hasNonBlank).map Text.trim ∧
      run.2.length = lines.length ∧
      replay.1.path = run.1.path ∧ replay.1.tree = run.1.tree ∧
      replay.1.history = run.1.history ∧
      List.Forall₂ AnswersAgain ((lines.zip run.2).filter (Text.hasNonBlank ·.1)) replay.2 := by
  intro run replay
  have history : run.1.history = (lines.filter Text.hasNonBlank).map Text.trim :=
    history_executeTimed clocks new lines
  obtain ⟨sameEnd, repliesAgain⟩ := executeTimed_kept clocks later new lines
  rw [← history] at sameEnd repliesAgain
  have sameSession : replay.1 = run.1 := sameEnd
  refine ⟨history, length_executeTimed clocks new lines, ?_, ?_, ?_, repliesAgain⟩
  · rw [sameSession]
  · rw [sameSession]
  · rw [sameSession]

end Session

end PocketShell
