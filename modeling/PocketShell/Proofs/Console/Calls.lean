import PocketShell.Console.Basic
import PocketShell.Proofs.Session.Replay

/-!
# Calls on a console

A console is called with an action of the user or with a line that is submitted
as a whole.  Of all calls only those that submit a line reach the session and
the scrollback, and each of them by executing its line once.  So the session of
a console is the one that executes the submitted lines, whatever was edited or
brought back in between.
-/

namespace PocketShell

namespace Console

/-- An action of the user, or a line that is submitted as a whole, each at the time it is given. -/
inductive Call where
  | action (clock : Clock) (action : Action)
  | line (clock : Clock) (line : String)

/-- The console after the call, and the event that an action is answered by. -/
def perform (console : Console) : Call → Console × Option Event
  | .action clock action =>
      let (next, event) := console.handle clock action
      (next, some event)
  | .line clock line => ((console.submit clock line).1, none)

def performAll (console : Console) : List Call → Console × List (Option Event)
  | [] => (console, [])
  | call :: rest =>
      let (next, event) := console.perform call
      let (last, events) := next.performAll rest
      (last, event :: events)

/-- The line that the call submits, with the time of the call. -/
def submission? (console : Console) : Call → Option (Clock × String)
  | .action clock .submit => some (clock, console.input)
  | .action _ _ => none
  | .line clock line => some (clock, line)

def submissions (console : Console) : List Call → List (Clock × String)
  | [] => []
  | call :: rest =>
      (console.submission? call).toList ++ (console.perform call).1.submissions rest

section Step

variable {console : Console} {call : Call}

theorem session_recalled (console : Console) (found : Recall × Option String) :
    (console.recalled found).1.session = console.session := by
  obtain ⟨position, _ | line⟩ := found <;> rfl

theorem scrollback_recalled (console : Console) (found : Recall × Option String) :
    (console.recalled found).1.scrollback = console.scrollback := by
  obtain ⟨position, _ | line⟩ := found <;> rfl

/-- A call that submits no line reaches neither the session nor the scrollback. -/
theorem perform_of_no_submission (noSubmission : console.submission? call = none) :
    (console.perform call).1.session = console.session ∧
      (console.perform call).1.scrollback = console.scrollback := by
  cases call with
  | line clock line => contradiction
  | action clock action =>
      cases action with
      | submit => contradiction
      | older => exact ⟨session_recalled console _, scrollback_recalled console _⟩
      | newer => exact ⟨session_recalled console _, scrollback_recalled console _⟩
      | _ => exact ⟨rfl, rfl⟩

/-- A line that is typed and then submitted does to them what the same line does when it is
submitted as a whole. -/
theorem perform_of_submission {clock : Clock} {line : String}
    (submits : console.submission? call = some (clock, line)) :
    (console.perform call).1.session = (console.submit clock line).1.session ∧
      (console.perform call).1.scrollback = (console.submit clock line).1.scrollback := by
  cases call with
  | line other text =>
      obtain ⟨rfl, rfl⟩ := Prod.mk.inj (Option.some.inj submits)
      exact ⟨rfl, rfl⟩
  | action other action =>
      cases action with
      | submit =>
          obtain ⟨rfl, rfl⟩ := Prod.mk.inj (Option.some.inj submits)
          exact ⟨rfl, rfl⟩
      | _ => contradiction

theorem submissions_cons_of_no_submission (noSubmission : console.submission? call = none)
    (rest : List Call) :
    console.submissions (call :: rest) = (console.perform call).1.submissions rest := by
  rw [submissions, noSubmission, Option.toList_none, List.nil_append]

theorem submissions_cons_of_submission {submitted : Clock × String}
    (submits : console.submission? call = some submitted) (rest : List Call) :
    console.submissions (call :: rest) =
      submitted :: (console.perform call).1.submissions rest := by
  rw [submissions, submits, Option.toList_some, List.singleton_append]

end Step

/-- The session of a console has executed the submitted lines, by any clocks. -/
theorem session_performAll (clocks : Nat → Clock) (console : Console) (calls : List Call) :
    (console.performAll calls).1.session =
      (console.session.executeTimed clocks ((console.submissions calls).map Prod.snd)).1 := by
  induction calls generalizing clocks console with
  | nil => rfl
  | cons call rest ih =>
      simp only [performAll]
      cases submits : console.submission? call with
      | none =>
          rw [ih clocks, (perform_of_no_submission submits).1,
            submissions_cons_of_no_submission submits]
      | some submitted =>
          obtain ⟨clock, line⟩ := submitted
          -- The time of a call can be seen in the reply only, so any clock does for the session.
          have executed : (console.perform call).1.session =
              (console.session.execute (clocks 0) line).1 := by
            rw [(perform_of_submission submits).1]
            exact Session.fst_execute _ _ _ _
          rw [ih fun position => clocks (position + 1), executed,
            submissions_cons_of_submission submits]
          rfl

/-- The history of a console that began with a new session holds the submitted lines that are
not blank, without the blanks around them. -/
theorem history_performAll_start (banner : Bool) (calls : List Call) :
    ((start banner).performAll calls).1.session.history =
      ((((start banner).submissions calls).map Prod.snd).filter Text.hasNonBlank).map
        Text.trim := by
  rw [session_performAll fun _ => ⟨0, 0⟩, Session.history_executeTimed]
  rfl

end Console

end PocketShell
