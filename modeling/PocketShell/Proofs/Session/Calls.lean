import PocketShell.Proofs.Text.Words
import PocketShell.Proofs.Tree.Growth
import PocketShell.Session.Basic

/-!
# Calls on a session

A session is called with a line as it was typed or with a command of its own.
`Effect` says once what a command can do to a session: nothing at all, move it to
the place that a change of directory leads to, or let its tree grow by one blank
entry where the session stands.  What holds of every reachable session follows
from these three cases.
-/

namespace PocketShell

namespace Command

def create : EntryKind → String → Command
  | .directory, name => .mkdir name
  | .file, name => .touch name

/-- The command that a line asks for; a blank line asks for none. -/
def ofLine? (line : String) : Option Command :=
  (Request.read? line).map Request.command

theorem ofLine?_eq_none_iff {line : String} :
    ofLine? line = none ↔ ∀ char ∈ line.toList, Text.isBlank char = true := by
  rw [ofLine?, Option.map_eq_none_iff, Request.read?, ← Text.words_eq_nil_iff]
  cases Text.words line <;> simp [Request.ofWords?]

@[simp]
theorem ofLine?_trim (line : String) : ofLine? (Text.trim line) = ofLine? line := by
  simp [ofLine?, Request.read?]

/-- A word in lower case and a word behind it ask for the command of the first on the second. -/
theorem ofLine?_append_space {command argument : String} (commandWord : Text.IsWord command)
    (isLower : Text.lowerCase command = command) (argumentWord : Text.IsWord argument) :
    ofLine? (command ++ " " ++ argument) = some (ofWords command [argument]) := by
  rw [ofLine?, Request.read?, commandWord.words_append_space, argumentWord.words_eq,
    Request.ofWords?, isLower]
  rfl

end Command

namespace Session

/-- A line as it was typed, or a command of its own, each at the time it is given. -/
inductive Call where
  | line (clock : Clock) (text : String)
  | command (clock : Clock) (command : Command)

def perform (session : Session) : Call → Session × Reply
  | .line clock text => session.execute clock text
  | .command clock command => session.run clock command

/-- The sessions that calls make of a new one. -/
inductive Reachable : Session → Prop where
  | new : Reachable .new
  | perform {session : Session} (reachable : Reachable session) (call : Call) :
      Reachable (session.perform call).1

/-- The session after the calls, one after the other. -/
def performAll (session : Session) : List Call → Session
  | [] => session
  | call :: rest => (session.perform call).1.performAll rest

theorem Reachable.performAll {session : Session} (reachable : Reachable session)
    (calls : List Call) : Reachable (session.performAll calls) := by
  induction calls generalizing session with
  | nil => exact reachable
  | cons call rest ih => exact ih (reachable.perform call)

/-- Whether a change of directory to the destination takes the session to the path. -/
def LeadsTo (session : Session) : Destination → Path → Prop
  | .home, path => path = .home
  | .parent, path => path = session.path.parent
  | .child name, path => path = session.path.join name ∧ session.tree.isDirectory path = true

/-- What a command can make of a session. -/
inductive Effect (session : Session) : Command → Session → Prop where
  | unchanged (command : Command) : Effect session command session
  | moved {destination : Destination} {path : Path} (leads : session.LeadsTo destination path) :
      Effect session (.cd destination) { session with path := path }
  | grown {kind : EntryKind} {name : String} {tree : FileTree}
      (growth : Node.GrownAt name (.blank kind) session.path.below session.tree.root tree.root) :
      Effect session (.create kind name) { session with tree := tree }

/-- A change of directory leads where it should, or it fails and changes nothing. -/
theorem go_cases (session : Session) (destination : Destination) :
    (∃ path, session.LeadsTo destination path ∧
        session.go destination = ({ session with path := path }, .blank)) ∨
      ∃ failure : Failure, session.go destination = (session, failure.reply) := by
  cases destination with
  | home => exact .inl ⟨_, rfl, rfl⟩
  | parent => exact .inl ⟨_, rfl, rfl⟩
  | child name =>
      by_cases directory : session.tree.isDirectory (session.path.join name) = true
      · rw [go, if_pos directory]
        exact .inl ⟨_, ⟨rfl, directory⟩, rfl⟩
      · rw [go, if_neg directory]
        exact .inr ⟨_, rfl⟩

/-- An entry is made at the end of the directory where the session stands, or nothing changes. -/
theorem create_cases (session : Session) (kind : EntryKind) (name : String) :
    (∃ tree : FileTree,
        Node.GrownAt name (.blank kind) session.path.below session.tree.root tree.root ∧
        session.create kind name = ({ session with tree := tree }, .blank)) ∨
      ∃ failure : Failure, session.create kind name = (session, failure.reply) := by
  unfold create
  cases inserted : session.tree.insertAt session.path name (.blank kind) with
  | ok grown => exact .inl ⟨grown, FileTree.insertAt_eq_ok_iff.mp inserted, rfl⟩
  | error failure => exact .inr ⟨_, rfl⟩

theorem effect_go (session : Session) (destination : Destination) :
    session.Effect (.cd destination) (session.go destination).1 := by
  rcases session.go_cases destination with ⟨path, leads, went⟩ | ⟨failure, failed⟩
  · rw [went]
    exact .moved leads
  · rw [failed]
    exact .unchanged _

theorem effect_create (session : Session) (kind : EntryKind) (name : String) :
    session.Effect (.create kind name) (session.create kind name).1 := by
  rcases session.create_cases kind name with ⟨tree, growth, created⟩ | ⟨failure, failed⟩
  · rw [created]
    exact .grown growth
  · rw [failed]
    exact .unchanged _

/-- Every command has one of the three effects. -/
theorem effect_run (clock : Clock) (session : Session) (command : Command) :
    session.Effect command (session.run clock command).1 := by
  cases command with
  | cd destination => exact session.effect_go destination
  | mkdir name => exact session.effect_create .directory name
  | touch name => exact session.effect_create .file name
  | _ => exact .unchanged _

section Consequences

variable {session after : Session} {command : Command}

theorem Effect.history_eq (effect : session.Effect command after) :
    after.history = session.history := by
  cases effect <;> rfl

theorem Effect.exists_cd_of_path_ne (effect : session.Effect command after)
    (moved : after.path ≠ session.path) : ∃ destination, command = .cd destination := by
  cases effect with
  | unchanged => exact absurd rfl moved
  | moved => exact ⟨_, rfl⟩
  | grown => exact absurd rfl moved

theorem Effect.exists_create_of_tree_ne (effect : session.Effect command after)
    (changed : after.tree ≠ session.tree) :
    ∃ kind name, command = .create kind name ∧
      Node.GrownAt name (.blank kind) session.path.below session.tree.root after.tree.root := by
  cases effect with
  | unchanged => exact absurd rfl changed
  | moved => exact absurd rfl changed
  | grown growth => exact ⟨_, _, rfl, growth⟩

end Consequences

theorem run_create (clock : Clock) (session : Session) (kind : EntryKind) (name : String) :
    session.run clock (.create kind name) = session.create kind name := by
  cases kind <;> rfl

theorem execute_of_blank {line : String} (blank : Command.ofLine? line = none)
    (clock : Clock) (session : Session) : session.execute clock line = (session, .blank) := by
  rw [← Command.ofLine?_trim, Command.ofLine?, Option.map_eq_none_iff] at blank
  rw [execute, blank]

/-- A line that asks for a command is kept without the blanks around it, and then the command
is run. -/
theorem execute_of_command {line : String} {command : Command}
    (asks : Command.ofLine? line = some command) (clock : Clock) (session : Session) :
    session.execute clock line = (session.remember (Text.trim line)).run clock command := by
  rw [← Command.ofLine?_trim, Command.ofLine?, Option.map_eq_some_iff] at asks
  obtain ⟨request, read, rfl⟩ := asks
  rw [execute, read]

/-- What every command keeps, every call keeps, as long as it does not regard the history. -/
theorem perform_induction (invariant : Session → Prop)
    (kept : ∀ session line, invariant session → invariant (session.remember line))
    (effect : ∀ session command after,
      session.Effect command after → invariant session → invariant after)
    {session : Session} (before : invariant session) (call : Call) :
    invariant (session.perform call).1 := by
  cases call with
  | command clock command => exact effect _ _ _ (effect_run clock session command) before
  | line clock text =>
      rw [perform]
      cases asks : Command.ofLine? text with
      | none =>
          rw [execute_of_blank asks]
          exact before
      | some command =>
          rw [execute_of_command asks]
          exact effect _ _ _ (effect_run clock _ command) (kept _ _ before)

/-- What holds of a new session, and is kept by every command and regardless of the history, holds
of every reachable session. -/
theorem Reachable.induction_on_effect {invariant : Session → Prop} (base : invariant .new)
    (kept : ∀ session line, invariant session → invariant (session.remember line))
    (effect : ∀ session command after,
      session.Effect command after → invariant session → invariant after)
    {session : Session} (reachable : Reachable session) : invariant session := by
  induction reachable with
  | new => exact base
  | perform _ call ih => exact perform_induction invariant kept effect ih call

end Session

end PocketShell
