import PocketShell.Proofs.Session.Effects
import PocketShell.Proofs.Session.Replay
import PocketShell.Proofs.Session.Standing
import Mathlib.Data.List.Infix
import Mathlib.Tactic.MkIffOfInductiveProp

/-!
# Ways back

A line of `cd` goes one directory down, one up, or home, and no other line moves a
session.  So the names that a session has entered and not yet left again stand like
a stack on the path where it began.  Main statement: lines that leave as often as
they enter, and up to none of them more often, bring a session back to where it
was, whatever else they do; and enough lines that leave bring it home from
anywhere.
-/

namespace PocketShell

def Command.destination? : Command → Option Destination
  | .cd destination => some destination
  | _ => none

namespace Session

/-- Where a line asks the session to go, if it does. -/
def destination? (line : String) : Option Destination :=
  (Command.ofLine? line).bind Command.destination?

/-- Whether a line, by its reply, took the session to a directory below. -/
def enters (answered : String × Reply) : Bool :=
  match destination? answered.1 with
  | some (.child _) => !answered.2.isError
  | _ => false

/-- Whether a line took the session to the directory around. -/
def leaves (answered : String × Reply) : Bool :=
  destination? answered.1 = some .parent

/-- Lines with their replies that leave as often as they enter, and up to none of them more
often. -/
@[mk_iff]
structure Balanced (answered : List (String × Reply)) : Prop where
  leaves_le : ∀ front, front <+: answered → front.countP leaves ≤ front.countP enters
  settled : answered.countP enters = answered.countP leaves

instance (answered : List (String × Reply)) : Decidable (Balanced answered) :=
  decidable_of_iff
    ((∀ front ∈ answered.inits, front.countP leaves ≤ front.countP enters) ∧
      answered.countP enters = answered.countP leaves)
    (by simp only [List.mem_inits, balanced_iff])

section Step

variable {session : Session} {line : String}

theorem path_execute_of_no_destination (clock : Clock) (staysPut : destination? line = none) :
    (session.execute clock line).1.path = session.path := by
  cases asks : Command.ofLine? line with
  | none => rw [execute_of_blank asks]
  | some command =>
      rw [execute_of_command asks]
      by_contra moved
      obtain ⟨destination, rfl⟩ := (effect_run clock _ command).exists_cd_of_path_ne moved
      simp [destination?, asks, Command.destination?] at staysPut

theorem execute_of_destination (clock : Clock) {destination : Destination}
    (asked : destination? line = some destination) :
    session.execute clock line = (session.remember (Text.trim line)).go destination := by
  obtain ⟨command, asks, isCd⟩ := Option.bind_eq_some_iff.mp asked
  cases command with
  | cd other =>
      obtain rfl : other = destination := Option.some.inj isCd
      exact execute_of_command asks clock session
  | _ => contradiction

/-- A session on the base stays on it, with one name more behind the base if the line enters, one
fewer if it leaves, and as many otherwise. -/
theorem exists_inner_execute (clock : Clock) {base inner : List String}
    (stands : session.path.below = base ++ inner) (notHome : destination? line ≠ some .home)
    (mayLeave : destination? line = some .parent → inner ≠ []) :
    let after := session.execute clock line
    ∃ next, after.1.path.below = base ++ next ∧
      next.length + (if leaves (line, after.2) then 1 else 0) =
        inner.length + (if enters (line, after.2) then 1 else 0) := by
  intro after
  cases asked : destination? line with
  | none =>
      refine ⟨inner, ?_, ?_⟩
      · rw [path_execute_of_no_destination clock asked, stands]
      · simp [leaves, enters, asked]
  | some destination =>
      have executed : after = (session.remember (Text.trim line)).go destination :=
        execute_of_destination clock asked
      cases destination with
      | home => exact absurd asked notHome
      | parent =>
          have entered : inner ≠ [] := mayLeave asked
          refine ⟨inner.dropLast, ?_, ?_⟩
          · have around : after.1.path = session.path.parent := congrArg (·.1.path) executed
            rw [around, Path.parent, stands, List.dropLast_append_of_ne_nil entered]
          · have positive := List.length_pos_iff.mpr entered
            have left : leaves (line, after.2) = true := by simp [leaves, asked]
            have notEntered : enters (line, after.2) = false := by simp [enters, asked]
            simp only [left, notEntered, if_true, Bool.false_eq_true, if_false,
              List.length_dropLast]
            omega
      | child name =>
          have notLeft : leaves (line, after.2) = false := by simp [leaves, asked]
          have byReply : enters (line, after.2) = !after.2.isError := by simp [enters, asked]
          rcases go_cases (session.remember (Text.trim line)) (.child name) with
            ⟨path, ⟨rfl, _⟩, went⟩ | ⟨failure, failed⟩
          · refine ⟨inner ++ [name], ?_, ?_⟩
            · rw [executed, went, ← List.append_assoc, ← stands]
              rfl
            · have entered : enters (line, after.2) = true := by
                rw [byReply, executed, went]
                rfl
              simp [entered, notLeft]
          · refine ⟨inner, ?_, ?_⟩
            · rw [executed, failed]
              exact stands
            · have notEntered : enters (line, after.2) = false := by
                rw [byReply, executed, failed]
                rfl
              simp [notEntered, notLeft]

end Step

section Run

variable {session : Session} {lines : List String}

theorem Reachable.executeTimed (reachable : Reachable session) (clocks : Nat → Clock)
    (lines : List String) : Reachable (session.executeTimed clocks lines).1 := by
  induction lines generalizing clocks session with
  | nil => exact reachable
  | cons line rest ih =>
      exact ih (reachable.perform (.line (clocks 0) line)) (fun position => clocks (position + 1))

/-- After lines that at no time have left more names than were entered or stood behind the base at
the start, the session is still on the base, with the names behind it that were not left. -/
theorem exists_inner_executeTimed (clocks : Nat → Clock) {base inner : List String}
    (stands : session.path.below = base ++ inner)
    (notHome : ∀ line ∈ lines, destination? line ≠ some .home)
    (leaves_le : ∀ front, front <+: lines.zip (session.executeTimed clocks lines).2 →
      front.countP leaves ≤ inner.length + front.countP enters) :
    ∃ next, (session.executeTimed clocks lines).1.path.below = base ++ next ∧
      next.length + (lines.zip (session.executeTimed clocks lines).2).countP leaves =
        inner.length + (lines.zip (session.executeTimed clocks lines).2).countP enters := by
  induction lines generalizing clocks session inner with
  | nil => exact ⟨inner, stands, rfl⟩
  | cons line rest ih =>
      rw [List.forall_mem_cons] at notHome
      simp only [executeTimed, List.zip_cons_cons] at leaves_le ⊢
      have mayLeave : destination? line = some .parent → inner ≠ [] := by
        rintro asked rfl
        have leavesFirst := leaves_le [(line, (session.execute (clocks 0) line).2)]
          (List.prefix_append [_] _)
        simp [leaves, enters, asked] at leavesFirst
      obtain ⟨next, nextStands, nextLength⟩ :=
        exists_inner_execute (clocks 0) stands notHome.1 mayLeave
      have leaves_le_rest (front : List (String × Reply))
          (begins : front <+: rest.zip ((session.execute (clocks 0) line).1.executeTimed
            (fun position => clocks (position + 1)) rest).2) :
          front.countP leaves ≤ next.length + front.countP enters := by
        have whole := leaves_le (_ :: front) ((List.prefix_cons_inj _).mpr begins)
        rw [List.countP_cons, List.countP_cons] at whole
        omega
      obtain ⟨last, lastStands, lastLength⟩ :=
        ih (fun position => clocks (position + 1)) nextStands notHome.2 leaves_le_rest
      refine ⟨last, lastStands, ?_⟩
      rw [List.countP_cons, List.countP_cons]
      omega

/-- As many lines that leave as there are names on the path, or more, lead home. -/
theorem path_executeTimed_of_leaves (clocks : Nat → Clock)
    (allLeave : ∀ line ∈ lines, destination? line = some .parent)
    (enough : session.path.below.length ≤ lines.length) :
    (session.executeTimed clocks lines).1.path = .home := by
  induction lines generalizing clocks session with
  | nil =>
      rw [executeTimed, ← Path.isHome_iff, Path.isHome, List.isEmpty_iff_length_eq_zero]
      exact Nat.le_zero.mp enough
  | cons line rest ih =>
      rw [List.forall_mem_cons] at allLeave
      have around : (session.execute (clocks 0) line).1.path = session.path.parent := by
        rw [execute_of_destination (clocks 0) allLeave.1]
        rfl
      have enoughLeft : (session.execute (clocks 0) line).1.path.below.length ≤ rest.length := by
        rw [List.length_cons] at enough
        rw [around, Path.parent, List.length_dropLast]
        omega
      exact ih (fun position => clocks (position + 1)) allLeave.2 enoughLeft

/-- From a reachable session, lines without a change to the home directory that leave as often as
they enter, and up to none of them more often, lead back to the path at the start, which still
leads to a directory; and lines that leave, as many as there are names on the path or more, lead
home. -/
theorem Reachable.balanced_lines_return (reachable : Reachable session) (clocks : Nat → Clock) :
    (∀ lines, (∀ line ∈ lines, destination? line ≠ some .home) →
      Balanced (lines.zip (session.executeTimed clocks lines).2) →
      (session.executeTimed clocks lines).1.path = session.path ∧
        ∃ directory,
          (session.executeTimed clocks lines).1.tree.directoryAt session.path = .ok directory) ∧
    ∀ lines, (∀ line ∈ lines, destination? line = some .parent) →
      session.path.below.length ≤ lines.length →
      (session.executeTimed clocks lines).1.path = .home := by
  constructor
  · intro lines notHome balanced
    have leaves_le (front : List (String × Reply))
        (begins : front <+: lines.zip (session.executeTimed clocks lines).2) :
        front.countP leaves ≤ ([] : List String).length + front.countP enters := by
      simpa using balanced.leaves_le front begins
    obtain ⟨inner, stands, innerLength⟩ :=
      exists_inner_executeTimed clocks (List.append_nil _).symm notHome leaves_le
    have nothingInner : inner = [] := by
      rw [balanced.settled, List.length_nil, Nat.zero_add] at innerLength
      exact List.eq_nil_of_length_eq_zero (by omega)
    have samePath : (session.executeTimed clocks lines).1.path = session.path := by
      rw [nothingInner, List.append_nil] at stands
      exact congrArg Path.mk stands
    refine ⟨samePath, ?_⟩
    rw [← samePath]
    exact (reachable.executeTimed clocks lines).sound.stands_in_directory
  · intro lines allLeave enough
    exact path_executeTimed_of_leaves clocks allLeave enough

/-- Two directories deep and back, past lines that fail, make entries or ask in capitals. -/
theorem Reachable.balanced_lines_return_from_projects :
    let start := (Session.new.execute ⟨0, 0⟩ "cd projects").1
    let lines := ["mkdir a", "cd a", "cd nowhere", "mkdir b", " CD  b c ", "touch a", "cd ..", "",
      "cd ..", "mkdir a"]
    Reachable start ∧ Balanced (lines.zip (start.executeTimed (fun _ => ⟨0, 0⟩) lines).2) ∧
      (start.executeTimed (fun _ => ⟨0, 0⟩) lines).1.path = ⟨["projects"]⟩ ∧
      (start.executeTimed (fun _ => ⟨0, 0⟩) ["cd ..", "cd .. now"]).1.path = .home := by
  intro start lines
  have reachable : Reachable start := .perform .new (.line ⟨0, 0⟩ "cd projects")
  have balanced : Balanced (lines.zip (start.executeTimed (fun _ => ⟨0, 0⟩) lines).2) := by
    decide +kernel
  obtain ⟨returns, leadsHome⟩ := reachable.balanced_lines_return fun _ => ⟨0, 0⟩
  have returned := (returns lines (by decide +kernel) balanced).1
  have startPath : start.path = ⟨["projects"]⟩ := by decide +kernel
  exact ⟨reachable, balanced, returned.trans startPath,
    leadsHome ["cd ..", "cd .. now"] (by decide +kernel) (by decide +kernel)⟩

end Run

end Session

end PocketShell
