import PocketShell.Proofs.Session.Replay
import PocketShell.Proofs.Tree.Entries

/-!
# Where entries come from

Every entry in the tree of a session is one that a new tree starts with, or was
asked for by a line that the session was given: it then has the name from that
line, and nothing in it when it is made.  So what holds of the names in lines
holds of all names in the tree and on the path.
-/

namespace PocketShell

namespace Session

/-- The entries that a new tree starts with, and those that one of the lines asks to make, by
their names and contents. -/
inductive MadeBy (lines : List String) : String → Option String → Prop where
  | starter {entry : StarterEntry} (listed : entry ∈ starterEntries) :
      MadeBy lines entry.name entry.content?
  | line {line : String} (given : line ∈ lines) {kind : EntryKind} {name : String}
      (asks : Command.ofLine? line = some (.create kind name)) :
      MadeBy lines name (Node.blank kind).content?

theorem MadeBy.mono {lines more : List String} (subset : lines ⊆ more) {name : String}
    {content? : Option String} (made : MadeBy lines name content?) :
    MadeBy more name content? := by
  cases made with
  | starter listed => exact .starter listed
  | line given asks => exact .line (subset given) asks

theorem Effect.eachEntry {session after : Session} {command : Command}
    {property : String → Option String → Prop} (effect : session.Effect command after)
    (created : ∀ kind name, command = .create kind name →
      property name (Node.blank kind).content?)
    (each : session.tree.root.EachEntry property) : after.tree.root.EachEntry property := by
  cases effect with
  | unchanged => exact each
  | moved => exact each
  | grown growth => exact growth.eachEntry (created _ _ rfl) (Node.eachEntry_blank _) each

theorem eachEntry_new : new.tree.root.EachEntry (MadeBy []) :=
  FileTree.eachEntry_starter fun _ listed => .starter listed

theorem eachEntry_execute (clock : Clock) {session : Session} {given : List String}
    (each : session.tree.root.EachEntry (MadeBy given)) (line : String) :
    (session.execute clock line).1.tree.root.EachEntry (MadeBy (given ++ [line])) := by
  have eachBefore : session.tree.root.EachEntry (MadeBy (given ++ [line])) :=
    each.mono fun _ _ => MadeBy.mono (List.subset_append_left _ _)
  cases asks : Command.ofLine? line with
  | none =>
      rw [execute_of_blank asks]
      exact eachBefore
  | some command =>
      rw [execute_of_command asks]
      refine (effect_run clock _ command).eachEntry ?_ eachBefore
      rintro kind name rfl
      exact .line (by simp) asks

theorem eachEntry_executeTimed (clocks : Nat → Clock) {session : Session} {given : List String}
    (each : session.tree.root.EachEntry (MadeBy given)) (lines : List String) :
    (session.executeTimed clocks lines).1.tree.root.EachEntry (MadeBy (given ++ lines)) := by
  induction lines generalizing clocks session given with
  | nil => simpa [executeTimed] using each
  | cons line rest ih =>
      have eachAfter := ih (fun position => clocks (position + 1))
        (eachEntry_execute (clocks 0) each line)
      rwa [List.append_assoc, List.singleton_append] at eachAfter

/-- Every entry after a run was there at the start or was asked for by one of its lines. -/
theorem eachEntry_madeBy (clocks : Nat → Clock) (lines : List String) :
    (new.executeTimed clocks lines).1.tree.root.EachEntry (MadeBy lines) :=
  eachEntry_executeTimed clocks eachEntry_new lines

end Session

end PocketShell
