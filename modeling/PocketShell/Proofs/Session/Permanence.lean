import PocketShell.Proofs.Session.Provenance
import PocketShell.Proofs.Tree.Extension

/-!
# What lasts

Whatever a session is asked to do, its tree only gains.  Each call keeps the tree
or lets it grow by one entry, so the tree after any calls extends the tree before
them: every name stays where it was, and no file changes.  As an entry is made
with nothing in it, no file ever holds more than it held in a new tree.
-/

namespace PocketShell

/-- The contents of the files in a new tree. -/
def starterContents : List String :=
  starterEntries.filterMap StarterEntry.content?

namespace Session

variable {session after : Session} {command : Command}

theorem Effect.tree_extends (effect : session.Effect command after) :
    after.tree.root.Extends session.tree.root := by
  cases effect with
  | unchanged => exact .refl _
  | moved => exact .refl _
  | grown growth => exact growth.extends_root

/-- No call takes anything from the tree. -/
theorem perform_extends (session : Session) (call : Call) :
    (session.perform call).1.tree.root.Extends session.tree.root := by
  refine perform_induction (fun later => later.tree.root.Extends session.tree.root) ?_ ?_
    (.refl _) call
  · exact fun _ _ extension => extension
  · exact fun _ _ _ effect extension => effect.tree_extends.trans extension

theorem performAll_extends (session : Session) (calls : List Call) :
    (session.performAll calls).tree.root.Extends session.tree.root := by
  induction calls generalizing session with
  | nil => exact .refl _
  | cons call rest ih =>
      have first : (session.perform call).1.tree.root.Extends session.tree.root :=
        perform_extends session call
      exact (ih (session.perform call).1).trans first

/-- What holds of the entries of a new tree and of every entry that can be made holds of all
entries of a reachable session. -/
theorem Reachable.eachEntry {property : String → Option String → Prop}
    (starter : ∀ entry ∈ starterEntries, property entry.name entry.content?)
    (created : ∀ kind name, property name (Node.blank kind).content?)
    (reachable : Reachable session) : session.tree.root.EachEntry property := by
  refine @Reachable.induction_on_effect (fun later => later.tree.root.EachEntry property)
    (FileTree.eachEntry_starter starter) ?_ ?_ session reachable
  · exact fun _ _ each => each
  · exact fun _ _ _ effect each => effect.eachEntry (fun kind name _ => created kind name) each

/-- Whether an entry is a directory, or a file that is empty or has a content of a new tree. -/
def HasStarterContent (_name : String) (content? : Option String) : Prop :=
  ∀ content, content? = some content → content ∈ starterContents ∨ content = ""

theorem hasStarterContent_of_mem {entry : StarterEntry} (listed : entry ∈ starterEntries) :
    HasStarterContent entry.name entry.content? := by
  intro content holds
  left
  exact List.mem_filterMap.mpr ⟨entry, listed, holds⟩

theorem hasStarterContent_blank (kind : EntryKind) (name : String) :
    HasStarterContent name (Node.blank kind).content? := by
  intro content holds
  right
  cases kind with
  | directory => contradiction
  | file => exact (Option.some.inj holds).symm

/-- After any calls the tree of a reachable session extends the tree before them.  So all that a
path led to is still there, of the same kind and with the same content; and every file in the
tree, however deep, is empty or has a content of a new tree. -/
theorem Reachable.tree_only_gains (reachable : Reachable session) (calls : List Call) :
    let after := session.performAll calls
    after.tree.root.Extends session.tree.root ∧
      (∀ path node, session.tree.nodeAt path = .ok node →
        ∃ kept, after.tree.nodeAt path = .ok kept ∧ kept.kind = node.kind ∧
          kept.content? = node.content?) ∧
      after.tree.root.EachEntry HasStarterContent := by
  intro after
  have extension : after.tree.root.Extends session.tree.root := session.performAll_extends calls
  refine ⟨extension, ?_, ?_⟩
  · intro path node reached
    obtain ⟨kept, keptReached, keptExtends⟩ := extension.exists_resolve reached
    exact ⟨kept, keptReached, keptExtends.kind_eq, keptExtends.content?_eq⟩
  · exact (reachable.performAll calls).eachEntry (fun _ => hasStarterContent_of_mem)
      hasStarterContent_blank

/-- An attempt to make a file anew, beside one to make a directory of the same name, leaves the
file as it was. -/
theorem Reachable.tree_only_gains_beside_same_name :
    let before := (Session.new.perform (.command ⟨0, 0⟩ (.cd (.child "projects")))).1
    let after := before.performAll
      [.line ⟨0, 0⟩ "touch app.js", .command ⟨0, 0⟩ (.mkdir "app.js"), .line ⟨0, 0⟩ "mkdir a/b"]
    Reachable before ∧ after.tree.root.Extends before.tree.root ∧
      (∃ kept, after.tree.nodeAt ⟨["projects", "app.js"]⟩ = .ok kept ∧
        kept.content? = some "console.log(\"Hello from Android Terminal!\");") ∧
      after.tree.root.EachEntry HasStarterContent := by
  intro before after
  have reachable : Reachable before := .perform .new _
  obtain ⟨extension, kept, contents⟩ := reachable.tree_only_gains
    [.line ⟨0, 0⟩ "touch app.js", .command ⟨0, 0⟩ (.mkdir "app.js"), .line ⟨0, 0⟩ "mkdir a/b"]
  have reached : before.tree.nodeAt ⟨["projects", "app.js"]⟩ =
      .ok (.file "console.log(\"Hello from Android Terminal!\");") := rfl
  obtain ⟨node, nodeReached, _, sameContent⟩ := kept _ _ reached
  exact ⟨reachable, extension, ⟨node, nodeReached, sameContent⟩, contents⟩

end Session

end PocketShell
