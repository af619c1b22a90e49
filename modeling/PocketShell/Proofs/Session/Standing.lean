import PocketShell.Proofs.Session.Calls
import PocketShell.Proofs.Tree.Distinct

/-!
# Where a session stands

Every reachable session stands in a directory of its tree, and no directory of
the tree holds a name twice.  So each command that looks around has an answer
that follows from the outline of the directory alone: `ls` lists it, a change to
the directory around always succeeds, and making an entry fails for the names in
it and for no others.
-/

namespace PocketShell

namespace Session

section Looking

variable {session : Session} {listed : List (String × Option String)} {name : String}

/-- The outline of the directory in which the session stands. -/
def Shows (session : Session) (listed : List (String × Option String)) : Prop :=
  session.tree.root.outlineAt session.path.below = some (.directory listed)

theorem exists_shows_iff :
    (∃ listed, session.Shows listed) ↔
      ∃ directory, session.tree.directoryAt session.path = .ok directory :=
  FileTree.exists_directoryAt_iff.symm

theorem listing_of_shows (here : session.Shows listed) :
    session.listing =
      .framed (listed.map fun entry => .entry (.ofContent? entry.2) entry.1) := by
  rw [listing, FileTree.list_eq_of_outlineAt here]
  simp [Function.comp_def]

theorem fileReply_of_shows (here : session.Shows listed) :
    session.fileReply name =
      match listed.lookup name with
      | some (some content) => .framed (contentLines content)
      | _ => (Failure.fileNotFound name).reply := by
  rcases FileTree.entryAt_eq_of_outlineAt here name with
    ⟨absent, failed⟩ | ⟨node, found, entry⟩
  · rw [fileReply, failed, absent]
  · rw [fileReply, entry, found]
    cases node <;> rfl

theorem go_child_of_shows (here : session.Shows listed) :
    session.go (.child name) =
      if listed.lookup name = some none then session.moveTo (session.path.join name)
      else (session, (Failure.directoryNotFound (some name)).reply) := by
  simp only [go, FileTree.isDirectory_join_iff here]

theorem create_of_taken (here : session.Shows listed) (kind : EntryKind)
    (taken : name ∈ listed.map Prod.fst) :
    session.create kind name = (session, (Failure.nameTaken kind name).reply) := by
  have failed : session.tree.insertAt session.path name (.blank kind) =
      .error (.alreadyExists name) :=
    (FileTree.insertAt_eq_error_iff here).mpr ⟨taken, rfl⟩
  rw [create, failed]

theorem create_of_free (here : session.Shows listed) (kind : EntryKind)
    (free : name ∉ listed.map Prod.fst) :
    ∃ tree : FileTree,
      Node.GrownAt name (.blank kind) session.path.below session.tree.root tree.root ∧
        session.create kind name = ({ session with tree := tree }, .blank) := by
  cases inserted : session.tree.insertAt session.path name (.blank kind) with
  | error failure => exact absurd ((FileTree.insertAt_eq_error_iff here).mp inserted).1 free
  | ok grown =>
      exact ⟨grown, FileTree.insertAt_eq_ok_iff.mp inserted, by rw [create, inserted]⟩

theorem mem_names_iff_entryAt (here : session.Shows listed) :
    name ∈ listed.map Prod.fst ↔ ∃ node, session.tree.entryAt session.path name = .ok node := by
  rw [← isSome_lookup_iff_mem_names]
  rcases FileTree.entryAt_eq_of_outlineAt here name with
    ⟨absent, failed⟩ | ⟨node, found, entry⟩
  · simp [absent, failed]
  · simp [found, entry]

theorem exists_outlineAt_parent (here : session.Shows listed) :
    ∃ around, session.tree.root.outlineAt session.path.parent.below =
      some (.directory around) := by
  rcases List.eq_nil_or_concat session.path.below with atHome | ⟨front, last, below⟩
  · refine ⟨listed, ?_⟩
    rw [Shows, atHome] at here
    rw [Path.parent, atHome]
    exact here
  · rw [Shows, below, List.concat_eq_append] at here
    rw [Path.parent, below, List.concat_eq_append, List.dropLast_concat]
    exact Node.outlineAt_of_append here (by simp)

theorem exists_outlineAt_home (here : session.Shows listed) :
    ∃ root, session.tree.root.outlineAt [] = some (.directory root) := by
  by_cases atHome : session.path.below = []
  · exact ⟨listed, by rwa [Shows, atHome] at here⟩
  · rw [Shows, ← List.nil_append session.path.below] at here
    exact Node.outlineAt_of_append here atHome

end Looking

/-- What every reachable session can rely on. -/
structure Sound (session : Session) : Prop where
  home_first : session.path.segments.head? = some "home"
  stands_in_directory : ∃ directory, session.tree.directoryAt session.path = .ok directory
  names_distinct : session.tree.root.NamesDistinct

theorem Sound.exists_shows {session : Session} (sound : session.Sound) :
    ∃ listed, session.Shows listed :=
  exists_shows_iff.mpr sound.stands_in_directory

theorem sound_new : new.Sound where
  home_first := rfl
  stands_in_directory := ⟨FileTree.starter.root, rfl⟩
  names_distinct := FileTree.namesDistinct_starter

/-- No command takes a session out of the directories of its tree or doubles a name. -/
theorem Effect.sound {session after : Session} {command : Command}
    (effect : session.Effect command after) (sound : session.Sound) : after.Sound := by
  obtain ⟨listed, here⟩ := sound.exists_shows
  cases effect with
  | unchanged => exact sound
  | @moved destination path leads =>
      refine ⟨rfl, exists_shows_iff.mp ?_, sound.names_distinct⟩
      cases destination with
      | home =>
          obtain rfl := leads
          obtain ⟨root, outlined⟩ := exists_outlineAt_home here
          exact ⟨root, outlined⟩
      | parent =>
          obtain rfl := leads
          obtain ⟨around, outlined⟩ := exists_outlineAt_parent here
          exact ⟨around, outlined⟩
      | child name => exact FileTree.isDirectory_iff.mp leads.2
  | grown growth =>
      refine ⟨rfl, exists_shows_iff.mp (growth.outlineAt_directory here), ?_⟩
      exact growth.namesDistinct (Node.namesDistinct_blank _) sound.names_distinct

theorem Sound.remember {session : Session} (sound : session.Sound) (line : String) :
    (session.remember line).Sound :=
  ⟨sound.1, sound.2, sound.3⟩

theorem Reachable.sound {session : Session} (reachable : Reachable session) :
    session.Sound := by
  refine reachable.induction_on_effect sound_new ?_ ?_
  · exact fun _ line sound => sound.remember line
  · exact fun _ _ _ effect sound => effect.sound sound

/-- A reachable session stands in a directory of a tree with distinct names, below home.  So
`ls` lists, a change to the directory around it succeeds, and an entry cannot be made exactly
when its name is taken where the session stands. -/
theorem Reachable.invariant {session : Session} (reachable : Reachable session) :
    session.Sound ∧
      (∃ entries, session.tree.list session.path = .ok entries ∧
        ∀ clock, session.run clock .ls =
          (session, .framed (entries.map fun entry => .entry entry.1 entry.2))) ∧
      (∃ around, session.tree.directoryAt session.path.parent = .ok around ∧
        ∀ clock, session.run clock (.cd .parent) =
          ({ session with path := session.path.parent }, .blank)) ∧
      ∀ kind name,
        (∀ failure, session.tree.insertAt session.path name (.blank kind) = .error failure →
          failure = .alreadyExists name) ∧
        ∀ clock, (session.run clock (.create kind name)).2.isError = true ↔
          ∃ node, session.tree.entryAt session.path name = .ok node := by
  have sound := reachable.sound
  obtain ⟨listed, here⟩ := sound.exists_shows
  refine ⟨sound, ⟨_, FileTree.list_eq_of_outlineAt here, ?_⟩, ?_, ?_⟩
  · intro clock
    rw [run, listing, FileTree.list_eq_of_outlineAt here]
  · obtain ⟨around, found⟩ := FileTree.exists_directoryAt_iff.mpr (exists_outlineAt_parent here)
    exact ⟨around, found, fun _ => rfl⟩
  · intro kind name
    refine ⟨fun failure failed => ((FileTree.insertAt_eq_error_iff here).mp failed).2, ?_⟩
    intro clock
    rw [run_create, ← mem_names_iff_entryAt here]
    by_cases taken : name ∈ listed.map Prod.fst
    · rw [create_of_taken here kind taken]
      exact iff_of_true rfl taken
    · obtain ⟨tree, _, created⟩ := create_of_free here kind taken
      rw [created]
      exact iff_of_false Bool.false_ne_true taken

/-- A directory of the name `..` can be entered by a command of its own, and inside it the
session can rely on the same. -/
theorem Reachable.invariant_inside_dots :
    let inside := ((Session.new.perform (.command ⟨0, 0⟩ (.mkdir ".."))).1.perform
      (.command ⟨0, 0⟩ (.cd (.child "..")))).1
    Reachable inside ∧ inside.path.segments = ["home", ".."] ∧ inside.Sound ∧
      ((inside.run ⟨0, 0⟩ (.touch "")).2.isError = true ↔
        ∃ node, inside.tree.entryAt inside.path "" = .ok node) := by
  intro inside
  have reachable : Reachable inside := .perform (.perform .new _) _
  exact ⟨reachable, by decide, reachable.invariant.1,
    (reachable.invariant.2.2.2 .file "").2 ⟨0, 0⟩⟩

end Session

end PocketShell
