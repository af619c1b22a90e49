import PocketShell.Proofs.Tree.Growth

/-!
# All entries of a tree

A property of entries regards the name of an entry and its content, which only
files have.  A tree whose entries all have the property, at any depth, keeps it
when it grows by an entry that has it too.  Then a directory lists only such
entries, and only names of such entries lead to it.
-/

namespace PocketShell

namespace Node

/-- Every entry in the tree, however deep, has the property. -/
inductive EachEntry (property : String → Option String → Prop) : Node → Prop where
  | file (content : String) : EachEntry property (.file content)
  | directory {entries : List (String × Node)}
      (here : ∀ entry ∈ entries, property entry.1 entry.2.content?)
      (inside : ∀ entry ∈ entries, EachEntry property entry.2) :
      EachEntry property (.directory entries)

variable {property weaker : String → Option String → Prop}
variable {root grown added : Node} {names : List String} {name : String}
variable {listed : List (String × Option String)}

theorem eachEntry_ofContent? (content? : Option String) :
    (ofContent? content?).EachEntry property := by
  cases content? with
  | none => exact .directory (by simp) (by simp)
  | some content => exact .file content

theorem eachEntry_blank (kind : EntryKind) : (blank kind).EachEntry property := by
  cases kind with
  | directory => exact eachEntry_ofContent? none
  | file => exact eachEntry_ofContent? (some "")

theorem EachEntry.mono (each : root.EachEntry property)
    (implies : ∀ name content?, property name content? → weaker name content?) :
    root.EachEntry weaker := by
  induction each with
  | file content => exact .file content
  | directory here inside ih =>
      exact .directory (fun entry mem => implies _ _ (here entry mem)) ih

theorem GrownAt.eachEntry (growth : GrownAt name added names root grown)
    (addedHas : property name added.content?) (addedEach : added.EachEntry property)
    (rootEach : root.EachEntry property) : grown.EachEntry property := by
  induction growth with
  | here free =>
      cases rootEach with
      | directory here inside =>
          refine .directory ?_ ?_
          · rw [List.forall_mem_append, List.forall_mem_singleton]
            exact ⟨here, addedHas⟩
          · rw [List.forall_mem_append, List.forall_mem_singleton]
            exact ⟨inside, addedEach⟩
  | @inside front back step names old new first growth ih =>
      cases rootEach with
      | directory here inside =>
          rw [List.forall_mem_append, List.forall_mem_cons] at here inside
          obtain ⟨beforeHas, oldHas, afterHas⟩ := here
          obtain ⟨beforeEach, oldEach, afterEach⟩ := inside
          obtain ⟨oldContent, newContent⟩ := growth.content?_eq_none
          refine .directory ?_ ?_
          · rw [List.forall_mem_append, List.forall_mem_cons]
            refine ⟨beforeHas, ?_, afterHas⟩
            rwa [newContent, ← oldContent]
          · rw [List.forall_mem_append, List.forall_mem_cons]
            exact ⟨beforeEach, ih oldEach, afterEach⟩

theorem content?_eq_none_of_outlineAt
    (here : root.outlineAt names = some (.directory listed)) : root.content? = none := by
  cases root with
  | directory entries => rfl
  | file content =>
      cases names with
      | nil => simp [outline] at here
      | cons step rest => simp at here

theorem EachEntry.of_mem_listed (each : root.EachEntry property)
    (here : root.outlineAt names = some (.directory listed)) :
    ∀ entry ∈ listed, property entry.1 entry.2 := by
  induction names generalizing root with
  | nil =>
      cases each with
      | file content => simp [outline] at here
      | directory has inside =>
          simp only [outlineAt_nil, outline, Option.some.injEq, Outline.directory.injEq] at here
          subst here
          intro shown mem
          obtain ⟨entry, entryMem, rfl⟩ := List.mem_map.mp mem
          exact has entry entryMem
  | cons step names ih =>
      cases each with
      | file content => simp at here
      | @directory entries has inside =>
          cases found : entries.lookup step with
          | none => simp [found] at here
          | some node =>
              obtain ⟨front, back, rfl, _⟩ := exists_split_of_lookup found
              rw [outlineAt_directory_cons, found, Option.bind_some] at here
              exact ih (inside (step, node) (by simp)) here

/-- Every name on the way to a directory is the name of a directory in the tree. -/
theorem EachEntry.of_mem_names (each : root.EachEntry property)
    (here : root.outlineAt names = some (.directory listed)) :
    ∀ name ∈ names, property name none := by
  induction names generalizing root with
  | nil => simp
  | cons step names ih =>
      cases each with
      | file content => simp at here
      | @directory entries has inside =>
          cases found : entries.lookup step with
          | none => simp [found] at here
          | some node =>
              obtain ⟨front, back, rfl, _⟩ := exists_split_of_lookup found
              rw [outlineAt_directory_cons, found, Option.bind_some] at here
              intro name mem
              rcases List.mem_cons.mp mem with rfl | later
              · have stepHas : property name node.content? := has (name, node) (by simp)
                rwa [content?_eq_none_of_outlineAt here] at stepHas
              · exact ih (inside (step, node) (by simp)) here name later

end Node

theorem FileTree.eachEntry_starter {property : String → Option String → Prop}
    (has : ∀ entry ∈ starterEntries, property entry.name entry.content?) :
    starter.root.EachEntry property := by
  refine @starter_induction (fun tree => tree.root.EachEntry property)
    (Node.eachEntry_ofContent? none) ?_
  intro entry listed tree grown growth each
  refine growth.eachEntry ?_ (Node.eachEntry_ofContent? _) each
  rw [Node.content?_ofContent?]
  exact has entry listed

end PocketShell
