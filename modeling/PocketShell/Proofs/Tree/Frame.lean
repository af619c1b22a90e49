import PocketShell.Proofs.Tree.Growth

/-!
# The frame of an insertion

What can be read of a tree after an insertion, stated for every path.  Below the
new entry stands what was inserted; its directory lists it behind the others; and
every path that does not lead through it finds what it found before.  An
insertion that fails leaves the tree as it was, although it may have walked far
into it.
-/

namespace PocketShell

namespace Node

variable {root : Node} {names : List String}

/-- The walk for a change does not change anything by itself. -/
theorem replacedBy_node {place : Place} (reached : root.placeAt names = .ok place) :
    place.replacedBy place.node = root := by
  induction names generalizing root place with
  | nil =>
      rw [placeAt, Except.ok.injEq] at reached
      rw [← reached]
  | cons step rest ih =>
      obtain ⟨front, entry, back, inner, rfl, first, walked, rfl⟩ :=
        placeAt_cons_eq_ok_iff.mp reached
      have entryAgain : inner.replacedBy inner.node = entry := ih walked
      simp only [entryAgain]

theorem resolve_eq_file_iff {content : String} :
    root.resolve names = .ok (.file content) ↔ root.outlineAt names = some (.file content) := by
  unfold outlineAt
  cases root.resolve names with
  | error failure => simp
  | ok node => cases node <;> simp [outline]

/-- There is one way only in which names lead nowhere. -/
theorem resolve_eq_error_iff {failure : TreeError} :
    root.resolve names = .error failure ↔
      root.outlineAt names = none ∧ failure = .directoryNotFound := by
  induction names generalizing root with
  | nil => simp [resolve]
  | cons step rest ih =>
      cases root with
      | file content => simp [resolve, child, eq_comm]
      | directory entries =>
          cases found : entries.lookup step with
          | none => simp [resolve, child, found, eq_comm]
          | some entry => simpa [resolve, child, found] using ih

end Node

namespace FileTree

/-- Where no directory is, there is nothing to list. -/
theorem list_eq_error {tree : FileTree} {path : Path}
    (noDirectory : ∀ listed, tree.root.outlineAt path.below ≠ some (.directory listed)) :
    tree.list path = .error .directoryNotFound := by
  unfold list directoryAt nodeAt
  cases reached : tree.root.resolve path.below with
  | error failure => rw [(Node.resolve_eq_error_iff.mp reached).2]
  | ok node =>
      cases node with
      | file content => rfl
      | directory entries =>
          have here := Node.outlineAt_eq_directory_iff.mpr ⟨entries, reached, rfl⟩
          exact absurd here (noDirectory _)

/-- What a path lists follows from the outline there. -/
theorem list_eq_of_outline_eq {tree other : FileTree} {path : Path}
    (same : other.root.outlineAt path.below = tree.root.outlineAt path.below) :
    other.list path = tree.list path := by
  by_cases directory : ∃ listed, tree.root.outlineAt path.below = some (.directory listed)
  · obtain ⟨listed, here⟩ := directory
    rw [list_eq_of_outlineAt here, list_eq_of_outlineAt (same.trans here)]
  · rw [not_exists] at directory
    rw [list_eq_error directory, list_eq_error (by rwa [same])]

/-- The tree that an insertion in place leaves behind, whether it ends well or not. -/
def afterInsertAt (tree : FileTree) (path : Path) (name : String) (added : Node) : FileTree :=
  match tree.root.placeAt path.below with
  | .error _ => tree
  | .ok place =>
      match place.node.insert name added with
      | .error _ => ⟨place.replacedBy place.node⟩
      | .ok grown => ⟨place.replacedBy grown⟩

variable {tree grown : FileTree} {path query : Path} {name : String} {added : Node}

theorem afterInsertAt_of_ok (inserted : tree.insertAt path name added = .ok grown) :
    tree.afterInsertAt path name added = grown := by
  unfold insertAt at inserted
  unfold afterInsertAt
  cases reached : tree.root.placeAt path.below with
  | error failure => simp [reached] at inserted
  | ok place =>
      cases nodeInserted : place.node.insert name added with
      | error failure => simp [reached, nodeInserted] at inserted
      | ok node =>
          simp only [reached, nodeInserted, Except.ok.injEq] at inserted ⊢
          exact inserted

/-- A failure comes on the way or at the node that was reached, which is put back then. -/
theorem afterInsertAt_of_error {failure : TreeError}
    (failed : tree.insertAt path name added = .error failure) :
    tree.afterInsertAt path name added = tree := by
  unfold insertAt at failed
  unfold afterInsertAt
  cases reached : tree.root.placeAt path.below with
  | error walkFailure => rfl
  | ok place =>
      cases nodeInserted : place.node.insert name added with
      | error nodeFailure => simp only [nodeInserted, Node.replacedBy_node reached]
      | ok node => simp [reached, nodeInserted] at failed

/-- The directory that gained the entry lists it behind the others, by its kind. -/
theorem list_of_grownAt
    (growth : Node.GrownAt name added path.below tree.root grown.root) :
    ∃ shown, tree.list path = .ok shown ∧
      grown.list path = .ok (shown ++ [(added.kind, name)]) := by
  obtain ⟨listed, _, before, after⟩ := growth.outlineAt_self
  refine ⟨_, list_eq_of_outlineAt before, ?_⟩
  rw [list_eq_of_outlineAt after, List.map_append, List.map_singleton,
    EntryKind.ofContent?_content?]

/-- Where the path does not lead through the new entry, a node is found or missed as before, a
file has the content that it had, and a directory other than that of the entry lists the same. -/
theorem frame_of_grownAt
    (growth : Node.GrownAt name added path.below tree.root grown.root)
    (outside : ¬ (path.join name).below <+: query.below) :
    (∀ failure, grown.nodeAt query = .error failure ↔ tree.nodeAt query = .error failure) ∧
      (∀ content, grown.nodeAt query = .ok (.file content) ↔
        tree.nodeAt query = .ok (.file content)) ∧
      (query ≠ path → grown.list query = tree.list query) := by
  by_cases same : query = path
  · subst same
    obtain ⟨entries, _, before, after⟩ := growth.resolve_self
    refine ⟨?_, ?_, fun differs => absurd rfl differs⟩
    · simp [nodeAt, before, after]
    · simp [nodeAt, before, after]
  · have differs : query.below ≠ path.below := by
      intro sameNames
      cases query
      cases path
      exact same (congrArg Path.mk sameNames)
    have outlineSame : grown.root.outlineAt query.below = tree.root.outlineAt query.below :=
      growth.outlineAt_of_ne differs outside
    refine ⟨?_, ?_, fun _ => list_eq_of_outline_eq outlineSame⟩
    · intro failure
      rw [nodeAt, nodeAt, Node.resolve_eq_error_iff, Node.resolve_eq_error_iff, outlineSame]
    · intro content
      rw [nodeAt, nodeAt, Node.resolve_eq_file_iff, Node.resolve_eq_file_iff, outlineSame]

/-- An insertion changes one place of the tree and nothing else.  If it succeeds, the paths that
begin with that of the new entry lead into what was inserted; no other path finds more or less
than before, or another content; the directory of the entry lists it behind the others, and all
other directories list what they listed.  If it fails, the tree is the one before. -/
theorem insertAt_changes_one_place (tree : FileTree) (path : Path) (name : String)
    (added : Node) :
    match tree.insertAt path name added with
    | .ok grown =>
        tree.afterInsertAt path name added = grown ∧
          (∀ rest, grown.nodeAt ⟨(path.join name).below ++ rest⟩ = added.resolve rest) ∧
          (∀ query : Path, ¬ (path.join name).below <+: query.below →
            (∀ failure,
              grown.nodeAt query = .error failure ↔ tree.nodeAt query = .error failure) ∧
            (∀ content, grown.nodeAt query = .ok (.file content) ↔
              tree.nodeAt query = .ok (.file content)) ∧
            (query ≠ path → grown.list query = tree.list query)) ∧
          ∃ shown, tree.list path = .ok shown ∧
            grown.list path = .ok (shown ++ [(added.kind, name)])
    | .error _ => tree.afterInsertAt path name added = tree := by
  cases outcome : tree.insertAt path name added with
  | error failure => exact afterInsertAt_of_error outcome
  | ok grown =>
      have growth := insertAt_eq_ok_iff.mp outcome
      refine ⟨afterInsertAt_of_ok outcome, ?_, ?_, list_of_grownAt growth⟩
      · intro rest
        have begins : (path.join name).below ++ rest = path.below ++ name :: rest := by
          rw [Path.join, List.append_assoc, List.singleton_append]
        rw [nodeAt, begins, growth.resolve_added]
      · intro query outside
        exact frame_of_grownAt growth outside

example :
    (FileTree.starter.insertAt ⟨["projects"]⟩ "web" .emptyDirectory).map
        (fun grown => (grown.list .home, grown.list ⟨["projects"]⟩)) =
      .ok (FileTree.starter.list .home, .ok [(.file, "app.js"), (.directory, "web")]) := by
  rfl

end FileTree

end PocketShell
