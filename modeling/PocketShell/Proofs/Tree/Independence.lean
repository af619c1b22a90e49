import PocketShell.Proofs.Tree.Sameness
import PocketShell.Proofs.Tree.Walks

/-!
# Independent insertions

Two insertions are apart when neither new entry would stand at the other one or
below it.  Main statement: then it does not matter which of them comes first.
Each ends as it would without the other, and both orders lead to the same tree.
The entries of one directory may stand in another order, so the two trees are
compared by what is seen in them.
-/

namespace PocketShell

namespace FileTree

/-- How an insertion ends is told by what is seen where the directory should be and where the new
entry should be. -/
theorem insertOutcome_eq_of_seenAt (tree : FileTree) (path : Path) (name : String)
    (added : Node) :
    tree.insertOutcome path name added =
      match tree.root.seenAt path.below with
      | none => .error .directoryNotFound
      | some (some _) => .error .notADirectory
      | some none =>
          if (tree.root.seenAt (path.join name).below).isSome = true then
            .error (.alreadyExists name)
          else .ok () := by
  rw [insertOutcome_eq]
  cases reached : tree.nodeAt path with
  | error failure =>
      have seen : tree.root.seenAt path.below = none :=
        Node.seenAt_eq_none_iff.mpr ⟨failure, reached⟩
      rw [seen]
  | ok node =>
      cases node with
      | file content =>
          have seen : tree.root.seenAt path.below = some (some content) :=
            Node.seenAt_eq_file_iff.mpr reached
          rw [seen]
      | directory entries =>
          have seen : tree.root.seenAt path.below = some none :=
            Node.seenAt_eq_directory_iff.mpr ⟨entries, reached⟩
          have entrySeen : tree.root.seenAt (path.join name).below =
              (Node.directory entries).seenAt [name] := Node.seenAt_append reached [name]
          simp only [seen, entrySeen, Node.isSome_seenAt_singleton]

end FileTree

/-- An entry to be inserted: the directory for it, its name, and what is to stand under the name,
where no directory holds a name twice. -/
structure Insertion where
  directory : Path
  name : String
  added : Node
  namesDistinct : added.NamesDistinct

namespace Insertion

/-- The path that the new entry would have. -/
def target (insertion : Insertion) : Path :=
  insertion.directory.join insertion.name

def outcome (insertion : Insertion) (tree : FileTree) : Except TreeError Unit :=
  tree.insertOutcome insertion.directory insertion.name insertion.added

/-- The tree after the insertion was tried. -/
def apply (insertion : Insertion) (tree : FileTree) : FileTree :=
  tree.afterInsertAt insertion.directory insertion.name insertion.added

/-- Whether neither of the new entries would stand at the other one or below it. -/
def Apart (first second : Insertion) : Prop :=
  ¬ first.target.below <+: second.target.below ∧ ¬ second.target.below <+: first.target.below

variable {insertion first second : Insertion} {tree other : FileTree} {query : List String}

theorem grownAt_of_outcome (succeeded : insertion.outcome tree = .ok ()) :
    Node.GrownAt insertion.name insertion.added insertion.directory.below tree.root
      (insertion.apply tree).root := by
  obtain ⟨grown, inserted⟩ := FileTree.insertOutcome_eq_ok_iff.mp succeeded
  rw [apply, FileTree.afterInsertAt_of_ok inserted]
  exact FileTree.insertAt_eq_ok_iff.mp inserted

theorem apply_of_outcome {failure : TreeError} (failed : insertion.outcome tree = .error failure) :
    insertion.apply tree = tree :=
  FileTree.afterInsertAt_of_error (FileTree.insertOutcome_eq_error_iff.mp failed)

theorem namesDistinct_apply (insertion : Insertion) (treeDistinct : tree.root.NamesDistinct) :
    (insertion.apply tree).root.NamesDistinct := by
  cases ended : insertion.outcome tree with
  | error failure => rwa [apply_of_outcome ended]
  | ok => exact (grownAt_of_outcome ended).namesDistinct insertion.namesDistinct treeDistinct

/-- Where the new entry is not on the way, the insertion changes nothing that is seen. -/
theorem seenAt_apply_outside (outside : ¬ insertion.target.below <+: query) :
    (insertion.apply tree).root.seenAt query = tree.root.seenAt query := by
  cases ended : insertion.outcome tree with
  | error failure => rw [apply_of_outcome ended]
  | ok => exact (grownAt_of_outcome ended).seenAt_outside outside

/-- What is seen after an insertion depends on how the insertion ends and on what was seen there
before, and on nothing else of the tree. -/
theorem seenAt_apply_congr (sameOutcome : insertion.outcome other = insertion.outcome tree)
    (seen : other.root.seenAt query = tree.root.seenAt query) :
    (insertion.apply other).root.seenAt query = (insertion.apply tree).root.seenAt query := by
  cases ended : insertion.outcome tree with
  | error failure =>
      rw [apply_of_outcome ended, apply_of_outcome (sameOutcome.trans ended), seen]
  | ok =>
      have growth := grownAt_of_outcome ended
      have otherGrowth := grownAt_of_outcome (sameOutcome.trans ended)
      by_cases inside : insertion.target.below <+: query
      · obtain ⟨rest, rfl⟩ := inside
        exact (otherGrowth.seenAt_inside rest).trans (growth.seenAt_inside rest).symm
      · rw [seenAt_apply_outside inside, seenAt_apply_outside inside, seen]

theorem outcome_congr
    (sameDirectory : other.root.seenAt insertion.directory.below =
      tree.root.seenAt insertion.directory.below)
    (sameTarget : other.root.seenAt insertion.target.below =
      tree.root.seenAt insertion.target.below) :
    insertion.outcome other = insertion.outcome tree := by
  rw [target] at sameTarget
  rw [outcome, outcome, FileTree.insertOutcome_eq_of_seenAt, FileTree.insertOutcome_eq_of_seenAt,
    sameDirectory, sameTarget]

/-- An insertion ends as it would without another one whose entry is not on the way to its own. -/
theorem outcome_apply (outside : ¬ second.target.below <+: first.target.below) :
    first.outcome (second.apply tree) = first.outcome tree := by
  have outsideDirectory : ¬ second.target.below <+: first.directory.below := by
    intro begins
    exact outside (begins.trans (List.prefix_append _ _))
  exact outcome_congr (seenAt_apply_outside outsideDirectory) (seenAt_apply_outside outside)

/-- Two insertions that are apart end in the same way whichever comes first, and lead to the same
tree but for the order of entries. -/
theorem apart_insertions_commute (treeDistinct : tree.root.NamesDistinct)
    (apart : first.Apart second) :
    first.outcome (second.apply tree) = first.outcome tree ∧
      second.outcome (first.apply tree) = second.outcome tree ∧
      (second.apply (first.apply tree)).same (first.apply (second.apply tree)) = true := by
  obtain ⟨firstOutside, secondOutside⟩ := apart
  have firstEnds : first.outcome (second.apply tree) = first.outcome tree :=
    outcome_apply secondOutside
  have secondEnds : second.outcome (first.apply tree) = second.outcome tree :=
    outcome_apply firstOutside
  refine ⟨firstEnds, secondEnds, ?_⟩
  rw [FileTree.same, Node.same_iff_seenAt
    (second.namesDistinct_apply (first.namesDistinct_apply treeDistinct))
    (first.namesDistinct_apply (second.namesDistinct_apply treeDistinct))]
  intro query
  -- No names lead through both new entries, so at least one insertion does not matter to them.
  by_cases throughSecond : second.target.below <+: query
  · have notThroughFirst : ¬ first.target.below <+: query := by
      intro throughFirst
      rcases List.prefix_or_prefix_of_prefix throughFirst throughSecond with begins | begins
      · exact firstOutside begins
      · exact secondOutside begins
    rw [seenAt_apply_outside notThroughFirst]
    exact seenAt_apply_congr secondEnds (seenAt_apply_outside notThroughFirst)
  · rw [seenAt_apply_outside throughSecond]
    exact (seenAt_apply_congr firstEnds (seenAt_apply_outside throughSecond)).symm

/-- Two entries of one directory stand in the order in which they were inserted, and the trees are
the same all the same. -/
theorem apart_insertions_commute_in_one_directory :
    let first : Insertion :=
      ⟨⟨["projects"]⟩, "web", .emptyDirectory, Node.namesDistinct_blank .directory⟩
    let second : Insertion := ⟨⟨["projects"]⟩, "notes", .file "1", .file "1"⟩
    FileTree.starter.root.NamesDistinct ∧ first.Apart second ∧
      first.outcome FileTree.starter = .ok () ∧
      (second.apply (first.apply .starter)).list ⟨["projects"]⟩ ≠
        (first.apply (second.apply .starter)).list ⟨["projects"]⟩ ∧
      first.outcome (second.apply .starter) = .ok () ∧
      (second.apply (first.apply .starter)).same (first.apply (second.apply .starter)) = true := by
  intro first second
  have apart : first.Apart second := by
    unfold Apart
    decide
  have firstEnds : first.outcome FileTree.starter = .ok () := rfl
  obtain ⟨sameOutcome, _, same⟩ :=
    apart_insertions_commute FileTree.namesDistinct_starter apart
  exact ⟨FileTree.namesDistinct_starter, apart, firstEnds, by decide +kernel,
    sameOutcome.trans firstEnds, same⟩

end Insertion

end PocketShell
