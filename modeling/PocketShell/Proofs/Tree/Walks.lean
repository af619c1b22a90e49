import PocketShell.Proofs.Tree.Frame

/-!
# The two walks

A tree is read by one walk and changed by another, and each has checks of its own
on the way.  Main statement: they reach the same node by the same names, at a
place where reading finds what changing puts there, or fail in the same way.  So
what can be read of a tree tells how an insertion ends.
-/

namespace PocketShell

/-- The place where the names lead in the tree below the root: what stands there is what is
read, the tree with that node is the tree itself, and another node put there is read there. -/
structure Place.IsAt (place : Place) (root : Node) (names : List String) : Prop where
  resolve_names : root.resolve names = .ok place.node
  replacedBy_node : place.replacedBy place.node = root
  resolve_replacedBy : ∀ other rest,
    (place.replacedBy other).resolve (names ++ rest) = other.resolve rest

namespace Node

variable {root : Node} {names : List String} {place : Place}

theorem resolve_replacedBy (reached : root.placeAt names = .ok place) (other : Node)
    (rest : List String) :
    (place.replacedBy other).resolve (names ++ rest) = other.resolve rest := by
  induction names generalizing root place with
  | nil =>
      rw [placeAt, Except.ok.injEq] at reached
      subst reached
      rfl
  | cons step names ih =>
      obtain ⟨front, entry, back, inner, rfl, first, walked, rfl⟩ :=
        placeAt_cons_eq_ok_iff.mp reached
      simp only [List.cons_append, resolve, child, lookup_append_cons_self _ first]
      exact ih walked

theorem placeAt_eq_error_iff {failure : TreeError} :
    root.placeAt names = .error failure ↔ root.resolve names = .error failure := by
  rw [← map_node_placeAt]
  cases root.placeAt names <;> simp [Except.map]

theorem isAt_of_placeAt (reached : root.placeAt names = .ok place) : place.IsAt root names where
  resolve_names := by rw [← map_node_placeAt, reached]; rfl
  replacedBy_node := replacedBy_node reached
  resolve_replacedBy := resolve_replacedBy reached

/-- The walk for a change succeeds where reading does, and at the same node. -/
theorem exists_placeAt {node : Node} (reached : root.resolve names = .ok node) :
    ∃ place, root.placeAt names = .ok place ∧ place.node = node ∧ place.IsAt root names := by
  cases walked : root.placeAt names with
  | error failure =>
      rw [placeAt_eq_error_iff.mp walked] at reached
      contradiction
  | ok place =>
      have placeIsAt := isAt_of_placeAt walked
      have sameNode : place.node = node :=
        Except.ok.inj (placeIsAt.resolve_names.symm.trans reached)
      exact ⟨place, rfl, sameNode, placeIsAt⟩

end Node

namespace FileTree

variable {tree : FileTree} {path : Path} {name : String} {added : Node}

/-- Whether an insertion succeeds, and how it fails if not. -/
def insertOutcome (tree : FileTree) (path : Path) (name : String) (added : Node) :
    Except TreeError Unit :=
  (tree.insertAt path name added).map fun _ => ()

theorem insertOutcome_eq_ok_iff :
    tree.insertOutcome path name added = .ok () ↔
      ∃ grown, tree.insertAt path name added = .ok grown := by
  unfold insertOutcome
  cases tree.insertAt path name added <;> simp [Except.map]

theorem insertOutcome_eq_error_iff {failure : TreeError} :
    tree.insertOutcome path name added = .error failure ↔
      tree.insertAt path name added = .error failure := by
  unfold insertOutcome
  cases tree.insertAt path name added <;> simp [Except.map]

/-- An insertion ends at the node that is read at the path. -/
theorem insertOutcome_of_nodeAt {node : Node} (reached : tree.nodeAt path = .ok node) :
    tree.insertOutcome path name added = (node.insert name added).map fun _ => () := by
  obtain ⟨place, walked, rfl, _⟩ := Node.exists_placeAt reached
  simp only [insertOutcome, insertAt, walked]
  cases place.node.insert name added <;> rfl

/-- How an insertion ends is told by the node that is read at the path. -/
theorem insertOutcome_eq (tree : FileTree) (path : Path) (name : String) (added : Node) :
    tree.insertOutcome path name added =
      match tree.nodeAt path with
      | .error _ => .error .directoryNotFound
      | .ok (.file _) => .error .notADirectory
      | .ok (.directory entries) =>
          if name ∈ entries.map Prod.fst then .error (.alreadyExists name) else .ok () := by
  cases reached : tree.nodeAt path with
  | error failure =>
      obtain ⟨_, rfl⟩ := Node.resolve_eq_error_iff.mp reached
      have walkFails : tree.root.placeAt path.below = .error .directoryNotFound :=
        Node.placeAt_eq_error_iff.mpr reached
      simp only [insertOutcome, insertAt, walkFails]
      rfl
  | ok node =>
      rw [insertOutcome_of_nodeAt reached]
      cases node with
      | file content => rfl
      | directory entries =>
          rw [Node.insert_directory, apply_ite (Except.map _)]
          rfl

/-- The entry that is looked up in a directory, in the same cases. -/
theorem entryAt_eq (tree : FileTree) (path : Path) (name : String) :
    tree.entryAt path name =
      match tree.nodeAt path with
      | .error _ => .error .directoryNotFound
      | .ok (.file _) => .error .directoryNotFound
      | .ok (.directory entries) =>
          match entries.lookup name with
          | some entry => .ok entry
          | none => .error (.notFound name) := by
  unfold entryAt directoryAt
  cases reached : tree.nodeAt path with
  | error failure =>
      obtain ⟨_, rfl⟩ := Node.resolve_eq_error_iff.mp reached
      rfl
  | ok node => cases node <;> rfl

/-- On every tree and for all names, the walk for a change reaches the node that is read there,
and fails exactly when reading fails, both for want of a directory.  So an insertion fails for
want of a directory exactly when nothing is read at the path, for standing at a file exactly when
a file is read there, and for the name exactly when an entry of the name is found; it succeeds
exactly when all that is missing is an entry of the name; and it ends in no other way. -/
theorem insertAt_told_by_reading (root : Node) (names : List String) (tree : FileTree)
    (path : Path) (name : String) (added : Node) :
    (match root.resolve names with
      | .ok node =>
          ∃ place, root.placeAt names = .ok place ∧ place.node = node ∧ place.IsAt root names
      | .error failure =>
          failure = .directoryNotFound ∧ root.placeAt names = .error .directoryNotFound) ∧
    (tree.insertAt path name added = .error .directoryNotFound ↔
      ∃ failure, tree.nodeAt path = .error failure) ∧
    (tree.insertAt path name added = .error .notADirectory ↔
      ∃ content, tree.nodeAt path = .ok (.file content)) ∧
    (tree.insertAt path name added = .error (.alreadyExists name) ↔
      ∃ entry, tree.entryAt path name = .ok entry) ∧
    ((∃ grown, tree.insertAt path name added = .ok grown) ↔
      tree.entryAt path name = .error (.notFound name)) ∧
    ∀ failure, tree.insertAt path name added = .error failure →
      failure = .directoryNotFound ∨ failure = .notADirectory ∨ failure = .alreadyExists name := by
  constructor
  · cases reached : root.resolve names with
    | ok node => exact Node.exists_placeAt reached
    | error failure =>
        obtain ⟨_, rfl⟩ := Node.resolve_eq_error_iff.mp reached
        exact ⟨rfl, Node.placeAt_eq_error_iff.mpr reached⟩
  · simp only [← insertOutcome_eq_error_iff, ← insertOutcome_eq_ok_iff]
    rw [insertOutcome_eq, entryAt_eq]
    -- What is read at the path, and for a directory whether the name is in it, are all the cases.
    cases tree.nodeAt path with
    | error failure => simp
    | ok node =>
        cases node with
        | file content => simp
        | directory entries =>
            cases found : entries.lookup name with
            | none =>
                have free : name ∉ entries.map Prod.fst :=
                  lookup_eq_none_iff_not_mem_names.mp found
                simp [free, found]
            | some entry =>
                have taken : name ∈ entries.map Prod.fst :=
                  isSome_lookup_iff_mem_names.mp (by rw [found]; rfl)
                simp [taken, found]

end FileTree

end PocketShell
