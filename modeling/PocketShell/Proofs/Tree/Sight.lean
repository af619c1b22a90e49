import PocketShell.Proofs.Tree.Growth

/-!
# What is seen of a tree

Names that are followed into a tree lead nowhere, to a directory or to a file, and
of a file the content is seen.  This is less than an outline: a directory is seen
to be there, but not what is in it.  So insertion changes what is seen at the new
entry and below it, and nowhere else.
-/

namespace PocketShell

/-- The content of a file in outline, as for nodes. -/
def Outline.content? : Outline → Option String
  | .file content => some content
  | .directory _ => none

namespace Node

/-- What is seen of the node that the names lead to: the content of a file, and of a directory
nothing but that it is there. -/
def seenAt (root : Node) (names : List String) : Option (Option String) :=
  match root.resolve names with
  | .ok node => some node.content?
  | .error _ => none

variable {root grown added : Node} {names query : List String} {name : String}

@[simp]
theorem seenAt_nil (root : Node) : root.seenAt [] = some root.content? := by
  simp [seenAt, resolve]

@[simp]
theorem seenAt_file_cons (content name : String) (rest : List String) :
    (Node.file content).seenAt (name :: rest) = none := by
  simp [seenAt, resolve, child]

@[simp]
theorem seenAt_directory_cons (entries : List (String × Node)) (name : String)
    (rest : List String) :
    (Node.directory entries).seenAt (name :: rest) =
      (entries.lookup name).bind (·.seenAt rest) := by
  cases found : entries.lookup name with
  | none => simp [seenAt, resolve, child, found]
  | some entry => simp [seenAt, resolve, child, found]

theorem seenAt_eq_none_iff :
    root.seenAt names = none ↔ ∃ failure, root.resolve names = .error failure := by
  unfold seenAt
  cases root.resolve names <;> simp

theorem seenAt_eq_directory_iff :
    root.seenAt names = some none ↔ ∃ entries, root.resolve names = .ok (.directory entries) := by
  unfold seenAt
  cases root.resolve names with
  | error failure => simp
  | ok node => cases node <;> simp [content?]

theorem seenAt_eq_file_iff {content : String} :
    root.seenAt names = some (some content) ↔ root.resolve names = .ok (.file content) := by
  unfold seenAt
  cases root.resolve names with
  | error failure => simp
  | ok node => cases node <;> simp [content?]

theorem seenAt_eq_map_outlineAt (root : Node) (names : List String) :
    root.seenAt names = (root.outlineAt names).map Outline.content? := by
  unfold seenAt outlineAt
  cases root.resolve names with
  | error failure => rfl
  | ok node => cases node <;> rfl

/-- Names behind those that lead to a node are followed from the node on. -/
theorem seenAt_append {node : Node} (reached : root.resolve names = .ok node)
    (rest : List String) : root.seenAt (names ++ rest) = node.seenAt rest := by
  induction names generalizing root with
  | nil =>
      rw [resolve, Except.ok.injEq] at reached
      rw [List.nil_append, reached]
  | cons step names ih =>
      obtain ⟨entries, entry, rfl, found, entryReached⟩ := resolve_cons_eq_ok_iff.mp reached
      rw [List.cons_append, seenAt_directory_cons, found, Option.bind_some]
      exact ih entryReached

/-- Below the new entry the tree shows what was inserted. -/
theorem GrownAt.seenAt_inside (growth : GrownAt name added names root grown)
    (rest : List String) : grown.seenAt (names ++ [name] ++ rest) = added.seenAt rest := by
  rw [List.append_assoc, List.singleton_append, seenAt, growth.resolve_added, seenAt]

/-- Where the new entry is not on the way, the tree shows what it showed before. -/
theorem GrownAt.seenAt_outside (growth : GrownAt name added names root grown)
    (outside : ¬ names ++ [name] <+: query) : grown.seenAt query = root.seenAt query := by
  rw [seenAt_eq_map_outlineAt, seenAt_eq_map_outlineAt]
  by_cases same : query = names
  · subst same
    obtain ⟨listed, _, before, after⟩ := growth.outlineAt_self
    rw [before, after]
    rfl
  · rw [growth.outlineAt_of_ne same outside]

end Node

end PocketShell
