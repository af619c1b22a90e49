import PocketShell.Tree.FileTree

/-!
# Outlines of a tree

The reading walk and the changing walk reach the same nodes.  What commands read
of a node is its outline: the content of a file, or the names in a directory with
the content of each file among them.  The directories in a directory stay closed,
so an outline does not change when the tree grows below it.
-/

namespace PocketShell

section Entries

variable {α : Type} {name : String} {front back entries : List (String × α)}

theorem lookup_eq_none_iff_not_mem_names :
    entries.lookup name = none ↔ name ∉ entries.map Prod.fst := by
  rw [List.lookup_eq_none_iff]
  constructor
  · intro noneEqual member
    obtain ⟨entry, entryMem, rfl⟩ := List.mem_map.mp member
    simpa using noneEqual entry entryMem
  · intro absent entry entryMem
    have differs : name ≠ entry.1 := by
      rintro rfl
      exact absent (List.mem_map_of_mem entryMem)
    simpa using differs

theorem isSome_lookup_iff_mem_names :
    (entries.lookup name).isSome = true ↔ name ∈ entries.map Prod.fst := by
  rw [Option.isSome_iff_ne_none, ne_eq, lookup_eq_none_iff_not_mem_names,
    Classical.not_not]

/-- The entry that is found under a name is the first one of that name. -/
theorem exists_split_of_lookup {value : α} (found : entries.lookup name = some value) :
    ∃ front back, entries = front ++ (name, value) :: back ∧ name ∉ front.map Prod.fst := by
  obtain ⟨front, back, split, before⟩ := List.lookup_eq_some_iff.mp found
  refine ⟨front, back, split, ?_⟩
  rw [← lookup_eq_none_iff_not_mem_names, List.lookup_eq_none_iff]
  exact before

theorem lookup_append_cons_self (value : α) (first : name ∉ front.map Prod.fst) :
    (front ++ (name, value) :: back).lookup name = some value := by
  rw [List.lookup_append, lookup_eq_none_iff_not_mem_names.mpr first]
  simp

theorem lookup_append_cons_of_ne {other : String} (value : α) (differs : other ≠ name) :
    (front ++ (name, value) :: back).lookup other = (front ++ back).lookup other := by
  have notEqual : (other == name) = false := by simpa using differs
  rw [List.lookup_append, List.lookup_append, List.lookup_cons, notEqual]

theorem replaceEntry_append_cons (old new : α) (first : name ∉ front.map Prod.fst) :
    replaceEntry name new (front ++ (name, old) :: back) = front ++ (name, new) :: back := by
  induction front with
  | nil => simp [replaceEntry]
  | cons entry rest ih =>
      simp only [List.map_cons, List.mem_cons, not_or] at first
      simp [replaceEntry, Ne.symm first.1, ih first.2]

end Entries

/-- What a node shows while the directories in it stay closed. -/
inductive Outline where
  | file (content : String)
  /-- The names in a directory, those of files with their content. -/
  | directory (entries : List (String × Option String))
deriving DecidableEq, Repr

namespace Node

def outline : Node → Outline
  | .file content => .file content
  | .directory entries => .directory (entries.map fun entry => (entry.1, entry.2.content?))

/-- The outline of the node that the names lead to. -/
def outlineAt (root : Node) (names : List String) : Option Outline :=
  match root.resolve names with
  | .ok node => some node.outline
  | .error _ => none

@[simp]
theorem outlineAt_nil (root : Node) : root.outlineAt [] = some root.outline := by
  simp [outlineAt, resolve]

@[simp]
theorem outlineAt_file_cons (content name : String) (rest : List String) :
    (Node.file content).outlineAt (name :: rest) = none := by
  simp [outlineAt, resolve, child]

@[simp]
theorem outlineAt_directory_cons (entries : List (String × Node)) (name : String)
    (rest : List String) :
    (Node.directory entries).outlineAt (name :: rest) =
      (entries.lookup name).bind (·.outlineAt rest) := by
  cases found : entries.lookup name with
  | none => simp [outlineAt, resolve, child, found]
  | some entry => simp [outlineAt, resolve, child, found]

theorem lookup_outline (entries : List (String × Node)) (name : String) :
    (entries.map fun entry => (entry.1, entry.2.content?)).lookup name =
      (entries.lookup name).map Node.content? := by
  induction entries with
  | nil => rfl
  | cons entry rest ih =>
      rw [List.map_cons, List.lookup_cons, List.lookup_cons, ih]
      split <;> rfl

/-- Every name but the last on the way to a node is the name of a directory. -/
theorem outlineAt_of_append {root : Node} {front back : List String} {seen : Outline}
    (reached : root.outlineAt (front ++ back) = some seen) (goesOn : back ≠ []) :
    ∃ entries, root.outlineAt front = some (.directory entries) := by
  induction front generalizing root with
  | nil =>
      obtain ⟨name, rest, rfl⟩ := List.exists_cons_of_ne_nil goesOn
      cases root with
      | file content => simp at reached
      | directory entries => exact ⟨_, outlineAt_nil _⟩
  | cons name front ih =>
      cases root with
      | file content => simp at reached
      | directory entries =>
          cases found : entries.lookup name with
          | none => simp [found] at reached
          | some entry =>
              simp only [List.cons_append, outlineAt_directory_cons, found,
                Option.bind_some] at reached ⊢
              exact ih reached

/-- One name more leads from a directory to the entry of that name. -/
theorem outlineAt_append_singleton {root : Node} {names : List String} {name : String}
    {entries : List (String × Option String)}
    (here : root.outlineAt names = some (.directory entries)) :
    (∃ inside, root.outlineAt (names ++ [name]) = some (.directory inside)) ↔
      entries.lookup name = some none := by
  induction names generalizing root with
  | nil =>
      cases root with
      | file content => simp [outline] at here
      | directory nodes =>
          simp only [outlineAt_nil, outline, Option.some.injEq, Outline.directory.injEq] at here
          rw [← here, lookup_outline, List.nil_append, outlineAt_directory_cons]
          cases found : nodes.lookup name with
          | none => simp
          | some node => cases node <;> simp [outline, content?]
  | cons step names ih =>
      cases root with
      | file content => simp at here
      | directory nodes =>
          cases found : nodes.lookup step with
          | none => simp [found] at here
          | some node =>
              simp only [List.cons_append, outlineAt_directory_cons, found,
                Option.bind_some] at here ⊢
              exact ih here

theorem outlineAt_eq_directory_iff {root : Node} {names : List String}
    {listed : List (String × Option String)} :
    root.outlineAt names = some (.directory listed) ↔
      ∃ entries, root.resolve names = .ok (.directory entries) ∧
        (entries.map fun entry => (entry.1, entry.2.content?)) = listed := by
  unfold outlineAt
  cases reached : root.resolve names with
  | error failure => simp
  | ok node => cases node <;> simp [outline]

/-- The reading walk goes on from the entry of the first name. -/
theorem resolve_cons_eq_ok_iff {root node : Node} {step : String} {rest : List String} :
    root.resolve (step :: rest) = .ok node ↔
      ∃ entries entry, root = .directory entries ∧ entries.lookup step = some entry ∧
        entry.resolve rest = .ok node := by
  cases root with
  | file content => simp [resolve, child]
  | directory entries =>
      cases found : entries.lookup step with
      | none => simp [resolve, child, found]
      | some entry => simp [resolve, child, found]

/-- The changing walk goes on from the entry of the first name, and keeps the entries around it. -/
theorem placeAt_cons_eq_ok_iff {root : Node} {step : String} {rest : List String}
    {place : Place} :
    root.placeAt (step :: rest) = .ok place ↔
      ∃ front entry back inner, root = .directory (front ++ (step, entry) :: back) ∧
        step ∉ front.map Prod.fst ∧ entry.placeAt rest = .ok inner ∧
        place = ⟨inner.node, fun other =>
          .directory (front ++ (step, inner.replacedBy other) :: back)⟩ := by
  constructor
  · intro reached
    cases root with
    | file content => simp [placeAt] at reached
    | directory entries =>
        cases found : entries.lookup step with
        | none => simp [placeAt, found] at reached
        | some entry =>
            cases walked : entry.placeAt rest with
            | error failure => simp [placeAt, found, walked] at reached
            | ok inner =>
                simp only [placeAt, found, walked, Except.ok.injEq] at reached
                obtain ⟨front, back, rfl, first⟩ := exists_split_of_lookup found
                simp only [replaceEntry_append_cons entry _ first] at reached
                exact ⟨front, entry, back, inner, rfl, first, walked, reached.symm⟩
  · rintro ⟨front, entry, back, inner, rfl, first, walked, rfl⟩
    simp only [placeAt, lookup_append_cons_self entry first, walked,
      replaceEntry_append_cons entry _ first]

/-- The changing walk reaches the node that the reading walk reaches, or fails like it. -/
theorem map_node_placeAt (root : Node) (names : List String) :
    (root.placeAt names).map Place.node = root.resolve names := by
  induction names generalizing root with
  | nil => rw [placeAt, resolve]; rfl
  | cons name rest ih =>
      cases root with
      | file content => rw [placeAt, resolve, child]; rfl
      | directory entries =>
          cases found : entries.lookup name with
          | none => simp only [placeAt, resolve, child, found]; rfl
          | some entry =>
              simp only [placeAt, resolve, child, found]
              rw [← ih entry]
              cases entry.placeAt rest <;> rfl

end Node

/-- The kind of an entry by its content, which only files have. -/
def EntryKind.ofContent? : Option String → EntryKind
  | some _ => .file
  | none => .directory

theorem EntryKind.ofContent?_content? (node : Node) : ofContent? node.content? = node.kind := by
  cases node <;> rfl

namespace FileTree

variable {tree : FileTree} {path : Path} {name : String}
variable {listed : List (String × Option String)}

theorem directoryAt_eq_ok_iff {directory : Node} :
    tree.directoryAt path = .ok directory ↔
      ∃ entries, tree.root.resolve path.below = .ok (.directory entries) ∧
        directory = .directory entries := by
  unfold directoryAt nodeAt
  cases tree.root.resolve path.below with
  | error failure => simp
  | ok node =>
      cases node with
      | file content => simp
      | directory entries => simp [eq_comm]

theorem exists_directoryAt_iff :
    (∃ directory, tree.directoryAt path = .ok directory) ↔
      ∃ listed, tree.root.outlineAt path.below = some (.directory listed) := by
  simp only [directoryAt_eq_ok_iff, Node.outlineAt_eq_directory_iff]
  constructor
  · rintro ⟨_, entries, reached, _⟩
    exact ⟨_, entries, reached, rfl⟩
  · rintro ⟨_, entries, reached, _⟩
    exact ⟨_, entries, reached, rfl⟩

theorem isDirectory_iff :
    tree.isDirectory path = true ↔
      ∃ listed, tree.root.outlineAt path.below = some (.directory listed) := by
  rw [← exists_directoryAt_iff]
  unfold isDirectory
  cases tree.directoryAt path <;> simp

theorem isDirectory_join_iff
    (here : tree.root.outlineAt path.below = some (.directory listed)) :
    tree.isDirectory (path.join name) = true ↔ listed.lookup name = some none := by
  rw [isDirectory_iff, ← Node.outlineAt_append_singleton here]
  rfl

theorem list_eq_of_outlineAt
    (here : tree.root.outlineAt path.below = some (.directory listed)) :
    tree.list path = .ok (listed.map fun entry => (.ofContent? entry.2, entry.1)) := by
  obtain ⟨entries, reached, rfl⟩ := Node.outlineAt_eq_directory_iff.mp here
  have directory : tree.directoryAt path = .ok (.directory entries) :=
    directoryAt_eq_ok_iff.mpr ⟨entries, reached, rfl⟩
  simp only [list, directory, Node.entries?, List.map_map]
  congr 2
  funext entry
  simp [EntryKind.ofContent?_content?]

theorem entryAt_eq_of_outlineAt
    (here : tree.root.outlineAt path.below = some (.directory listed)) (name : String) :
    (listed.lookup name = none ∧ tree.entryAt path name = .error (.notFound name)) ∨
      ∃ node, listed.lookup name = some node.content? ∧ tree.entryAt path name = .ok node := by
  obtain ⟨entries, reached, rfl⟩ := Node.outlineAt_eq_directory_iff.mp here
  have directory : tree.directoryAt path = .ok (.directory entries) :=
    directoryAt_eq_ok_iff.mpr ⟨entries, reached, rfl⟩
  rw [Node.lookup_outline]
  cases found : entries.lookup name with
  | none => exact .inl ⟨rfl, by simp [entryAt, directory, Node.child, found]⟩
  | some node => exact .inr ⟨node, rfl, by simp [entryAt, directory, Node.child, found]⟩

end FileTree

end PocketShell
