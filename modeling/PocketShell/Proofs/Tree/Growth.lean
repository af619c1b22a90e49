import PocketShell.Proofs.Tree.Outline

/-!
# Growth of a tree

An insertion adds one entry at the end of one directory.  `GrownAt` says this of
the whole tree before and after it: everything else, the order of all other
entries included, stays as it is.  Main statements: insertion succeeds exactly
when the tree after it has grown in this sense, it fails only where the name is
taken or the path leads to no directory, and growth changes no outline but that
of the directory that gained the entry.
-/

namespace PocketShell

namespace Node

/-- The second tree is the first one with one more entry at the end of the directory that the
names lead to. -/
inductive GrownAt (name : String) (added : Node) : List String → Node → Node → Prop where
  | here {entries : List (String × Node)} (free : name ∉ entries.map Prod.fst) :
      GrownAt name added [] (.directory entries) (.directory (entries ++ [(name, added)]))
  | inside {front back : List (String × Node)} {step : String} {names : List String}
      {old new : Node} (first : step ∉ front.map Prod.fst)
      (grown : GrownAt name added names old new) :
      GrownAt name added (step :: names) (.directory (front ++ (step, old) :: back))
        (.directory (front ++ (step, new) :: back))

section Insertion

variable {name : String} {added root grown : Node} {names : List String} {place : Place}

theorem insert_directory (entries : List (String × Node)) :
    (directory entries).insert name added =
      if name ∈ entries.map Prod.fst then .error (.alreadyExists name)
      else .ok (.directory (entries ++ [(name, added)])) := by
  simp only [insert, isSome_lookup_iff_mem_names]

theorem insert_eq_ok_iff :
    root.insert name added = .ok grown ↔
      ∃ entries, root = .directory entries ∧ name ∉ entries.map Prod.fst ∧
        grown = .directory (entries ++ [(name, added)]) := by
  cases root with
  | file content => simp [insert]
  | directory entries =>
      rw [insert_directory]
      constructor
      · intro inserted
        split at inserted
        · contradiction
        · next free => exact ⟨entries, rfl, free, (Except.ok.inj inserted).symm⟩
      · rintro ⟨others, sameRoot, free, rfl⟩
        cases sameRoot
        rw [if_neg free]

theorem grownAt_of_placeAt (reached : root.placeAt names = .ok place)
    (inserted : place.node.insert name added = .ok grown) :
    GrownAt name added names root (place.replacedBy grown) := by
  induction names generalizing root place with
  | nil =>
      rw [placeAt, Except.ok.injEq] at reached
      subst reached
      obtain ⟨entries, rootEq, free, rfl⟩ := insert_eq_ok_iff.mp inserted
      simp only at rootEq
      subst rootEq
      exact .here free
  | cons step names ih =>
      obtain ⟨front, entry, back, inner, rfl, first, walked, rfl⟩ :=
        placeAt_cons_eq_ok_iff.mp reached
      exact .inside first (ih walked inserted)

theorem GrownAt.exists_placeAt (growth : GrownAt name added names root grown) :
    ∃ place inserted, root.placeAt names = .ok place ∧
      place.node.insert name added = .ok inserted ∧ place.replacedBy inserted = grown := by
  induction growth with
  | here free =>
      refine ⟨_, _, placeAt.eq_1 _, insert_eq_ok_iff.mpr ⟨_, rfl, free, rfl⟩, rfl⟩
  | @inside front back step names old new first growth ih =>
      obtain ⟨place, inserted, reached, insertedEq, replaced⟩ := ih
      refine ⟨_, inserted, placeAt_cons_eq_ok_iff.mpr
        ⟨front, old, back, place, rfl, first, reached, rfl⟩, insertedEq, ?_⟩
      simp only [replaced]

end Insertion

section Outlines

variable {name : String} {added root grown : Node} {names : List String}

theorem GrownAt.content?_eq_none (growth : GrownAt name added names root grown) :
    root.content? = none ∧ grown.content? = none := by
  cases growth <;> exact ⟨rfl, rfl⟩

theorem GrownAt.resolve_added (growth : GrownAt name added names root grown)
    (rest : List String) : grown.resolve (names ++ name :: rest) = added.resolve rest := by
  induction growth with
  | here free => simp [resolve, child, lookup_append_cons_self added free]
  | inside first growth ih =>
      simpa [resolve, child, lookup_append_cons_self _ first] using ih

theorem GrownAt.outlineAt_grown (growth : GrownAt name added names root grown)
    (rest : List String) : grown.outlineAt (names ++ name :: rest) = added.outlineAt rest := by
  rw [outlineAt, growth.resolve_added, outlineAt]

/-- Nothing was found under the name of the new entry before. -/
theorem GrownAt.outlineAt_added (growth : GrownAt name added names root grown)
    (rest : List String) : root.outlineAt (names ++ name :: rest) = none := by
  induction growth with
  | here free => simp [lookup_eq_none_iff_not_mem_names.mpr free]
  | inside first growth ih => simpa [lookup_append_cons_self _ first] using ih

/-- The directory that gained the entry has it behind the others. -/
theorem GrownAt.resolve_self (growth : GrownAt name added names root grown) :
    ∃ entries, name ∉ entries.map Prod.fst ∧ root.resolve names = .ok (.directory entries) ∧
      grown.resolve names = .ok (.directory (entries ++ [(name, added)])) := by
  induction growth with
  | here free => exact ⟨_, free, rfl, rfl⟩
  | inside first growth ih =>
      simpa [resolve, child, lookup_append_cons_self _ first] using ih

theorem GrownAt.outlineAt_self (growth : GrownAt name added names root grown) :
    ∃ listed, name ∉ listed.map Prod.fst ∧
      root.outlineAt names = some (.directory listed) ∧
      grown.outlineAt names = some (.directory (listed ++ [(name, added.content?)])) := by
  obtain ⟨entries, free, before, after⟩ := growth.resolve_self
  refine ⟨entries.map fun entry => (entry.1, entry.2.content?), by simpa using free,
    outlineAt_eq_directory_iff.mpr ⟨_, before, rfl⟩,
    outlineAt_eq_directory_iff.mpr ⟨_, after, by simp⟩⟩

/-- All other nodes show what they showed before. -/
theorem GrownAt.outlineAt_of_ne (growth : GrownAt name added names root grown)
    {query : List String} (differs : query ≠ names)
    (outside : ¬ names ++ [name] <+: query) :
    grown.outlineAt query = root.outlineAt query := by
  induction growth generalizing query with
  | @here entries free =>
      cases query with
      | nil => exact absurd rfl differs
      | cons asked rest =>
          have notAdded : asked ≠ name := by
            rintro rfl
            exact outside (List.prefix_append [asked] rest)
          rw [outlineAt_directory_cons, outlineAt_directory_cons,
            lookup_append_cons_of_ne added notAdded, List.append_nil]
  | @inside front back step names old new first growth ih =>
      cases query with
      | nil =>
          obtain ⟨oldContent, newContent⟩ := growth.content?_eq_none
          simp [outline, oldContent, newContent]
      | cons asked rest =>
          rw [outlineAt_directory_cons, outlineAt_directory_cons]
          by_cases same : asked = step
          · subst same
            rw [lookup_append_cons_self _ first, lookup_append_cons_self _ first]
            refine ih (fun restEq => differs (by rw [restEq])) (fun begins => outside ?_)
            simpa using begins
          · rw [lookup_append_cons_of_ne new same, lookup_append_cons_of_ne old same]

theorem GrownAt.outlineAt_directory (growth : GrownAt name added names root grown)
    {query : List String} {listed : List (String × Option String)}
    (before : root.outlineAt query = some (.directory listed)) :
    ∃ later, grown.outlineAt query = some (.directory later) := by
  by_cases same : query = names
  · subst same
    obtain ⟨_, _, _, after⟩ := growth.outlineAt_self
    exact ⟨_, after⟩
  · refine ⟨listed, ?_⟩
    rw [growth.outlineAt_of_ne same, before]
    rintro ⟨rest, rfl⟩
    rw [List.append_assoc, List.singleton_append, growth.outlineAt_added rest] at before
    contradiction

end Outlines

section Listings

/-- A file with the content, or an empty directory where there is none. -/
def ofContent? : Option String → Node
  | some content => .file content
  | none => .emptyDirectory

/-- The names in the directory that the names lead to, those of files with their content; there
are none where no directory is. -/
def listedAt (root : Node) (names : List String) : List (String × Option String) :=
  match root.outlineAt names with
  | some (.directory listed) => listed
  | _ => []

variable {root grown : Node} {names : List String} {name : String} {content? : Option String}

theorem content?_ofContent? (content? : Option String) :
    (ofContent? content?).content? = content? := by
  cases content? <;> rfl

theorem listedAt_ofContent? (content? : Option String) (names : List String) :
    (ofContent? content?).listedAt names = [] := by
  cases content? <;> cases names <;> simp [listedAt, ofContent?, emptyDirectory, outline]

theorem listedAt_of_outlineAt {listed : List (String × Option String)}
    (here : root.outlineAt names = some (.directory listed)) : root.listedAt names = listed := by
  rw [listedAt, here]

/-- A tree that gains a file or an empty directory lists one name more in one directory, and
everywhere else what it listed before. -/
theorem GrownAt.listedAt (growth : GrownAt name (ofContent? content?) names root grown)
    (query : List String) :
    grown.listedAt query =
      root.listedAt query ++ if names = query then [(name, content?)] else [] := by
  by_cases same : names = query
  · subst same
    obtain ⟨listed, _, before, after⟩ := growth.outlineAt_self
    rw [listedAt_of_outlineAt before, listedAt_of_outlineAt after, if_pos rfl,
      content?_ofContent?]
  · rw [if_neg same, List.append_nil]
    -- Names that lead through the new entry led nowhere before, and lead to nothing listed now.
    by_cases inside : names ++ [name] <+: query
    · obtain ⟨rest, rfl⟩ := inside
      rw [List.append_assoc, List.singleton_append]
      have nothingBefore : root.listedAt (names ++ name :: rest) = [] := by
        rw [Node.listedAt, growth.outlineAt_added]
      have nothingAfter : grown.listedAt (names ++ name :: rest) = [] := by
        rw [Node.listedAt, outlineAt, growth.resolve_added]
        exact listedAt_ofContent? content? rest
      rw [nothingBefore, nothingAfter]
    · rw [Node.listedAt, Node.listedAt, growth.outlineAt_of_ne (Ne.symm same) inside]

end Listings

end Node

namespace FileTree

variable {tree grown : FileTree} {path : Path} {name : String} {added : Node}
variable {listed : List (String × Option String)}

theorem insertAt_eq_ok_iff :
    tree.insertAt path name added = .ok grown ↔
      Node.GrownAt name added path.below tree.root grown.root := by
  unfold insertAt
  constructor
  · intro succeeded
    cases reached : tree.root.placeAt path.below with
    | error failure => simp [reached] at succeeded
    | ok place =>
        cases inserted : place.node.insert name added with
        | error failure => simp [reached, inserted] at succeeded
        | ok node =>
            simp only [reached, inserted, Except.ok.injEq] at succeeded
            subst succeeded
            exact Node.grownAt_of_placeAt reached inserted
  · intro growth
    obtain ⟨place, node, reached, inserted, replaced⟩ := growth.exists_placeAt
    simp only [reached, inserted, replaced]

/-- Where a directory stands, insertion fails exactly for the names in it. -/
theorem insertAt_eq_error_iff
    (here : tree.root.outlineAt path.below = some (.directory listed)) {failure : TreeError} :
    tree.insertAt path name added = .error failure ↔
      name ∈ listed.map Prod.fst ∧ failure = .alreadyExists name := by
  obtain ⟨entries, reached, rfl⟩ := Node.outlineAt_eq_directory_iff.mp here
  rw [← Node.map_node_placeAt] at reached
  have sameNames : (entries.map fun entry => (entry.1, entry.2.content?)).map Prod.fst =
      entries.map Prod.fst := by
    simp
  rw [sameNames]
  unfold insertAt
  cases walked : tree.root.placeAt path.below with
  | error other => simp [walked, Except.map] at reached
  | ok place =>
      obtain ⟨node, replacedBy⟩ := place
      simp only [walked, Except.map, Except.ok.injEq] at reached
      subst reached
      simp only [Node.insert_directory]
      by_cases taken : name ∈ entries.map Prod.fst
      · rw [if_pos taken]
        simp only [taken, true_and, Except.error.injEq, eq_comm]
      · rw [if_neg taken]
        simp only [taken, false_and, reduceCtorEq]

/-- What holds of the empty tree, and is kept when the tree grows by a starter entry, holds of the
tree that a session starts with. -/
theorem starter_induction {invariant : FileTree → Prop} (base : invariant empty)
    (step : ∀ entry ∈ starterEntries, ∀ tree grown : FileTree,
      Node.GrownAt entry.name (.ofContent? entry.content?) entry.directory.below
        tree.root grown.root → invariant tree → invariant grown) :
    invariant starter := by
  unfold starter
  have planted : ∀ entries ⊆ starterEntries, ∀ tree : FileTree, invariant tree →
      invariant (entries.foldl plant tree) := by
    intro entries
    induction entries with
    | nil => exact fun _ tree holds => holds
    | cons entry rest ih =>
        intro listed tree holds
        rw [List.cons_subset] at listed
        refine ih listed.2 _ ?_
        unfold plant
        split
        · next grown inserted =>
            have growth := insertAt_eq_ok_iff.mp inserted
            exact step entry listed.1 tree grown growth holds
        · exact holds
  exact planted starterEntries (List.Subset.refl _) empty base

end FileTree

end PocketShell
