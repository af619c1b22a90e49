import PocketShell.Proofs.Tree.Growth
import Mathlib.Data.List.Nodup

/-!
# Distinct names

No directory of a tree holds a name twice, at any depth.  Growth keeps this, so it
holds of the tree that a session starts with and of every tree that insertion
makes of it.
-/

namespace PocketShell

/-- Where no name stands twice, the entry found under a name is the only one of that name. -/
theorem lookup_eq_some_iff_mem {α : Type} {name : String} {value : α}
    {entries : List (String × α)} (distinct : (entries.map Prod.fst).Nodup) :
    entries.lookup name = some value ↔ (name, value) ∈ entries := by
  have found_mem {found : α} (search : entries.lookup name = some found) :
      (name, found) ∈ entries := by
    obtain ⟨front, back, rfl, _⟩ := exists_split_of_lookup search
    simp
  constructor
  · exact found_mem
  · intro member
    have searchFinds : (entries.lookup name).isSome = true :=
      isSome_lookup_iff_mem_names.mpr (List.mem_map_of_mem member)
    obtain ⟨found, search⟩ := Option.isSome_iff_exists.mp searchFinds
    have samePair := List.inj_on_of_nodup_map distinct (found_mem search) member rfl
    rw [search, (Prod.mk.inj samePair).2]

namespace Node

/-- Every directory in the tree, however deep, has pairwise distinct names in it. -/
inductive NamesDistinct : Node → Prop where
  | file (content : String) : NamesDistinct (.file content)
  | directory {entries : List (String × Node)} (distinct : (entries.map Prod.fst).Nodup)
      (inside : ∀ entry ∈ entries, NamesDistinct entry.2) : NamesDistinct (.directory entries)

theorem namesDistinct_ofContent? (content? : Option String) :
    (ofContent? content?).NamesDistinct := by
  cases content? with
  | none => exact .directory List.nodup_nil (by simp)
  | some content => exact .file content

theorem namesDistinct_blank (kind : EntryKind) : (blank kind).NamesDistinct := by
  cases kind with
  | directory => exact namesDistinct_ofContent? none
  | file => exact namesDistinct_ofContent? (some "")

section Entries

variable {entries front back : List (String × Node)} {name : String} {old new node : Node}

theorem NamesDistinct.nodup_names (rootDistinct : (Node.directory entries).NamesDistinct) :
    (entries.map Prod.fst).Nodup := by
  cases rootDistinct with
  | directory distinct inside => exact distinct

theorem NamesDistinct.of_lookup (rootDistinct : (Node.directory entries).NamesDistinct)
    (found : entries.lookup name = some node) : node.NamesDistinct := by
  cases rootDistinct with
  | directory distinct inside =>
      exact inside (name, node) ((lookup_eq_some_iff_mem distinct).mp found)

theorem NamesDistinct.not_mem_front
    (rootDistinct : (Node.directory (front ++ (name, old) :: back)).NamesDistinct) :
    name ∉ front.map Prod.fst := by
  have distinct := rootDistinct.nodup_names
  rw [List.map_append, List.map_cons, List.nodup_middle, List.nodup_cons, List.mem_append,
    not_or] at distinct
  exact distinct.1.1

/-- Another node with distinct names under the same name doubles no name. -/
theorem NamesDistinct.replaced
    (rootDistinct : (Node.directory (front ++ (name, old) :: back)).NamesDistinct)
    (newDistinct : new.NamesDistinct) :
    (Node.directory (front ++ (name, new) :: back)).NamesDistinct := by
  cases rootDistinct with
  | directory distinct inside =>
      refine .directory (by simpa using distinct) ?_
      rw [List.forall_mem_append, List.forall_mem_cons] at inside ⊢
      exact ⟨inside.1, newDistinct, inside.2.2⟩

end Entries

theorem GrownAt.namesDistinct {name : String} {added root grown : Node} {names : List String}
    (growth : GrownAt name added names root grown) (addedDistinct : added.NamesDistinct)
    (rootDistinct : root.NamesDistinct) : grown.NamesDistinct := by
  induction growth with
  | @here entries free =>
      cases rootDistinct with
      | directory distinct inside =>
          refine .directory ?_ ?_
          · rw [List.map_append, List.map_singleton, ← List.concat_eq_append,
              List.nodup_concat]
            exact ⟨free, distinct⟩
          · intro entry member
            rcases List.mem_append.mp member with old | new
            · exact inside entry old
            · rw [List.mem_singleton.mp new]
              exact addedDistinct
  | @inside front back step names old new first growth ih =>
      have oldDistinct : old.NamesDistinct :=
        rootDistinct.of_lookup (lookup_append_cons_self old first)
      exact rootDistinct.replaced (ih oldDistinct)

theorem NamesDistinct.nodup_outlineAt {root : Node} (rootDistinct : root.NamesDistinct)
    {names : List String} {listed : List (String × Option String)}
    (here : root.outlineAt names = some (.directory listed)) :
    (listed.map Prod.fst).Nodup := by
  induction names generalizing root with
  | nil =>
      cases rootDistinct with
      | file content => simp [outline] at here
      | directory distinct inside =>
          simp only [outlineAt_nil, outline, Option.some.injEq, Outline.directory.injEq] at here
          subst here
          simpa [Function.comp_def] using distinct
  | cons step names ih =>
      cases rootDistinct with
      | file content => simp at here
      | @directory entries distinct inside =>
          cases found : entries.lookup step with
          | none => simp [found] at here
          | some node =>
              rw [outlineAt_directory_cons, found, Option.bind_some] at here
              exact ih (NamesDistinct.of_lookup (.directory distinct inside) found) here

end Node

theorem FileTree.namesDistinct_starter : starter.root.NamesDistinct := by
  refine @starter_induction (fun tree => tree.root.NamesDistinct)
    (Node.namesDistinct_ofContent? none) ?_
  intro entry _ tree grown growth treeDistinct
  exact growth.namesDistinct (Node.namesDistinct_ofContent? _) treeDistinct

end PocketShell
