import PocketShell.Proofs.Tree.Growth

/-!
# Extensions of a tree

One node extends another when nothing of the other is lost or changed in it: a
file has the same content, and a directory begins with the same names in the same
order, each with an extension of what stood under it.  The relation is reflexive
and transitive, and every growth of a tree is an extension.  Main statement: names
that led to a node in the earlier tree lead to an extension of it in the later
one.
-/

namespace PocketShell

namespace Node

/-- A property of all nodes, where that of a directory follows from those of its entries. -/
@[elab_as_elim, induction_eliminator]
theorem inductionOnEntries {motive : Node → Prop} (file : ∀ content, motive (.file content))
    (directory : ∀ entries, (∀ entry ∈ entries, motive entry.2) → motive (.directory entries)) :
    ∀ node, motive node
  | .file content => file content
  | .directory entries =>
      directory entries fun entry _ => inductionOnEntries file directory entry.2
termination_by node => node
decreasing_by
  have entrySmaller := List.sizeOf_lt_of_mem ‹entry ∈ entries›
  obtain ⟨name, node⟩ := entry
  simp only [Prod.mk.sizeOf_spec, Node.directory.sizeOf_spec] at entrySmaller ⊢
  omega

/-- The first node holds all that the second one holds, in the same order and with the same
contents, and may hold more behind it. -/
inductive Extends : Node → Node → Prop where
  | file (content : String) : Extends (.file content) (.file content)
  | directory {later earlier : List (String × Node)}
      (names : earlier.map Prod.fst <+: later.map Prod.fst)
      (shared : ∀ name old new, earlier.lookup name = some old → later.lookup name = some new →
        Extends new old) :
      Extends (.directory later) (.directory earlier)

variable {later middle earlier : Node}

@[refl]
theorem Extends.refl (node : Node) : node.Extends node := by
  induction node with
  | file content => exact .file content
  | directory entries ih =>
      refine .directory (List.prefix_refl _) ?_
      intro name old new foundOld foundNew
      obtain rfl : old = new := Option.some.inj (foundOld.symm.trans foundNew)
      obtain ⟨front, back, rfl, _⟩ := exists_split_of_lookup foundOld
      exact ih (name, old) (by simp)

/-- A name of the earlier directory is a name of the later one. -/
theorem exists_lookup_of_prefix {earlier later : List (String × Node)} {name : String}
    {old : Node} (names : earlier.map Prod.fst <+: later.map Prod.fst)
    (found : earlier.lookup name = some old) : ∃ new, later.lookup name = some new := by
  have inEarlier : name ∈ earlier.map Prod.fst :=
    isSome_lookup_iff_mem_names.mp (Option.isSome_iff_exists.mpr ⟨old, found⟩)
  have inLater : name ∈ later.map Prod.fst := names.subset inEarlier
  exact Option.isSome_iff_exists.mp (isSome_lookup_iff_mem_names.mpr inLater)

theorem Extends.trans (second : later.Extends middle) (first : middle.Extends earlier) :
    later.Extends earlier := by
  induction second generalizing earlier with
  | file content => exact first
  | @directory lastEntries middleEntries names shared ih =>
      cases first with
      | @directory _ firstEntries firstNames firstShared =>
          refine .directory (firstNames.trans names) ?_
          intro name old new foundOld foundNew
          obtain ⟨between, foundBetween⟩ := exists_lookup_of_prefix firstNames foundOld
          have betweenExtends : between.Extends old :=
            firstShared name old between foundOld foundBetween
          exact ih name between new foundBetween foundNew betweenExtends

theorem Extends.kind_eq (extension : later.Extends earlier) : later.kind = earlier.kind := by
  cases extension <;> rfl

theorem Extends.content?_eq (extension : later.Extends earlier) :
    later.content? = earlier.content? := by
  cases extension <;> rfl

/-- Names that led to a node lead to an extension of it. -/
theorem Extends.exists_resolve (extension : later.Extends earlier) {names : List String}
    {node : Node} (reached : earlier.resolve names = .ok node) :
    ∃ kept, later.resolve names = .ok kept ∧ kept.Extends node := by
  induction names generalizing later earlier with
  | nil =>
      rw [resolve, Except.ok.injEq] at reached
      subst reached
      exact ⟨later, rfl, extension⟩
  | cons step rest ih =>
      obtain ⟨earlierEntries, old, rfl, found, oldReached⟩ := resolve_cons_eq_ok_iff.mp reached
      cases extension with
      | @directory laterEntries _ names shared =>
          obtain ⟨new, foundNew⟩ := exists_lookup_of_prefix names found
          obtain ⟨kept, keptReached, keptExtends⟩ :=
            ih (shared step old new found foundNew) oldReached
          refine ⟨kept, ?_, keptExtends⟩
          exact resolve_cons_eq_ok_iff.mpr ⟨laterEntries, new, rfl, foundNew, keptReached⟩

/-- A tree that has gained an entry extends the tree before. -/
theorem GrownAt.extends_root {name : String} {added root grown : Node} {names : List String}
    (growth : GrownAt name added names root grown) : grown.Extends root := by
  induction growth with
  | @here entries free =>
      refine .directory (by simp) ?_
      intro asked old new foundOld foundNew
      -- The new entry stands behind all others, so a name that was there finds what it found.
      rw [List.lookup_append, foundOld, Option.some_or, Option.some.injEq] at foundNew
      rw [foundNew]
  | @inside front back step names old new first growth ih =>
      refine .directory (by simp) ?_
      intro asked before after foundBefore foundAfter
      by_cases same : asked = step
      · subst same
        rw [lookup_append_cons_self _ first, Option.some.injEq] at foundBefore foundAfter
        rw [← foundBefore, ← foundAfter]
        exact ih
      · rw [lookup_append_cons_of_ne _ same] at foundBefore foundAfter
        rw [foundBefore, Option.some.injEq] at foundAfter
        rw [foundAfter]

end Node

end PocketShell
