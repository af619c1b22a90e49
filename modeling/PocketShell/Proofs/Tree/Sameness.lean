import PocketShell.Proofs.Tree.Distinct
import PocketShell.Proofs.Tree.Extension
import PocketShell.Proofs.Tree.Sight
import Mathlib.Data.List.Perm.Subperm

/-!
# Sameness is what can be seen

The test for sameness compares the numbers of entries and then looks up the
entries of one directory in the other, one way only.  As no name stands twice in a
directory, that is enough.  Main statement: two trees are the same exactly when
all names lead to nothing in both, to directories in both, or to files with one
content in both.  So sameness is an equivalence, and the order of entries is of no
account to it at any depth.
-/

namespace PocketShell

section Names

variable {α : Type} {entries others : List (String × α)}

theorem lookup_cases_of_same_names
    (sameNames : ∀ name, name ∈ entries.map Prod.fst ↔ name ∈ others.map Prod.fst)
    (name : String) :
    (entries.lookup name = none ∧ others.lookup name = none) ∨
      ∃ value other, entries.lookup name = some value ∧ others.lookup name = some other := by
  by_cases known : name ∈ entries.map Prod.fst
  · right
    have otherKnows : name ∈ others.map Prod.fst := (sameNames name).mp known
    rw [← isSome_lookup_iff_mem_names, Option.isSome_iff_exists] at known otherKnows
    obtain ⟨value, found⟩ := known
    obtain ⟨other, otherFound⟩ := otherKnows
    exact ⟨value, other, found, otherFound⟩
  · left
    have otherMisses : name ∉ others.map Prod.fst := mt (sameNames name).mpr known
    exact ⟨lookup_eq_none_iff_not_mem_names.mpr known,
      lookup_eq_none_iff_not_mem_names.mpr otherMisses⟩

/-- Where no name stands twice, the order of entries is of no account for what is found. -/
theorem lookup_eq_of_perm (distinct : (entries.map Prod.fst).Nodup)
    (perm : entries.Perm others) (name : String) :
    others.lookup name = entries.lookup name := by
  have othersDistinct : (others.map Prod.fst).Nodup := (perm.map _).nodup_iff.mp distinct
  ext value
  rw [lookup_eq_some_iff_mem distinct, lookup_eq_some_iff_mem othersDistinct, perm.mem_iff]

end Names

namespace Node

theorem sameEntries_iff {entries others : List (String × Node)} :
    sameEntries entries others = true ↔
      ∀ entry ∈ entries, ∃ other, others.lookup entry.1 = some other ∧
        entry.2.same other = true := by
  induction entries with
  | nil => simp [sameEntries]
  | cons entry rest ih =>
      rw [sameEntries, Bool.and_eq_true, ih, List.forall_mem_cons]
      cases others.lookup entry.1 <;> simp

/-- As many names, all of them found among the others, are the same names. -/
theorem same_directory_iff {entries others : List (String × Node)}
    (distinct : (entries.map Prod.fst).Nodup) (othersDistinct : (others.map Prod.fst).Nodup) :
    (directory entries).same (directory others) = true ↔
      (∀ name, name ∈ entries.map Prod.fst ↔ name ∈ others.map Prod.fst) ∧
        ∀ name node other, entries.lookup name = some node → others.lookup name = some other →
          node.same other = true := by
  rw [same, Bool.and_eq_true, decide_eq_true_iff, sameEntries_iff]
  constructor
  · rintro ⟨sameLength, found⟩
    have subset : entries.map Prod.fst ⊆ others.map Prod.fst := by
      intro name mem
      obtain ⟨entry, entryMem, rfl⟩ := List.mem_map.mp mem
      obtain ⟨other, otherFound, _⟩ := found entry entryMem
      exact isSome_lookup_iff_mem_names.mp (by rw [otherFound]; rfl)
    have sameNames : (entries.map Prod.fst).Perm (others.map Prod.fst) := by
      apply (List.subperm_of_subset distinct subset).perm_of_length_le
      rw [List.length_map, List.length_map]
      exact Nat.le_of_eq sameLength.symm
    refine ⟨fun name => sameNames.mem_iff, ?_⟩
    intro name node other search otherSearch
    obtain ⟨known, knownFound, sameNodes⟩ :=
      found (name, node) ((lookup_eq_some_iff_mem distinct).mp search)
    obtain rfl : known = other := Option.some.inj (knownFound.symm.trans otherSearch)
    exact sameNodes
  · rintro ⟨sameNames, sameNodes⟩
    constructor
    · have perm : (entries.map Prod.fst).Perm (others.map Prod.fst) :=
        (List.perm_ext_iff_of_nodup distinct othersDistinct).mpr sameNames
      simpa using perm.length_eq
    · intro entry mem
      have found : entries.lookup entry.1 = some entry.2 :=
        (lookup_eq_some_iff_mem distinct).mpr mem
      rcases lookup_cases_of_same_names sameNames entry.1 with
        ⟨missing, _⟩ | ⟨_, other, _, otherFound⟩
      · rw [found] at missing
        contradiction
      · exact ⟨other, otherFound, sameNodes entry.1 entry.2 other found otherFound⟩

theorem isSome_seenAt_singleton {entries : List (String × Node)} {name : String} :
    ((directory entries).seenAt [name]).isSome = true ↔ name ∈ entries.map Prod.fst := by
  rw [← isSome_lookup_iff_mem_names, seenAt_directory_cons]
  cases entries.lookup name <;> simp

/-- A file is seen at once to be one, with its content. -/
theorem same_file_iff {content : String} {other : Node} :
    (file content).same other = true ↔
      ∀ names, (file content).seenAt names = other.seenAt names := by
  cases other with
  | directory others =>
      refine iff_of_false (by simp [same]) ?_
      intro seen
      simpa [content?] using seen []
  | file otherContent =>
      rw [same, decide_eq_true_iff]
      constructor
      · rintro rfl names
        rfl
      · intro seen
        simpa [content?] using seen []

/-- Sameness is sameness of all that is seen. -/
theorem same_iff_seenAt {root other : Node} (rootDistinct : root.NamesDistinct)
    (otherDistinct : other.NamesDistinct) :
    root.same other = true ↔ ∀ names, root.seenAt names = other.seenAt names := by
  induction root generalizing other with
  | file content => exact same_file_iff
  | directory entries ih =>
      cases other with
      | file content =>
          refine iff_of_false (by simp [same]) ?_
          intro seen
          simpa [content?] using seen []
      | directory others =>
          -- The induction hypothesis regards the two nodes that are found under one name.
          have below {name : String} {node other : Node}
              (found : entries.lookup name = some node)
              (otherFound : others.lookup name = some other) :
              node.same other = true ↔ ∀ rest, node.seenAt rest = other.seenAt rest :=
            ih (name, node) ((lookup_eq_some_iff_mem rootDistinct.nodup_names).mp found)
              (rootDistinct.of_lookup found) (otherDistinct.of_lookup otherFound)
          rw [same_directory_iff rootDistinct.nodup_names otherDistinct.nodup_names]
          constructor
          · rintro ⟨sameNames, sameNodes⟩ names
            cases names with
            | nil => rfl
            | cons name rest =>
                rw [seenAt_directory_cons, seenAt_directory_cons]
                rcases lookup_cases_of_same_names sameNames name with
                  ⟨missing, otherMissing⟩ | ⟨node, other, found, otherFound⟩
                · rw [missing, otherMissing]
                · rw [found, otherFound, Option.bind_some, Option.bind_some]
                  exact (below found otherFound).mp
                    (sameNodes name node other found otherFound) rest
          · intro seen
            constructor
            · intro name
              rw [← isSome_seenAt_singleton, ← isSome_seenAt_singleton, seen [name]]
            · intro name node other found otherFound
              refine (below found otherFound).mpr ?_
              intro rest
              simpa [found, otherFound] using seen (name :: rest)

/-- Whether the names lead to nothing in both trees, to directories in both, or to files in both
that have the same content. -/
def AlikeAt (root other : Node) (names : List String) : Prop :=
  ((∃ failure, root.resolve names = .error failure) ∧
      ∃ failure, other.resolve names = .error failure) ∨
    ((∃ entries, root.resolve names = .ok (.directory entries)) ∧
      ∃ entries, other.resolve names = .ok (.directory entries)) ∨
    ∃ content, root.resolve names = .ok (.file content) ∧
      other.resolve names = .ok (.file content)

theorem alikeAt_iff {root other : Node} {names : List String} :
    root.AlikeAt other names ↔ root.seenAt names = other.seenAt names := by
  simp only [AlikeAt, ← seenAt_eq_none_iff, ← seenAt_eq_directory_iff, ← seenAt_eq_file_iff]
  cases root.seenAt names with
  | none => simp [eq_comm]
  | some content? => cases content? <;> simp [eq_comm]

/-- The second tree is the first one with the entries of some directories, however deep, in another
order. -/
inductive Rearranged : Node → Node → Prop where
  | refl (root : Node) : Rearranged root root
  | reorder {entries others : List (String × Node)} (perm : entries.Perm others) :
      Rearranged (.directory entries) (.directory others)
  | inside {front back : List (String × Node)} {name : String} {old new : Node}
      (rearranged : Rearranged old new) :
      Rearranged (.directory (front ++ (name, old) :: back))
        (.directory (front ++ (name, new) :: back))
  | trans {first second third : Node} (before : Rearranged first second)
      (after : Rearranged second third) : Rearranged first third

theorem Rearranged.namesDistinct {root again : Node} (rearranged : root.Rearranged again)
    (rootDistinct : root.NamesDistinct) : again.NamesDistinct := by
  induction rearranged with
  | refl => exact rootDistinct
  | reorder perm =>
      cases rootDistinct with
      | directory distinct inside =>
          refine .directory ((perm.map _).nodup_iff.mp distinct) ?_
          exact fun entry member => inside entry (perm.mem_iff.mpr member)
  | inside _ ih =>
      have first := rootDistinct.not_mem_front
      have oldDistinct := rootDistinct.of_lookup (lookup_append_cons_self _ first)
      exact rootDistinct.replaced (ih oldDistinct)
  | trans _ _ firstIH secondIH => exact secondIH (firstIH rootDistinct)

theorem Rearranged.seenAt_eq {root again : Node} (rearranged : root.Rearranged again)
    (rootDistinct : root.NamesDistinct) (names : List String) :
    again.seenAt names = root.seenAt names := by
  induction rearranged generalizing names with
  | refl => rfl
  | reorder perm =>
      cases names with
      | nil => rfl
      | cons name rest =>
          rw [seenAt_directory_cons, seenAt_directory_cons,
            lookup_eq_of_perm rootDistinct.nodup_names perm]
  | @inside front back step old new rearranged ih =>
      cases names with
      | nil => rfl
      | cons asked rest =>
          have first := rootDistinct.not_mem_front
          rw [seenAt_directory_cons, seenAt_directory_cons]
          by_cases same : asked = step
          · subst same
            rw [lookup_append_cons_self _ first, lookup_append_cons_self _ first]
            exact ih (rootDistinct.of_lookup (lookup_append_cons_self _ first)) rest
          · rw [lookup_append_cons_of_ne new same, lookup_append_cons_of_ne old same]
  | trans before _ firstIH secondIH =>
      rw [secondIH (before.namesDistinct rootDistinct), firstIH rootDistinct]

/-- On trees in which no directory holds a name twice, the test for sameness holds exactly when
all names lead to nothing in both trees, to directories in both, or to files with one content in
both.  It is an equivalence of such trees, and gives the same answer however the entries of
directories at any depth are ordered. -/
theorem same_iff_alike_everywhere {root other : Node} (rootDistinct : root.NamesDistinct)
    (otherDistinct : other.NamesDistinct) :
    (root.same other = true ↔ ∀ names, root.AlikeAt other names) ∧
      root.same root = true ∧
      (root.same other = true ↔ other.same root = true) ∧
      (∀ third : Node, third.NamesDistinct → root.same other = true → other.same third = true →
        root.same third = true) ∧
      ∀ rootAgain otherAgain, root.Rearranged rootAgain → other.Rearranged otherAgain →
        rootAgain.same otherAgain = root.same other := by
  refine ⟨?_, ?_, ?_, ?_, ?_⟩
  · simp only [alikeAt_iff]
    exact same_iff_seenAt rootDistinct otherDistinct
  · exact (same_iff_seenAt rootDistinct rootDistinct).mpr fun _ => rfl
  · rw [same_iff_seenAt rootDistinct otherDistinct, same_iff_seenAt otherDistinct rootDistinct]
    simp only [eq_comm]
  · intro third thirdDistinct sameFirst sameSecond
    rw [same_iff_seenAt rootDistinct otherDistinct] at sameFirst
    rw [same_iff_seenAt otherDistinct thirdDistinct] at sameSecond
    rw [same_iff_seenAt rootDistinct thirdDistinct]
    exact fun names => (sameFirst names).trans (sameSecond names)
  · intro rootAgain otherAgain rootRearranged otherRearranged
    rw [Bool.eq_iff_iff, same_iff_seenAt rootDistinct otherDistinct,
      same_iff_seenAt (rootRearranged.namesDistinct rootDistinct)
        (otherRearranged.namesDistinct otherDistinct)]
    simp only [rootRearranged.seenAt_eq rootDistinct, otherRearranged.seenAt_eq otherDistinct]

/-- Reordered at two depths, a tree is the same as before. -/
theorem same_iff_alike_everywhere_reordered :
    let inner := Node.directory [("x", .file "1"), ("y", .emptyDirectory)]
    let root := Node.directory [("b", .file ""), ("a", inner)]
    let again := Node.directory
      [("a", .directory [("y", .emptyDirectory), ("x", .file "1")]), ("b", .file "")]
    root.NamesDistinct ∧ again.NamesDistinct ∧ root.Rearranged again ∧
      again.same root = true ∧ root.same again = true ∧
      ∀ names, again.AlikeAt root names := by
  intro inner root again
  have innerDistinct : inner.NamesDistinct := by
    refine .directory (by decide) ?_
    rw [List.forall_mem_cons, List.forall_mem_singleton]
    exact ⟨.file "1", namesDistinct_ofContent? none⟩
  have rootDistinct : root.NamesDistinct := by
    refine .directory (by decide) ?_
    rw [List.forall_mem_cons, List.forall_mem_singleton]
    exact ⟨.file "", innerDistinct⟩
  have rearranged : root.Rearranged again :=
    .trans (.reorder (.swap _ _ [])) (@Rearranged.inside [] _ "a" _ _ (.reorder (.swap _ _ [])))
  have againDistinct : again.NamesDistinct := rearranged.namesDistinct rootDistinct
  obtain ⟨told, _, symmetric, _, orderBlind⟩ :=
    same_iff_alike_everywhere againDistinct rootDistinct
  have sameAsRoot : again.same root = true := by
    rw [← orderBlind again again (.refl again) rearranged]
    exact (same_iff_alike_everywhere againDistinct rootDistinct).2.1
  exact ⟨rootDistinct, againDistinct, rearranged, sameAsRoot, symmetric.mp sameAsRoot,
    told.mp sameAsRoot⟩

end Node

end PocketShell
