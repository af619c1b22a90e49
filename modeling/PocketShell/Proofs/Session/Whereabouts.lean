import PocketShell.Proofs.Session.Provenance
import PocketShell.Screen.Fit

/-!
# What a displayed path tells

A path is displayed with a slash before each name, and a name may hold slashes of
its own.  So the display tells the path only up to where its names are cut at their
slashes: two paths look the same exactly when their names, once cut, do.  A slash
gets into the tree of a session only with a line that makes a directory of such a
name.  What `pwd`, the prompt and the status line show of a session tells as much
as the display of its path.
-/

namespace PocketShell

namespace Path

variable {first second path : Path}

/-- The names of the path, each cut at its slashes. -/
def steps (path : Path) : List (List Char) :=
  path.segments.flatMap fun name => name.toList.splitOn '/'

theorem toList_display (path : Path) :
    path.display.toList = path.segments.flatMap fun name => '/' :: name.toList := by
  simp [display, String.toList_join, List.flatMap_map]

theorem splitOn_slashed (names : List String) :
    (names.flatMap fun name => '/' :: name.toList).splitOn '/' =
      [] :: names.flatMap fun name => name.toList.splitOn '/' := by
  -- A name at the end is cut off at the slash before it, whatever the names before.
  induction names using List.reverseRecOn with
  | nil => rfl
  | append_singleton names name ih =>
      rw [List.flatMap_append, List.flatMap_singleton, List.splitOn_append_cons_self, ih,
        List.flatMap_append, List.flatMap_singleton, List.cons_append]

theorem splitOn_display (path : Path) : path.display.toList.splitOn '/' = [] :: path.steps := by
  rw [toList_display, splitOn_slashed, steps]

theorem display_eq_iff : first.display = second.display ↔ first.steps = second.steps := by
  constructor
  · intro same
    have cut : ([] : List Char) :: first.steps = [] :: second.steps := by
      rw [← splitOn_display, ← splitOn_display, same]
    exact List.tail_eq_of_cons_eq cut
  · intro same
    have cut : first.display.toList.splitOn '/' = second.display.toList.splitOn '/' := by
      rw [splitOn_display, splitOn_display, same]
    rw [← String.toList_inj, ← @List.intercalate_splitOn _ first.display.toList _ _ '/', cut,
      List.intercalate_splitOn]

/-- Names without slashes are not cut at all. -/
theorem steps_of_no_slash (noSlash : ∀ name ∈ path.below, '/' ∉ name.toList) :
    path.steps = path.segments.map String.toList := by
  have inSegments : ∀ name ∈ path.segments, '/' ∉ name.toList := by
    rw [segments, List.forall_mem_cons]
    exact ⟨by decide, noSlash⟩
  rw [steps, List.map_eq_flatMap]
  exact List.flatMap_congr fun name mem => List.splitOn_eq_singleton (inSegments name mem)

theorem eq_of_display_eq (same : first.display = second.display)
    (firstNoSlash : ∀ name ∈ first.below, '/' ∉ name.toList)
    (secondNoSlash : ∀ name ∈ second.below, '/' ∉ name.toList) : first = second := by
  rw [display_eq_iff, steps_of_no_slash firstNoSlash, steps_of_no_slash secondNoSlash] at same
  have sameSegments := List.map_injective_iff.mpr (fun _ _ => String.toList_inj.mp) same
  cases first
  cases second
  rw [mk.injEq]
  exact List.tail_eq_of_cons_eq sameSegments

end Path

namespace Session

/-- A directory with a slash in its name is one that a line asked for. -/
theorem MadeBy.exists_mkdir_of_slash {lines : List String} {name : String}
    (made : MadeBy lines name none) (slash : '/' ∈ name.toList) :
    ∃ line ∈ lines, Command.ofLine? line = some (.mkdir name) := by
  generalize directory : (none : Option String) = content? at made
  cases made with
  | starter listed =>
      have noSlash : ∀ entry ∈ starterEntries, '/' ∉ entry.name.toList := by decide
      exact absurd slash (noSlash _ listed)
  | @line line given kind name asks =>
      cases kind with
      | directory => exact ⟨line, given, asks⟩
      | file => contradiction

variable {here there : Session}

theorem pwd_eq_iff (clock later : Clock) :
    (here.run clock .pwd).2 = (there.run later .pwd).2 ↔
      here.path.display = there.path.display := by
  simp [run, Reply.showing]

theorem prompt_eq_iff : here.prompt = there.prompt ↔ here.path.display = there.path.display := by
  simp [prompt]

theorem statusLine_eq_iff (width : Nat) :
    here.statusLine width = there.statusLine width ↔
      here.path.display = there.path.display := by
  -- The display begins with a slash, so the blanks before it can be told from it.
  have unpadded (gap : Nat) (path : Path) :
      (List.replicate gap ' ' ++ path.display.toList).dropWhile (· = ' ') =
        path.display.toList := by
    rw [List.dropWhile_append_of_pos (by simp), Path.toList_display, Path.segments,
      List.flatMap_cons, List.cons_append, List.dropWhile_cons_of_neg (by decide)]
  constructor
  · intro same
    simp only [statusLine, ← String.toList_inj, String.toList_append, String.toList_ofList,
      List.append_assoc, List.append_cancel_left_eq] at same
    rw [← String.toList_inj, ← unpadded _ here.path, same, unpadded]
  · intro same
    rw [statusLine, statusLine, same]

/-- After any lines, two directories of the tree are displayed alike exactly when their names cut at
slashes are alike.  If these are two different ones, then one of them is inside or is itself a
directory that a line has made under a name with a slash.  Sessions that stand in the two show
different places to `pwd`, in the prompt and in the status line exactly when the displays differ. -/
theorem display_tells_directories (clocks : Nat → Clock) (lines : List String)
    {first second : Path}
    (firstThere : (new.executeTimed clocks lines).1.tree.isDirectory first = true)
    (secondThere : (new.executeTimed clocks lines).1.tree.isDirectory second = true) :
    (first.display = second.display ↔ first.steps = second.steps) ∧
    (first ≠ second → first.display = second.display →
      ∃ name ∈ first.below ++ second.below, '/' ∈ name.toList ∧
        ∃ line ∈ lines, Command.ofLine? line = some (.mkdir name)) ∧
    ∀ here there : Session, here.path = first → there.path = second →
      ∀ clock later width,
        ((here.run clock .pwd).2 = (there.run later .pwd).2 ↔ first.display = second.display) ∧
        (here.prompt = there.prompt ↔ first.display = second.display) ∧
        (here.statusLine width = there.statusLine width ↔ first.display = second.display) := by
  have made := eachEntry_madeBy clocks lines
  obtain ⟨_, firstOutlined⟩ := FileTree.isDirectory_iff.mp firstThere
  obtain ⟨_, secondOutlined⟩ := FileTree.isDirectory_iff.mp secondThere
  refine ⟨Path.display_eq_iff, ?_, ?_⟩
  · intro different same
    have madeNames : ∀ name ∈ first.below ++ second.below, MadeBy lines name none := by
      rw [List.forall_mem_append]
      exact ⟨made.of_mem_names firstOutlined, made.of_mem_names secondOutlined⟩
    by_contra noSlash
    have plain : ∀ name ∈ first.below ++ second.below, '/' ∉ name.toList := fun name mem slash =>
      noSlash ⟨name, mem, slash, (madeNames name mem).exists_mkdir_of_slash slash⟩
    rw [List.forall_mem_append] at plain
    exact different (Path.eq_of_display_eq same plain.1 plain.2)
  · rintro here there rfl rfl clock later width
    exact ⟨pwd_eq_iff clock later, prompt_eq_iff, statusLine_eq_iff width⟩

/-- A name with a slash is told from a path of two names that differ from its parts. -/
theorem display_tells_directories_beside_slash :
    let session := (new.executeTimed (fun _ => ⟨0, 0⟩)
      ["mkdir a/b", "mkdir a", "cd a", "mkdir c"]).1
    session.tree.isDirectory ⟨["a/b"]⟩ = true ∧ session.tree.isDirectory ⟨["a", "c"]⟩ = true ∧
      (session.moveTo ⟨["a/b"]⟩).1.prompt ≠ (session.moveTo ⟨["a", "c"]⟩).1.prompt := by
  intro session
  have firstThere : session.tree.isDirectory ⟨["a/b"]⟩ = true := by decide +kernel
  have secondThere : session.tree.isDirectory ⟨["a", "c"]⟩ = true := by decide +kernel
  obtain ⟨cut, _, shown⟩ := display_tells_directories (fun _ => ⟨0, 0⟩)
    ["mkdir a/b", "mkdir a", "cd a", "mkdir c"] firstThere secondThere
  obtain ⟨_, prompts, _⟩ := shown (session.moveTo ⟨["a/b"]⟩).1 (session.moveTo ⟨["a", "c"]⟩).1
    rfl rfl ⟨0, 0⟩ ⟨0, 0⟩ 80
  refine ⟨firstThere, secondThere, mt (prompts.trans cut).mp ?_⟩
  decide

/-- A name with a slash looks like the path of its parts, and then so does the prompt. -/
theorem same_display_with_slash :
    let session := (new.executeTimed (fun _ => ⟨0, 0⟩)
      ["mkdir a/b", "mkdir a", "cd a", "mkdir b"]).1
    let first : Path := ⟨["a/b"]⟩
    let second : Path := ⟨["a", "b"]⟩
    session.tree.isDirectory first = true ∧ session.tree.isDirectory second = true ∧
      first ≠ second ∧ first.display = second.display ∧
      (session.moveTo first).1.prompt = (session.moveTo second).1.prompt := by
  decide +kernel

end Session

end PocketShell
