import PocketShell.Proofs.Session.Effects
import PocketShell.Proofs.Session.Standing

/-!
# What `ls` tells about the other commands

A command finds an entry by its name, by the path to it, or by going to the place
where it would be changed, and `ls` enumerates the entries.  In a session that
stands in a directory all of them tell the same: `cat` shows exactly the files of
the listing, `cd` enters exactly its directories, and an entry can be made
exactly where no name of the listing is taken.  What is made is listed last.
-/

namespace PocketShell

/-- The name in a line of a listing. -/
def Line.entryName? : Line → Option String
  | .entry _ name => some name
  | _ => none

theorem EntryKind.ofContent?_eq_file_iff {content? : Option String} :
    ofContent? content? = .file ↔ ∃ content, content? = some content := by
  cases content? <;> simp [ofContent?]

theorem EntryKind.ofContent?_eq_directory_iff {content? : Option String} :
    ofContent? content? = .directory ↔ content? = none := by
  cases content? <;> simp [ofContent?]

theorem EntryKind.ofContent?_content?_blank (kind : EntryKind) :
    ofContent? (Node.blank kind).content? = kind := by
  cases kind <;> rfl

namespace Session

variable {session : Session} {listed : List (String × Option String)} {name : String}

theorem lines_ls (here : session.Shows listed) (clock : Clock) :
    (session.run clock .ls).2.lines =
      .empty :: ((listed.map fun entry => .entry (.ofContent? entry.2) entry.1) ++ [.empty]) := by
  rw [run, listing_of_shows here]
  rfl

theorem entry_mem_ls_iff (here : session.Shows listed) (clock : Clock) {kind : EntryKind} :
    .entry kind name ∈ (session.run clock .ls).2.lines ↔
      ∃ content?, (name, content?) ∈ listed ∧ .ofContent? content? = kind := by
  rw [lines_ls here]
  simp only [List.mem_cons, List.mem_append, List.mem_map, reduceCtorEq, List.not_mem_nil,
    or_false, false_or, Line.entry.injEq]
  constructor
  · rintro ⟨⟨_, content?⟩, mem, sameKind, rfl⟩
    exact ⟨content?, mem, sameKind⟩
  · rintro ⟨content?, mem, sameKind⟩
    exact ⟨(name, content?), mem, sameKind, rfl⟩

theorem filterMap_entryName?_ls (here : session.Shows listed) (clock : Clock) :
    (session.run clock .ls).2.lines.filterMap Line.entryName? = listed.map Prod.fst := by
  rw [lines_ls here, List.filterMap_cons_none rfl, List.filterMap_append, List.filterMap_map]
  simp [Function.comp_def, Line.entryName?]

theorem isError_cat_iff (here : session.Shows listed) (clock : Clock) :
    (session.run clock (.cat name)).2.isError = false ↔
      ∃ content, listed.lookup name = some (some content) := by
  rw [run, fileReply_of_shows here]
  split
  · next content found =>
      have shows : (Reply.framed (contentLines content)).ShowsContent :=
        Reply.showsContent_framed fun _ mem => isContent_of_mem_contentLines mem
      exact iff_of_true shows.isError_eq_false ⟨content, found⟩
  · next noFile =>
      refine iff_of_false Bool.true_eq_false.mp ?_
      rintro ⟨content, found⟩
      exact noFile content found

theorem isError_cd_child_iff (here : session.Shows listed) (clock : Clock) :
    (session.run clock (.cd (.child name))).2.isError = false ↔
      listed.lookup name = some none := by
  rw [run, go_child_of_shows here]
  split
  · next found => exact iff_of_true rfl found
  · next missing => exact iff_of_false Bool.true_eq_false.mp missing

theorem isError_create_iff (here : session.Shows listed) (clock : Clock) (kind : EntryKind) :
    (session.run clock (.create kind name)).2.isError = true ↔ name ∈ listed.map Prod.fst := by
  rw [run_create]
  by_cases taken : name ∈ listed.map Prod.fst
  · rw [create_of_taken here kind taken]
    exact iff_of_true rfl taken
  · obtain ⟨tree, _, created⟩ := create_of_free here kind taken
    rw [created]
    exact iff_of_false Bool.false_ne_true taken

/-- An entry that is made stands behind all others in the directory. -/
theorem shows_create (here : session.Shows listed) {kind : EntryKind}
    (succeeded : (session.create kind name).2.isError = false) :
    (session.create kind name).1.Shows (listed ++ [(name, (Node.blank kind).content?)]) ∧
      (session.create kind name).1.path = session.path := by
  rcases session.create_cases kind name with ⟨tree, growth, created⟩ | ⟨failure, failed⟩
  · obtain ⟨before, _, outlined, after⟩ := growth.outlineAt_self
    rw [Shows, outlined, Option.some.injEq, Outline.directory.injEq] at here
    subst here
    rw [created]
    exact ⟨after, rfl⟩
  · rw [failed] at succeeded
    contradiction

/-- In every reachable session `cat` shows the files of the listing, `cd` enters its directories,
and `mkdir` and `touch` fail for the names in it, each for no other names.  The listing holds no
name twice, and gains an entry that is made just before its last line. -/
theorem Reachable.commands_agree {session : Session} (reachable : Reachable session)
    (clock : Clock) (name : String) :
    let shown := (session.run clock .ls).2.lines
    ((session.run clock (.cat name)).2.isError = false ↔ .entry .file name ∈ shown) ∧
    ((session.run clock (.cd (.child name))).2.isError = false ↔
      .entry .directory name ∈ shown) ∧
    (∀ kind, (session.run clock (.create kind name)).2.isError = true ↔
      ∃ taken, .entry taken name ∈ shown) ∧
    (shown.filterMap Line.entryName?).Nodup ∧
    ∀ kind later, (session.run clock (.create kind name)).2.isError = false →
      ∃ before, shown = before ++ [.empty] ∧
        (((session.run clock (.create kind name)).1.run later .ls).2.lines =
          before ++ [.entry kind name, .empty]) := by
  intro shown
  obtain ⟨listed, here⟩ := reachable.sound.exists_shows
  have distinct := reachable.sound.names_distinct.nodup_outlineAt here
  have memIff (kind : EntryKind) : .entry kind name ∈ shown ↔
      ∃ content?, (name, content?) ∈ listed ∧ .ofContent? content? = kind :=
    entry_mem_ls_iff here clock
  refine ⟨?_, ?_, ?_, ?_, ?_⟩
  · rw [isError_cat_iff here, memIff]
    simp only [lookup_eq_some_iff_mem distinct, EntryKind.ofContent?_eq_file_iff]
    constructor
    · rintro ⟨content, mem⟩
      exact ⟨some content, mem, content, rfl⟩
    · rintro ⟨_, mem, content, rfl⟩
      exact ⟨content, mem⟩
  · rw [isError_cd_child_iff here, memIff, lookup_eq_some_iff_mem distinct]
    simp only [EntryKind.ofContent?_eq_directory_iff, exists_eq_right]
  · intro kind
    rw [isError_create_iff here]
    constructor
    · intro inNames
      obtain ⟨⟨_, content?⟩, mem, rfl⟩ := List.mem_map.mp inNames
      exact ⟨_, (memIff _).mpr ⟨content?, mem, rfl⟩⟩
    · rintro ⟨taken, shownThere⟩
      obtain ⟨content?, mem, _⟩ := (memIff taken).mp shownThere
      exact List.mem_map_of_mem mem
  · rw [filterMap_entryName?_ls here]
    exact distinct
  · intro kind later succeeded
    rw [run_create] at succeeded ⊢
    have after := (shows_create here succeeded).1
    refine ⟨.empty :: listed.map fun entry => .entry (.ofContent? entry.2) entry.1, ?_, ?_⟩
    · exact lines_ls here clock
    · rw [lines_ls after]
      simp [EntryKind.ofContent?_content?_blank]

/-- A name in other letters is another name to all of the commands. -/
theorem Reachable.commands_agree_beside_other_letters :
    let beside := (Session.new.perform (.command ⟨0, 0⟩ (.mkdir "Notes"))).1
    Reachable beside ∧ .entry .directory "Notes" ∈ (beside.run ⟨0, 0⟩ .ls).2.lines ∧
      (beside.run ⟨0, 0⟩ (.cat "notes")).2.isError ≠ false ∧
      (beside.run ⟨0, 0⟩ (.cd (.child "notes"))).2.isError ≠ false ∧
      (beside.run ⟨0, 0⟩ (.touch "notes")).2.isError ≠ true := by
  intro beside
  have reachable : Reachable beside := .perform .new _
  have free (kind : EntryKind) : .entry kind "notes" ∉ (beside.run ⟨0, 0⟩ .ls).2.lines := by
    cases kind <;> decide
  obtain ⟨cat, cd, create, _⟩ := reachable.commands_agree ⟨0, 0⟩ "notes"
  refine ⟨reachable, by decide, mt cat.mp (free .file), mt cd.mp (free .directory), ?_⟩
  exact mt (create .file).mp fun ⟨kind, taken⟩ => free kind taken

end Session

end PocketShell
