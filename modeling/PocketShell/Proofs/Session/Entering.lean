import PocketShell.Proofs.Session.Listing

/-!
# Entering what was made

A directory that a line has made is entered by `cd` with the same name, shows
nothing to `ls`, and is left by `cd ..`.  The one name for which this fails is
that of two dots: `mkdir` makes a directory of it like of any other word, and `cd`
takes it for the directory around.
-/

namespace PocketShell

namespace Command

theorem ofLine?_mkdir {name : String} (isWord : Text.IsWord name) :
    ofLine? ("mkdir " ++ name) = some (.mkdir name) :=
  @ofLine?_append_space "mkdir" name (by decide) (by decide +kernel) isWord

theorem ofLine?_cd {name : String} (isWord : Text.IsWord name) :
    ofLine? ("cd " ++ name) = some (.cd (.ofArgument (some name))) :=
  @ofLine?_append_space "cd" name (by decide) (by decide +kernel) isWord

theorem ofLine?_ls : ofLine? "ls" = some .ls := by
  decide +kernel

theorem ofLine?_cd_dots : ofLine? "cd .." = some (.cd .parent) := by
  decide +kernel

end Command

theorem Path.join_ne_parent (path : Path) (name : String) : path.join name ≠ path.parent := by
  intro same
  have lengths := congrArg (List.length ∘ Path.below) same
  simp only [Function.comp_apply, join, parent, List.length_append, List.length_singleton,
    List.length_dropLast] at lengths
  omega

namespace Session

/-- Whether the directory that a line has made under the name is entered by the next line, shows
nothing, and is left again. -/
def EntersAndLeaves (clocks : Nat → Clock) (session : Session) (name : String) : Prop :=
  let made := (session.execute (clocks 0) ("mkdir " ++ name)).1
  let entered := made.execute (clocks 1) ("cd " ++ name)
  let looked := entered.1.execute (clocks 2) "ls"
  let left := looked.1.execute (clocks 3) "cd .."
  entered.2.isError = false ∧ entered.1.path = session.path.join name ∧
    looked.2 = .framed [] ∧ left.2.isError = false ∧ left.1.path = session.path

variable {session : Session} {name : String}

/-- A line that makes a directory leaves the session where it is, and the directory is below it
with nothing in it. -/
theorem exists_below_of_execute_mkdir {clock : Clock} (isWord : Text.IsWord name)
    (succeeded : (session.execute clock ("mkdir " ++ name)).2.isError = false) :
    (session.execute clock ("mkdir " ++ name)).1.path = session.path ∧
      (session.execute clock ("mkdir " ++ name)).1.tree.root.outlineAt
        (session.path.join name).below = some (.directory []) := by
  rw [execute_of_command (Command.ofLine?_mkdir isWord), run] at succeeded ⊢
  rcases create_cases _ .directory name with ⟨tree, growth, created⟩ | ⟨failure, failed⟩
  · rw [created]
    exact ⟨rfl, (growth.outlineAt_grown []).trans (Node.outlineAt_nil _)⟩
  · rw [failed] at succeeded
    contradiction

/-- A line with a name other than two dots enters the directory of that name. -/
theorem execute_cd_of_below {listed : List (String × Option String)} (clock : Clock)
    (isWord : Text.IsWord name) (notDots : name ≠ "..")
    (below : session.tree.root.outlineAt (session.path.join name).below =
      some (.directory listed)) :
    session.execute clock ("cd " ++ name) =
      (session.remember (Text.trim ("cd " ++ name))).moveTo (session.path.join name) := by
  rw [execute_of_command (Command.ofLine?_cd isWord), run, Destination.ofArgument, if_neg notDots,
    go]
  exact if_pos (FileTree.isDirectory_iff.mpr ⟨listed, below⟩)

theorem execute_ls_of_shows {listed : List (String × Option String)} (clock : Clock)
    (here : session.Shows listed) :
    session.execute clock "ls" =
      (session.remember (Text.trim "ls"),
        .framed (listed.map fun entry => .entry (.ofContent? entry.2) entry.1)) := by
  rw [execute_of_command Command.ofLine?_ls, run]
  exact congrArg _ (listing_of_shows here)

theorem execute_cd_dots (clock : Clock) (session : Session) :
    session.execute clock "cd .." =
      (session.remember (Text.trim "cd ..")).moveTo session.path.parent := by
  rw [execute_of_command Command.ofLine?_cd_dots]
  rfl

/-- Whatever the session, a word whose directory can be made names one that is entered and left,
unless the word is two dots. -/
theorem entersAndLeaves_iff (clocks : Nat → Clock) (session : Session) {name : String}
    (isWord : Text.IsWord name)
    (succeeded : (session.execute (clocks 0) ("mkdir " ++ name)).2.isError = false) :
    session.EntersAndLeaves clocks name ↔ name ≠ ".." := by
  obtain ⟨pathMade, below⟩ := exists_below_of_execute_mkdir isWord succeeded
  rw [← pathMade] at below
  unfold EntersAndLeaves
  generalize (session.execute (clocks 0) ("mkdir " ++ name)).1 = made at pathMade below
  rw [← pathMade]
  constructor
  · rintro ⟨-, entered, -⟩ rfl
    -- The line leads to the directory around, whose path is too short to be that of the new one.
    have around : (made.execute (clocks 1) ("cd " ++ "..")).1.path = made.path.parent :=
      congrArg (fun result => result.1.path) (execute_cd_dots (clocks 1) made)
    exact made.path.join_ne_parent ".." (entered.symm.trans around)
  · intro notDots
    dsimp only
    rw [execute_cd_of_below (clocks 1) isWord notDots below]
    set inside := ((made.remember (Text.trim ("cd " ++ name))).moveTo (made.path.join name)).1
    have nothing : inside.Shows [] := below
    rw [execute_ls_of_shows (clocks 2) nothing, execute_cd_dots]
    exact ⟨rfl, rfl, rfl, rfl, made.path.parent_join name⟩

/-- A slash in a name is a character like others, so that a name of two parts is entered and left
in one step. -/
theorem entersAndLeaves_with_slash :
    let inside := (new.execute ⟨0, 0⟩ "cd projects").1
    Text.IsWord "a/.." ∧ (inside.execute ⟨0, 0⟩ ("mkdir " ++ "a/..")).2.isError = false ∧
      inside.EntersAndLeaves (fun _ => ⟨0, 0⟩) "a/.." := by
  intro inside
  have isWord : Text.IsWord "a/.." := by decide
  have succeeded : (inside.execute ⟨0, 0⟩ ("mkdir " ++ "a/..")).2.isError = false := by
    decide +kernel
  have law := entersAndLeaves_iff (fun _ => ⟨0, 0⟩) inside isWord succeeded
  exact ⟨isWord, succeeded, law.mpr (by decide)⟩

/-- In a new session a directory of the name `..` can be made but not entered. -/
theorem not_entersAndLeaves_dots :
    Reachable new ∧ Text.IsWord ".." ∧
      (new.execute ⟨0, 0⟩ ("mkdir " ++ "..")).2.isError = false ∧
      ¬ new.EntersAndLeaves (fun _ => ⟨0, 0⟩) ".." := by
  refine ⟨.new, by decide, by decide +kernel, ?_⟩
  rintro ⟨-, entered, -⟩
  have atHome : ((new.execute ⟨0, 0⟩ ("mkdir " ++ "..")).1.execute ⟨0, 0⟩
      ("cd " ++ "..")).1.path = .home := by
    decide +kernel
  exact absurd (atHome.symm.trans entered) (by decide)

end Session

end PocketShell
