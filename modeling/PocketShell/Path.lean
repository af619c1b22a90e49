/-!
# Paths

A path leads from the home directory down to a directory or file.  It is kept
as the names below home, so every path begins at home and a path cannot leave
it.  A name is taken as it is: it may be empty and may hold any character.
-/

namespace PocketShell

/-- The names of a path below the home directory, outermost first. -/
structure Path where
  below : List String
deriving DecidableEq, Repr

namespace Path

def homeName : String :=
  "home"

def home : Path :=
  ⟨[]⟩

def isHome (path : Path) : Bool :=
  path.below.isEmpty

/-- All names of the path, the name of the home directory included. -/
def segments (path : Path) : List String :=
  homeName :: path.below

/-- The path of the directory around; home is around itself. -/
def parent (path : Path) : Path :=
  ⟨path.below.dropLast⟩

/-- The path of the name inside the directory at the path. -/
def join (path : Path) (name : String) : Path :=
  ⟨path.below ++ [name]⟩

/-- The path as shown to the user, with a slash before each name. -/
def display (path : Path) : String :=
  String.join (path.segments.map ("/" ++ ·))

theorem parent_join (path : Path) (name : String) : (path.join name).parent = path := by
  simp [parent, join]

theorem isHome_iff (path : Path) : path.isHome = true ↔ path = home := by
  cases path
  simp [isHome, home]

end Path

end PocketShell
