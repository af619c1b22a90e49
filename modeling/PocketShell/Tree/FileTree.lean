import PocketShell.Path
import PocketShell.Tree.Walk

/-!
# The tree of a session

A file tree is the node at the home directory.  Paths address the nodes in it,
home the root itself.  A new tree starts with a few files and directories of its
own, and grows by insertion only.
-/

namespace PocketShell

/-- The tree below the home directory. -/
structure FileTree where
  root : Node

/-- An entry that a new tree starts with; without content it is a directory. -/
structure StarterEntry where
  directory : Path
  name : String
  content? : Option String
deriving DecidableEq, Repr

namespace StarterEntry

def node (entry : StarterEntry) : Node :=
  match entry.content? with
  | some content => .file content
  | none => .emptyDirectory

/-- The names below home that lead to the entry, with slashes between them. -/
def pathText (entry : StarterEntry) : String :=
  "/".intercalate (entry.directory.join entry.name).below

end StarterEntry

/-- What a new tree starts with, each directory before what lies in it. -/
def starterEntries : List StarterEntry :=
  [⟨.home, "readme.txt",
      some "Bem-vindo ao Terminal Android!\nUse \"help\" para ver comandos disponíveis."⟩,
    ⟨.home, "projects", none⟩,
    ⟨Path.home.join "projects", "app.js",
      some "console.log(\"Hello from Android Terminal!\");"⟩,
    ⟨.home, "documents", none⟩]

namespace FileTree

def empty : FileTree :=
  ⟨.emptyDirectory⟩

def nodeAt (tree : FileTree) (path : Path) : Except TreeError Node :=
  tree.root.resolve path.below

def directoryAt (tree : FileTree) (path : Path) : Except TreeError Node :=
  match tree.nodeAt path with
  | .ok (.directory entries) => .ok (.directory entries)
  | .ok (.file _) => .error .directoryNotFound
  | .error failure => .error failure

def isDirectory (tree : FileTree) (path : Path) : Bool :=
  match tree.directoryAt path with
  | .ok _ => true
  | .error _ => false

def entryAt (tree : FileTree) (path : Path) (name : String) : Except TreeError Node :=
  match tree.directoryAt path with
  | .ok directory => directory.child name
  | .error failure => .error failure

/-- The tree with one more entry in the directory at the path. -/
def insertAt (tree : FileTree) (path : Path) (name : String) (added : Node) :
    Except TreeError FileTree :=
  match tree.root.placeAt path.below with
  | .error failure => .error failure
  | .ok place =>
      match place.node.insert name added with
      | .error failure => .error failure
      | .ok grown => .ok ⟨place.replacedBy grown⟩

/-- The kinds and names of the entries of the directory at the path, oldest first. -/
def list (tree : FileTree) (path : Path) : Except TreeError (List (EntryKind × String)) :=
  match tree.directoryAt path with
  | .ok directory =>
      match directory.entries? with
      | some entries => .ok (entries.map fun entry => (entry.2.kind, entry.1))
      | none => .error .directoryNotFound
  | .error failure => .error failure

/-- The tree with one starter entry more; it stays as it is if there is no room for the entry. -/
def plant (tree : FileTree) (entry : StarterEntry) : FileTree :=
  match tree.insertAt entry.directory entry.name entry.node with
  | .ok grown => grown
  | .error _ => tree

def starter : FileTree :=
  starterEntries.foldl plant empty

/-- Whether two trees hold the same, whatever the order of entries. -/
def same (tree other : FileTree) : Bool :=
  tree.root.same other.root

end FileTree

end PocketShell
