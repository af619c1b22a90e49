/-!
# Nodes of a tree

A node is a file with its content or a directory with its entries.  The entries
of a directory keep the order in which they were added.  Two nodes are the same
when they differ at most in the order of entries; no list of entries built by
adding under a free name holds a name twice.
-/

namespace PocketShell

inductive EntryKind where
  | directory
  | file
deriving DecidableEq, Repr

/-- A file or a directory with its named entries, oldest first. -/
inductive Node where
  | file (content : String)
  | directory (entries : List (String × Node))

namespace Node

def emptyDirectory : Node :=
  .directory []

def emptyFile : Node :=
  .file ""

def kind : Node → EntryKind
  | .file _ => .file
  | .directory _ => .directory

def isDirectory (node : Node) : Bool :=
  node.kind = .directory

def content? : Node → Option String
  | .file content => some content
  | .directory _ => none

def entries? : Node → Option (List (String × Node))
  | .file _ => none
  | .directory entries => some entries

/-- A new node of the kind, with nothing in it. -/
def blank : EntryKind → Node
  | .directory => emptyDirectory
  | .file => emptyFile

mutual

/-- Whether two nodes hold the same, whatever the order of entries. -/
def same : Node → Node → Bool
  | .file content, .file other => content = other
  | .directory entries, .directory others =>
      entries.length = others.length && sameEntries entries others
  | _, _ => false

/-- Whether every entry has a same node under its name among the others. -/
def sameEntries : List (String × Node) → List (String × Node) → Bool
  | [], _ => true
  | (name, node) :: rest, others =>
      (match others.lookup name with
        | some other => same node other
        | none => false) && sameEntries rest others

end

/-- A row of the listing of a whole tree: how deep a node lies below the root, its name, and
its content if it is a file. -/
structure Row where
  depth : Nat
  name : String
  content? : Option String
deriving DecidableEq, Repr

mutual

/-- The rows of a node and of all below it, each node before its entries. -/
def rowsAt (depth : Nat) (name : String) : Node → List Row
  | .file content => [⟨depth, name, some content⟩]
  | .directory entries => ⟨depth, name, none⟩ :: rowsOfEntries (depth + 1) entries

def rowsOfEntries (depth : Nat) : List (String × Node) → List Row
  | [] => []
  | (name, node) :: rest => rowsAt depth name node ++ rowsOfEntries depth rest

end

/-- The rows of a whole tree, whose root has no name. -/
def rows (root : Node) : List Row :=
  rowsAt 0 "" root

end Node

end PocketShell
