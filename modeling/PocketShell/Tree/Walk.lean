import PocketShell.Tree.Error
import PocketShell.Tree.Node

/-!
# Ways through a tree

Names lead from a node to the nodes below it.  `Node.resolve` follows them to
read a node.  `Node.placeAt` follows them to change a node: it also keeps how to
build the whole tree again around another node.  An entry is only ever added,
under a name that is still free.
-/

namespace PocketShell

/-- The entries with another value under the name, which keeps its position. -/
def replaceEntry {α : Type} (name : String) (value : α) : List (String × α) → List (String × α)
  | [] => []
  | entry :: rest =>
      if entry.1 = name then (name, value) :: rest
      else entry :: replaceEntry name value rest

/-- A node of a tree, with the tree as a function of what stands there. -/
structure Place where
  node : Node
  /-- The whole tree with another node at this place. -/
  replacedBy : Node → Node

namespace Node

def child (node : Node) (name : String) : Except TreeError Node :=
  match node with
  | .file _ => .error .notADirectory
  | .directory entries =>
      match entries.lookup name with
      | some entry => .ok entry
      | none => .error (.notFound name)

def insert (node : Node) (name : String) (added : Node) : Except TreeError Node :=
  match node with
  | .file _ => .error .notADirectory
  | .directory entries =>
      if (entries.lookup name).isSome then .error (.alreadyExists name)
      else .ok (.directory (entries ++ [(name, added)]))

/-- The node that the names lead to.  All names but the last are names of directories. -/
def resolve : Node → List String → Except TreeError Node
  | node, [] => .ok node
  | node, name :: rest =>
      match node.child name with
      | .ok entry => entry.resolve rest
      | .error _ => .error .directoryNotFound

/-- The place that the names lead to. -/
def placeAt : Node → List String → Except TreeError Place
  | node, [] => .ok ⟨node, fun other => other⟩
  | .file _, _ :: _ => .error .directoryNotFound
  | .directory entries, name :: rest =>
      match entries.lookup name with
      | none => .error .directoryNotFound
      | some entry =>
          match entry.placeAt rest with
          | .error failure => .error failure
          | .ok place =>
              .ok ⟨place.node, fun other =>
                .directory (replaceEntry name (place.replacedBy other) entries)⟩

end Node

end PocketShell
