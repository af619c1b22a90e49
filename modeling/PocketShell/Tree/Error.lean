/-!
# Failures of a tree

What can go wrong when a tree is read or grown.
-/

namespace PocketShell

/-- Why a step in a tree fails. -/
inductive TreeError where
  | notFound (name : String)
  | alreadyExists (name : String)
  /-- A file was used as a directory. -/
  | notADirectory
  /-- A name on the way is missing or is the name of a file. -/
  | directoryNotFound
deriving DecidableEq, Repr

def TreeError.message : TreeError → String
  | .notFound name => "'" ++ name ++ "': no such entry"
  | .alreadyExists name => "'" ++ name ++ "': already exists"
  | .notADirectory => "not a directory"
  | .directoryNotFound => "directory not found"

end PocketShell
