import PocketShell.Text.Quoted
import PocketShell.Tree.Node

/-!
# Lines of output

A line is kept by what it means, and what it shows follows from that.  Its tag
tells the kind of line, so that a reader of records need not guess from the text
whether a line is an error.
-/

namespace PocketShell

inductive Line where
  /-- A line as it was typed behind the prompt. -/
  | command (prompt input : String)
  | text (content : String)
  | error (message : String)
  | empty
  | entry (kind : EntryKind) (name : String)
deriving DecidableEq, Repr

/-- The picture before the name of an entry. -/
def EntryKind.marker : EntryKind → String
  | .directory => "📁"
  | .file => "📄"

namespace Line

/-- The line with the given content, which is empty if there is none. -/
def ofContent (content : String) : Line :=
  if content = "" then .empty else .text content

def display : Line → String
  | .command prompt input => prompt ++ " " ++ input
  | .text content => content
  | .error message => message
  | .empty => ""
  | .entry kind name => kind.marker ++ " " ++ name

def tag : Line → String
  | .command _ _ => "command"
  | .text _ => "text"
  | .error _ => "error"
  | .empty => "empty"
  | .entry .directory _ => "dir"
  | .entry .file _ => "file"

def isError : Line → Bool
  | .error _ => true
  | _ => false

/-- The line as a JSON object of its tag and what it shows. -/
def record (line : Line) : String :=
  "\x7b\"kind\":" ++ Text.quote line.tag ++ ",\"text\":" ++ Text.quote line.display ++ "\x7d"

end Line

end PocketShell
