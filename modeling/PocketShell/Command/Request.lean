import PocketShell.Command.Basic
import PocketShell.Text.LetterCase
import PocketShell.Text.Words

/-!
# Requests

A request is a line as the shell reads it: the words of the line, the first of
them in lower case as the name of the command and the others as its arguments.
A line without words is no request.
-/

namespace PocketShell

structure Request where
  name : String
  arguments : List String
deriving DecidableEq, Repr

namespace Request

def ofWords? : List String → Option Request
  | [] => none
  | name :: arguments => some ⟨Text.lowerCase name, arguments⟩

def read? (line : String) : Option Request :=
  ofWords? (Text.words line)

def command (request : Request) : Command :=
  .ofWords request.name request.arguments

end Request

end PocketShell
