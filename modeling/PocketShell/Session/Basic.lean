import PocketShell.Clock.Basic
import PocketShell.Command.Request
import PocketShell.Text.Pieces
import PocketShell.Tree.FileTree
import PocketShell.Wording

/-!
# Sessions

A session stands at a path in a tree of its own and keeps the lines that it was
given.  Only a change of directory moves it, and only a command that makes an
entry grows its tree.  A command that fails does neither.
-/

namespace PocketShell

structure Session where
  path : Path
  tree : FileTree
  /-- The lines given so far that were not blank, oldest first. -/
  history : List String

namespace Session

def new : Session :=
  ⟨.home, .starter, []⟩

/-- What stands before the line that is typed. -/
def prompt (session : Session) : String :=
  Wording.promptUser ++ "@" ++ Wording.promptHost ++ ":" ++ session.path.display ++ "$"

/-- The entries of the directory in which the session stands. -/
def listing (session : Session) : Reply :=
  match session.tree.list session.path with
  | .ok entries => .framed (entries.map fun entry => .entry entry.1 entry.2)
  | .error _ => (Failure.directoryNotFound none).reply

def moveTo (session : Session) (path : Path) : Session × Reply :=
  ({ session with path := path }, .blank)

/-- Moves the session to the destination, which has to be a directory. -/
def go (session : Session) : Destination → Session × Reply
  | .home => session.moveTo .home
  | .parent => session.moveTo session.path.parent
  | .child name =>
      if session.tree.isDirectory (session.path.join name) then
        session.moveTo (session.path.join name)
      else (session, (Failure.directoryNotFound (some name)).reply)

def contentLines (content : String) : List Line :=
  if content = "" then [.empty] else (Text.lines content).map .text

/-- The content of the file under the name. -/
def fileReply (session : Session) (name : String) : Reply :=
  match session.tree.entryAt session.path name with
  | .ok (.file content) => .framed (contentLines content)
  | _ => (Failure.fileNotFound name).reply

/-- Adds an entry of the kind, with nothing in it, where the session stands. -/
def create (session : Session) (kind : EntryKind) (name : String) : Session × Reply :=
  match session.tree.insertAt session.path name (.blank kind) with
  | .ok grown => ({ session with tree := grown }, .blank)
  | .error _ => (session, (Failure.nameTaken kind name).reply)

def run (clock : Clock) (session : Session) : Command → Session × Reply
  | .help => (session, .showing (Wording.help.map .ofContent))
  | .clear => (session, .clearing)
  | .ls => (session, session.listing)
  | .pwd => (session, .showing [.text session.path.display])
  | .cd destination => session.go destination
  | .cat name => (session, session.fileReply name)
  | .echo text => (session, .showing [.text text])
  | .date => (session, .showing [.text clock.text])
  | .whoami => (session, .showing [.text Wording.identity])
  | .uname => (session, .showing [.text Wording.system])
  | .mkdir name => session.create .directory name
  | .touch name => session.create .file name
  | .invalid failure => (session, failure.reply)
  | .unknown name => (session, (Failure.unknownCommand name).reply)

def remember (session : Session) (line : String) : Session :=
  { session with history := session.history ++ [line] }

/-- Executes a line as it was typed.  A blank line is answered by an empty one and not kept. -/
def execute (clock : Clock) (session : Session) (line : String) : Session × Reply :=
  let trimmed := Text.trim line
  match Request.read? trimmed with
  | none => (session, .blank)
  | some request => (session.remember trimmed).run clock request.command

/-- Executes the lines one after the other and keeps their replies. -/
def executeAll (clock : Clock) (session : Session) : List String → Session × List Reply
  | [] => (session, [])
  | line :: rest =>
      let (next, reply) := session.execute clock line
      let (last, replies) := next.executeAll clock rest
      (last, reply :: replies)

end Session

end PocketShell
