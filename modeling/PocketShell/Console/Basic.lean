import PocketShell.Console.Recall
import PocketShell.Console.Ring
import PocketShell.Session.Basic

/-!
# The console

The console is what the user sees and types into: a session, the newest lines
shown so far, the line being edited, and the position among the lines given
before.  Submitting a line executes it and shows it behind the prompt as it was
before, with the lines of the reply after it.
-/

namespace PocketShell

inductive Action where
  | insert (char : Char)
  | backspace
  | submit
  | older
  | newer
  | complete
  | quit
deriving DecidableEq, Repr

/-- What comes of an action. -/
inductive Event where
  /-- The screen has to be drawn again. -/
  | redraw
  | ignored
  | quit
deriving DecidableEq, Repr

/-- A session with the screen and the line being edited. -/
structure Console where
  session : Session
  scrollback : Ring Line
  recalling : Recall
  input : String

namespace Console

def scrollbackCapacity : Nat :=
  1000

/-- The lines that are shown before the first line is typed. -/
def openingLines (banner : Bool) : List Line :=
  if banner then Wording.welcome.map .ofContent else []

def start (banner : Bool) : Console where
  session := .new
  scrollback := (Ring.empty scrollbackCapacity (by decide)).extend (openingLines banner)
  recalling := .idle
  input := ""

/-- Executes a line and shows it with its reply. -/
def submit (clock : Clock) (console : Console) (line : String) : Console × Reply :=
  let (session, reply) := console.session.execute clock line
  let scrollback :=
    if reply.clearsScreen then console.scrollback.clear
    else
      (console.scrollback.push (.command console.session.prompt (Text.trim line))).extend
        reply.lines
  ({ console with session := session, scrollback := scrollback, recalling := .idle }, reply)

/-- Puts a line that was brought back in the place of the one being edited. -/
def recalled (console : Console) : Recall × Option String → Console × Event
  | (position, some line) => ({ console with recalling := position, input := line }, .redraw)
  | (position, none) => ({ console with recalling := position }, .ignored)

def handle (clock : Clock) (console : Console) : Action → Console × Event
  | .insert char => ({ console with input := console.input.push char }, .redraw)
  | .backspace =>
      ({ console with input := String.ofList console.input.toList.dropLast }, .redraw)
  | .submit => (({ console with input := "" }.submit clock console.input).1, .redraw)
  | .older => console.recalled (console.recalling.older console.session.history)
  | .newer => console.recalled (console.recalling.newer console.session.history)
  | .complete => (console, .ignored)
  | .quit => (console, .quit)

end Console

end PocketShell
