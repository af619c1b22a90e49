import PocketShell.Console.Keys
import PocketShell.Screen.Fit

/-!
# Frames

A frame draws the whole screen: as many of the newest lines as there is room
for, the prompt with the line being edited, and the status line in the last row.
One frame is drawn at the start and one after each action that changes what is
to be seen.  When the user leaves, the screen is cleared.
-/

namespace PocketShell

structure ScreenSize where
  columns : Nat
  rows : Nat
deriving DecidableEq, Repr

namespace ScreenSize

/-- The rows taken by the line being edited and by the status line. -/
def reservedRows : Nat :=
  2

def lineRows (size : ScreenSize) : Nat :=
  size.rows - reservedRows

end ScreenSize

/-- What clears the screen and goes to its first row. -/
def clearedScreen : String :=
  "\x1b[2J\x1b[1;1H"

namespace Console

/-- The newest lines that the screen has room for, oldest first. -/
def visibleLines (console : Console) (size : ScreenSize) : List Line :=
  console.scrollback.toList.drop (console.scrollback.size - size.lineRows)

/-- What draws the prompt and the line being edited. -/
def inputRow (console : Console) : String :=
  Span.renderAll [⟨.prompt, console.session.prompt⟩, ⟨.plain, " " ++ console.input⟩]

/-- What draws the status line in the last row and comes back. -/
def statusRow (console : Console) (size : ScreenSize) : String :=
  "\x1b7\x1b[" ++ (max 1 size.rows).repr ++ ";1H" ++
    Span.render ⟨.status, console.session.statusLine size.columns⟩ ++ "\x1b8"

def frame (console : Console) (size : ScreenSize) : String :=
  clearedScreen ++
    String.join ((console.visibleLines size).map (·.drawn size.columns ++ "\r\n")) ++
    console.inputRow ++ console.statusRow size

/-- Does what the key asks for.  A key that asks for nothing is ignored. -/
def press (clock : Clock) (console : Console) (press : KeyPress) : Console × Event :=
  match press.action? with
  | some action => console.handle clock action
  | none => (console, .ignored)

/-- The console after the keys, each pressed by the clock at its position, and the frames drawn on
the way.  Keys after the one that leaves have no effect. -/
def play (size : ScreenSize) :
    (Nat → Clock) → Console → List KeyPress → Console × List String
  | _, console, [] => (console, [])
  | clocks, console, key :: rest =>
      match console.press (clocks 0) key with
      | (next, .redraw) =>
          let (last, frames) := play size (fun position => clocks (position + 1)) next rest
          (last, next.frame size :: frames)
      | (next, .ignored) => play size (fun position => clocks (position + 1)) next rest
      | (next, .quit) => (next, [clearedScreen])

/-- All frames that are drawn for the keys while the clock runs, the first one before any key. -/
def framesTimed (clocks : Nat → Clock) (size : ScreenSize) (console : Console)
    (keys : List KeyPress) : List String :=
  console.frame size :: (play size clocks console keys).2

def frames (clock : Clock) (size : ScreenSize) (console : Console) (keys : List KeyPress) :
    List String :=
  console.framesTimed (fun _ => clock) size keys

end Console

end PocketShell
