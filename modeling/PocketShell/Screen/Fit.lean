import PocketShell.Line
import PocketShell.Screen.Span
import PocketShell.Session.Basic
import PocketShell.Text.Cut

/-!
# Fitting the screen

A line that is wider than the screen is cut, so that it takes a single row.
Whether to cut is decided by the width of the whole line, and where to cut by
the widths of its characters one by one.
-/

namespace PocketShell

namespace Line

def style : Line → Style
  | .error _ => .error
  | .entry .directory _ => .directory
  | _ => .plain

/-- The spans of a line that need not be cut. -/
def wholeSpans : Line → List Span
  | .command prompt input => [⟨.prompt, prompt⟩, ⟨.plain, " " ++ input⟩]
  | line => [⟨line.style, line.display⟩]

/-- The spans of the line on a screen of the width. -/
def spans (line : Line) (width : Nat) : List Span :=
  if width < Text.columns line.display then [⟨line.style, Text.cut width line.display⟩]
  else line.wholeSpans

def drawn (line : Line) (width : Nat) : String :=
  Span.renderAll (line.spans width)

end Line

namespace Session

/-- The label on the left and the path on the right of a row of so many characters, with a blank
between them at least. -/
def statusLine (session : Session) (width : Nat) : String :=
  let path := session.path.display
  let gap := max 1 (width - (Wording.statusLabel.length + path.length))
  Wording.statusLabel ++ String.ofList (List.replicate gap ' ') ++ path

end Session

end PocketShell
