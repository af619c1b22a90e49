/-!
# Spans

What is drawn on the screen is a row of spans, each a text in one style.  A
terminal is told the style by control sequences before and after the text, which
take no room on the screen.
-/

namespace PocketShell

inductive Style where
  | plain
  | prompt
  | error
  | directory
  | status
deriving DecidableEq, Repr

namespace Style

/-- What tells the terminal to begin the style. -/
def opening : Style → String
  | .plain => ""
  | .prompt => "\x1b[38;5;10m\x1b[1m"
  | .error => "\x1b[38;5;9m"
  | .directory => "\x1b[38;5;14m\x1b[1m"
  | .status => "\x1b[7m"

def closing : Style → String
  | .plain => ""
  | .error => "\x1b[39m"
  | .prompt | .directory | .status => "\x1b[0m"

end Style

structure Span where
  style : Style
  text : String
deriving DecidableEq, Repr

namespace Span

def render (span : Span) : String :=
  span.style.opening ++ span.text ++ span.style.closing

def renderAll (spans : List Span) : String :=
  String.join (spans.map render)

/-- The text that the spans show. -/
def visible (spans : List Span) : String :=
  String.join (spans.map Span.text)

end Span

end PocketShell
