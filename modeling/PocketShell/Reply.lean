import PocketShell.Line

/-!
# Replies

A reply is what the shell answers to one command: the lines to show, or the
request to drop what was shown before.
-/

namespace PocketShell

structure Reply where
  lines : List Line
  /-- Whether everything shown before is to be dropped. -/
  clearsScreen : Bool
deriving DecidableEq, Repr

namespace Reply

def showing (lines : List Line) : Reply :=
  ⟨lines, false⟩

def blank : Reply :=
  showing [.empty]

/-- The reply that shows the lines between two empty ones. -/
def framed (lines : List Line) : Reply :=
  showing (.empty :: (lines ++ [.empty]))

/-- The reply that drops what was shown before. -/
def clearing : Reply :=
  ⟨[], true⟩

def isError (reply : Reply) : Bool :=
  reply.lines.any Line.isError

def record (reply : Reply) : String :=
  "\x7b\"output\":[" ++ ",".intercalate (reply.lines.map Line.record) ++ "],\"clear_screen\":" ++
    (if reply.clearsScreen then "true" else "false") ++ "\x7d"

end Reply

end PocketShell
