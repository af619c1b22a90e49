import PocketShell.Session.Basic
import PocketShell.Stream.Sink

/-!
# Batches

A batch executes lines in a new session and writes each reply as it comes, line
by line or as one record.  It ends early when the output takes no more.
-/

namespace PocketShell

/-- How replies are written. -/
inductive ReplyForm where
  /-- Each line of a reply on a line of its own. -/
  | plain
  /-- Each reply as a JSON object on one line. -/
  | record
deriving DecidableEq, Repr

/-- Why a reply was not written to its end. -/
inductive WriteFailure where
  /-- The output ended inside of a record. -/
  | encoding
  /-- The output ended anywhere else. -/
  | writing
deriving DecidableEq, Repr

/-- The failure in words, for a sink with a limit. -/
def WriteFailure.message : WriteFailure → String
  | .encoding => "failed to encode result: limit reached"
  | .writing => "limit reached"

namespace Sink

def writeLines (sink : Sink) : List Line → Sink × Option WriteFailure
  | [] => (sink, none)
  | line :: rest =>
      match sink.write (line.display ++ "\n") with
      | (next, true) => next.writeLines rest
      | (next, false) => (next, some .writing)

/-- Writes the record of a reply, and then a line feed. -/
def writeRecord (sink : Sink) (reply : Reply) : Sink × Option WriteFailure :=
  match sink.write reply.record with
  | (next, false) => (next, some .encoding)
  | (next, true) =>
      match next.write "\n" with
      | (last, true) => (last, none)
      | (last, false) => (last, some .writing)

def writeReply (sink : Sink) (form : ReplyForm) (reply : Reply) : Sink × Option WriteFailure :=
  match form with
  | .plain => sink.writeLines reply.lines
  | .record => sink.writeRecord reply

end Sink

namespace Batch

/-- Executes the lines, each by the clock at its position, and writes their replies.  The session
is lost if the output fails. -/
def runFrom (form : ReplyForm) :
    (Nat → Clock) → Session → Sink → List String → Sink × Except WriteFailure Session
  | _, session, sink, [] => (sink, .ok session)
  | clocks, session, sink, line :: rest =>
      let (next, reply) := session.execute (clocks 0) line
      match sink.writeReply form reply with
      | (written, none) => runFrom form (fun position => clocks (position + 1)) next written rest
      | (written, some failure) => (written, .error failure)

/-- Executes the lines in a new session while the clock runs, and writes their replies to the
sink. -/
def runTimed (clocks : Nat → Clock) (form : ReplyForm) (sink : Sink) (lines : List String) :
    Sink × Except WriteFailure Session :=
  runFrom form clocks .new sink lines

def run (clock : Clock) (form : ReplyForm) (sink : Sink) (lines : List String) :
    Sink × Except WriteFailure Session :=
  runTimed (fun _ => clock) form sink lines

end Batch

end PocketShell
