import PocketShell.Proofs.Session.Replay
import PocketShell.Stream.Batch

/-!
# The output of a batch

A sink without bound takes all that is written to it.  So a batch with such a
sink does not fail: it returns the session that has executed the lines, and the
bytes that the sink has taken are the texts of the replies one after the other.
-/

namespace PocketShell

def ReplyForm.text : ReplyForm → Reply → String
  | .plain, reply => String.join (reply.lines.map (·.display ++ "\n"))
  | .record, reply => reply.record ++ "\n"

def ReplyForm.output (form : ReplyForm) (replies : List Reply) : String :=
  String.join (replies.map form.text)

theorem ReplyForm.output_nil (form : ReplyForm) : form.output [] = "" :=
  rfl

theorem ReplyForm.output_cons (form : ReplyForm) (reply : Reply) (rest : List Reply) :
    form.output (reply :: rest) = form.text reply ++ form.output rest := by
  rw [output, List.map_cons, String.join_cons, output]

namespace Sink

/-- The sink without bound that has taken the text besides. -/
def receiving (sink : Sink) (text : String) : Sink :=
  ⟨sink.taken ++ text.toUTF8, none⟩

theorem receiving_receiving (sink : Sink) (text later : String) :
    (sink.receiving text).receiving later = sink.receiving (text ++ later) := by
  simp [receiving, ByteArray.append_assoc]

variable {sink : Sink}

theorem receiving_empty (unbounded : sink.room? = none) : sink.receiving "" = sink := by
  cases sink
  simpa [receiving] using unbounded.symm

theorem write_of_unbounded (unbounded : sink.room? = none) (text : String) :
    sink.write text = (sink.receiving text, true) := by
  rw [write, writeBytes, unbounded]
  rfl

theorem writeLines_of_unbounded (unbounded : sink.room? = none) (lines : List Line) :
    sink.writeLines lines = (sink.receiving (String.join (lines.map (·.display ++ "\n"))), none) := by
  induction lines generalizing sink with
  | nil => rw [writeLines, List.map_nil, String.join_nil, receiving_empty unbounded]
  | cons line rest ih =>
      rw [writeLines, write_of_unbounded unbounded]
      simp only
      rw [ih rfl, receiving_receiving, List.map_cons, String.join_cons]

theorem writeRecord_of_unbounded (unbounded : sink.room? = none) (reply : Reply) :
    sink.writeRecord reply = (sink.receiving (reply.record ++ "\n"), none) := by
  rw [writeRecord, write_of_unbounded unbounded]
  simp only
  rw [write_of_unbounded rfl]
  simp only
  rw [receiving_receiving]

theorem writeReply_of_unbounded (unbounded : sink.room? = none) (form : ReplyForm)
    (reply : Reply) : sink.writeReply form reply = (sink.receiving (form.text reply), none) := by
  cases form with
  | plain => exact writeLines_of_unbounded unbounded reply.lines
  | record => exact writeRecord_of_unbounded unbounded reply

end Sink

namespace Batch

theorem runFrom_of_unbounded {sink : Sink} (unbounded : sink.room? = none) (form : ReplyForm)
    (clocks : Nat → Clock) (session : Session) (lines : List String) :
    runFrom form clocks session sink lines =
      (sink.receiving (form.output (session.executeTimed clocks lines).2),
        .ok (session.executeTimed clocks lines).1) := by
  induction lines generalizing clocks session sink with
  | nil =>
      rw [runFrom, Session.executeTimed, ReplyForm.output_nil, Sink.receiving_empty unbounded]
  | cons line rest ih =>
      simp only [runFrom, Sink.writeReply_of_unbounded unbounded, Session.executeTimed]
      rw [ih rfl, Sink.receiving_receiving, ReplyForm.output_cons]

/-- A batch without bound writes the replies to all lines and returns the session after them. -/
theorem runTimed_unbounded (clocks : Nat → Clock) (form : ReplyForm) (lines : List String) :
    runTimed clocks form .unbounded lines =
      (Sink.unbounded.receiving (form.output (Session.new.executeTimed clocks lines).2),
        .ok (Session.new.executeTimed clocks lines).1) :=
  runFrom_of_unbounded rfl form clocks .new lines

theorem taken_unbounded (clocks : Nat → Clock) (form : ReplyForm) (lines : List String) :
    (runTimed clocks form .unbounded lines).1.taken =
      (form.output (Session.new.executeTimed clocks lines).2).toUTF8 := by
  rw [runTimed_unbounded]
  exact ByteArray.empty_append

end Batch

end PocketShell
