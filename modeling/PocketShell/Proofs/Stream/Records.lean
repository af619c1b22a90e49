import PocketShell.Proofs.Record.Reading
import PocketShell.Proofs.Session.Effects
import PocketShell.Proofs.Stream.Input
import PocketShell.Proofs.Stream.Output

/-!
# Reading a stream of records

A session never replies with a line that was typed behind the prompt; only a
console shows those.  So every reply of a batch is read back from its record, and
as a record holds no control character, the line feeds of the stream are exactly
the ends of the records.
-/

namespace PocketShell

theorem Line.isTyped_of_isContent {line : Line} (content : line.isContent = true) :
    line.isTyped = false := by
  cases line with
  | command prompt input => contradiction
  | _ => rfl

/-- A record is one line, also for a reader that takes a carriage return for a part of the end of
a line. -/
theorem Reply.record_on_one_line (reply : Reply) :
    '\n' ∉ reply.record.toList ∧ reply.record.toList.getLast? ≠ some '\r' := by
  have notIn {char : Char} (control : char.toNat < 0x20) : char ∉ reply.record.toList :=
    fun mem => Nat.not_le_of_lt control (not_control_of_mem_record mem)
  exact ⟨notIn (by decide), fun last => notIn (by decide) (List.mem_of_getLast? last)⟩

namespace Session

theorem isTyped_of_mem_run (clock : Clock) (session : Session) (command : Command) :
    ∀ line ∈ (session.run clock command).2.lines, line.isTyped = false := by
  by_cases isClear : command = .clear
  · rw [isClear]
    exact fun _ mem => absurd mem List.not_mem_nil
  · intro line mem
    rcases session.run_cases clock isClear with ⟨failure, failed⟩ | shows
    · rw [failed] at mem
      rw [List.mem_singleton.mp mem]
      rfl
    · exact Line.isTyped_of_isContent (shows.isContent line mem)

theorem isTyped_of_mem_execute (clock : Clock) (session : Session) (text : String) :
    ∀ line ∈ (session.execute clock text).2.lines, line.isTyped = false := by
  cases asks : Command.ofLine? text with
  | none =>
      rw [execute_of_blank asks]
      exact fun line mem =>
        Line.isTyped_of_isContent (Reply.showsContent_blank.isContent line mem)
  | some command =>
      rw [execute_of_command asks]
      exact isTyped_of_mem_run clock _ command

theorem isTyped_of_mem_executeTimed (clocks : Nat → Clock) (session : Session)
    (texts : List String) :
    ∀ reply ∈ (session.executeTimed clocks texts).2, ∀ line ∈ reply.lines,
      line.isTyped = false := by
  induction texts generalizing clocks session with
  | nil => simp [executeTimed]
  | cons text rest ih =>
      intro reply mem
      rw [executeTimed] at mem
      rcases List.mem_cons.mp mem with rfl | later
      · exact isTyped_of_mem_execute _ session text
      · exact ih _ _ reply later

end Session

namespace Batch

theorem lines_output_record (replies : List Reply) :
    Input.lines (Text.bytes (ReplyForm.record.output replies)) = replies.map Reply.record := by
  have written : ReplyForm.record.output replies =
      String.join ((replies.map Reply.record).map (· ++ "\n")) := by
    rw [ReplyForm.output, List.map_map]
    rfl
  rw [written]
  apply Input.lines_bytes_join
  · intro record mem
    obtain ⟨reply, _, rfl⟩ := List.mem_map.mp mem
    exact reply.record_on_one_line.1
  · intro record mem
    obtain ⟨reply, _, rfl⟩ := List.mem_map.mp mem
    exact reply.record_on_one_line.2

/-- A batch that writes records writes one for each line, which holds no line feed, and a line
feed behind each.  The lines of what it wrote are the records again, and each of them is read as
the reply to its line. -/
theorem records_read_back (clocks : Nat → Clock) (lines : List String) :
    let executed := Session.new.executeTimed clocks lines
    let batch := runTimed clocks .record .unbounded lines
    let read := Input.lines batch.1.taken.data.toList
    batch.2 = .ok executed.1 ∧
      batch.1.taken = (String.join (executed.2.map (·.record ++ "\n"))).toUTF8 ∧
      executed.2.length = lines.length ∧
      (∀ reply ∈ executed.2, '\n' ∉ reply.record.toList) ∧
      read = executed.2.map Reply.record ∧
      read.map Reply.ofRecord? = executed.2.map some := by
  intro executed batch read
  have ran : batch =
      (Sink.unbounded.receiving (ReplyForm.record.output executed.2), .ok executed.1) :=
    runTimed_unbounded clocks .record lines
  have taken : batch.1.taken = (ReplyForm.record.output executed.2).toUTF8 := by
    rw [ran]
    exact ByteArray.empty_append
  have records : read = executed.2.map Reply.record := by
    rw [← lines_output_record, Text.bytes, ← taken]
  have decoded : read.map Reply.ofRecord? = executed.2.map some := by
    rw [records, List.map_map]
    apply List.map_congr_left
    intro reply mem
    exact Reply.ofRecord?_record
      (Session.isTyped_of_mem_executeTimed clocks .new lines reply mem)
  exact ⟨congrArg Prod.snd ran, taken, Session.length_executeTimed clocks .new lines,
    fun reply _ => reply.record_on_one_line.1, records, decoded⟩

end Batch

end PocketShell
