import PocketShell.Launch.Program
import PocketShell.Proofs.Stream.Input
import PocketShell.Proofs.Stream.Output

/-!
# Piped lines

Lines that come in a stream of bytes are answered like lines that are given
directly, whether each is ended by a line feed or by a carriage return and a line
feed.  The reader may take a carriage return of the line itself for a part of its
end, and the session takes the blanks at the end of a line away: what the one
loses the other would not have looked at.
-/

namespace PocketShell

theorem Text.trim_withoutReturn (text : String) : trim (withoutReturn text) = trim text := by
  rcases withoutReturn_cases text with ended | ⟨_, same⟩
  · have trimmed := trim_append_return (withoutReturn text)
    rw [← ended] at trimmed
    exact trimmed.symm
  · rw [same]

/-- A session sees a line only without the blanks around it. -/
theorem Session.execute_trim (clock : Clock) (session : Session) (line : String) :
    session.execute clock (Text.trim line) = session.execute clock line := by
  simp only [execute, Text.trim_trim]

namespace Options

theorem batchLines_of_no_commands {options : Options} (noCommands : options.commands = [])
    (input : List UInt8) : options.batchLines input = Input.lines input := by
  rw [batchLines, noCommands]
  rfl

/-- Lines among the arguments are executed; without any of them nothing is, if there is no input. -/
theorem batchLines_commands (options : Options) (lines : List String) :
    batchLines { options with commands := lines } [] = lines := by
  cases lines with
  | nil =>
      rw [batchLines_of_no_commands rfl, Input.lines, Text.pieces_nil]
      rfl
  | cons line rest => rfl

end Options

namespace Batch

variable {lines others : List String}

theorem runFrom_map_trim (form : ReplyForm) (clocks : Nat → Clock) (session : Session)
    (sink : Sink) (lines : List String) :
    runFrom form clocks session sink (lines.map Text.trim) =
      runFrom form clocks session sink lines := by
  induction lines generalizing clocks session sink with
  | nil => rfl
  | cons line rest ih => simp only [List.map_cons, runFrom, Session.execute_trim, ih]

theorem runTimed_eq_of_trim_eq (sameTrimmed : others.map Text.trim = lines.map Text.trim)
    (clocks : Nat → Clock) (form : ReplyForm) (sink : Sink) :
    runTimed clocks form sink others = runTimed clocks form sink lines := by
  rw [runTimed, runTimed, ← runFrom_map_trim form clocks .new sink others, sameTrimmed,
    runFrom_map_trim]

/-- Whatever is read of lines without line feeds in them, trimming leaves the same. -/
theorem map_trim_lines_bytes_join {ending : String} (listed : ending ∈ ["\n", "\r\n"])
    (noLineFeed : ∀ line ∈ lines, '\n' ∉ line.toList) :
    (Input.lines (Text.bytes (String.join (lines.map (· ++ ending))))).map Text.trim =
      lines.map Text.trim := by
  rw [List.mem_pair] at listed
  rcases listed with rfl | rfl
  · rw [Input.lines_bytes_join_withoutReturn noLineFeed, List.map_map]
    exact List.map_congr_left fun line _ => Text.trim_withoutReturn line
  · rw [Input.lines_bytes_join_return noLineFeed]

/-- A batch of lines that are read from bytes does the same as a batch of these lines, with either
end of line, in either form and by any clocks: the sink takes the same bytes, and the batch fails
alike or returns the same session, which it does return if the sink has no limit.  So the program
exits alike and with the same output, whether the lines are its input or among its arguments. -/
theorem piped_eq_direct (clocks : Nat → Clock) (form : ReplyForm) (sink : Sink)
    (noLineFeed : ∀ line ∈ lines, '\n' ∉ line.toList) :
    (runTimed clocks form .unbounded lines).2 = .ok (Session.new.executeTimed clocks lines).1 ∧
      ∀ ending ∈ ["\n", "\r\n"],
        let piped := Text.bytes (String.join (lines.map (· ++ ending)))
        runTimed clocks form sink (Input.lines piped) = runTimed clocks form sink lines ∧
          ∀ clock options, options.commands = [] →
            Program.runBatch clock options piped =
              Program.runBatch clock { options with commands := lines } [] := by
  refine ⟨congrArg Prod.snd (runTimed_unbounded clocks form lines), ?_⟩
  intro ending listed piped
  have sameTrimmed : (Input.lines piped).map Text.trim = lines.map Text.trim :=
    map_trim_lines_bytes_join listed noLineFeed
  refine ⟨runTimed_eq_of_trim_eq sameTrimmed clocks form sink, ?_⟩
  intro clock options noCommands
  have sameRun (form : ReplyForm) :
      run clock form .unbounded (Input.lines piped) = run clock form .unbounded lines :=
    runTimed_eq_of_trim_eq sameTrimmed _ form .unbounded
  rw [Program.runBatch, Program.runBatch, Options.batchLines_of_no_commands noCommands,
    Options.batchLines_commands, sameRun]
  rfl

/-- The reader takes one of two returns at the end of a line away, and the batch does not depend on
it. -/
theorem piped_eq_direct_beside_returns :
    let lines := ["mkdir a\r", "", " \r", "echo é\r\r"]
    let read := Input.lines (Text.bytes "mkdir a\r\n\n \r\necho é\r\r\n")
    (∀ line ∈ lines, '\n' ∉ line.toList) ∧ read = ["mkdir a", "", " ", "echo é\r"] ∧
      runTimed (fun _ => ⟨0, 0⟩) .record (.limited 40) read =
        runTimed (fun _ => ⟨0, 0⟩) .record (.limited 40) lines := by
  intro lines read
  have noLineFeed : ∀ line ∈ lines, '\n' ∉ line.toList := by decide
  have piped := (piped_eq_direct (fun _ => ⟨0, 0⟩) .record (.limited 40) noLineFeed).2 "\n"
    (by decide)
  have sameRead : read = lines.map Text.withoutReturn :=
    Input.lines_bytes_join_withoutReturn noLineFeed
  exact ⟨noLineFeed, by rw [sameRead]; decide, piped.1⟩

end Batch

end PocketShell
