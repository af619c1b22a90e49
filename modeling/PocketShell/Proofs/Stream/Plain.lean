import PocketShell.Proofs.Session.OneLine
import PocketShell.Proofs.Stream.Records

/-!
# Plain streams and streams of records

A plain stream cut at its line feeds gives back the lines of all replies, as no
line has a line feed of its own.  A reader of records who knows nothing of the
kinds of lines, and takes the text fields as they come, has the same lines in the
same order.
-/

namespace PocketShell

namespace Token

/-- The texts that stand as values of the key `text`. -/
def textFields : List Token → List String
  | .quoted key :: .colon :: .quoted value :: rest =>
      if key = "text" then value :: textFields rest else textFields rest
  | _ :: rest => textFields rest
  | [] => []

theorem textFields_tokens_append (line : Line) (rest : List Token) :
    textFields (line.tokens ++ rest) = line.display :: textFields rest := by
  simp [Line.tokens, textFields]

theorem textFields_listTokens_append (lines : List Line) (rest : List Token) :
    textFields (Line.listTokens lines ++ rest) = lines.map Line.display ++ textFields rest := by
  cases lines with
  | nil => rfl
  | cons line later =>
      have behindCommas : textFields ((later.flatMap fun next => .comma :: next.tokens) ++ rest) =
          later.map Line.display ++ textFields rest := by
        induction later with
        | nil => rfl
        | cons next later ih =>
            rw [List.flatMap_cons, List.cons_append, List.cons_append, List.append_assoc, textFields,
              textFields_tokens_append, ih, List.map_cons, List.cons_append]
            simp
      rw [Line.listTokens, List.append_assoc, textFields_tokens_append, behindCommas,
        List.map_cons, List.cons_append]

end Token

namespace Reply

/-- The texts of all text fields in a record, in order. -/
def textFields? (record : String) : Option (List String) :=
  (Token.read? record.toList).map Token.textFields

theorem textFields?_record (reply : Reply) :
    textFields? reply.record = some (reply.lines.map Line.display) := by
  have fields : Token.textFields reply.tokens = reply.lines.map Line.display := by
    rw [tokens, List.append_assoc]
    simp [Token.textFields, Token.textFields_listTokens_append]
  rw [textFields?, toList_record, Token.read?_flatMap_chars, Option.map_some, fields]

end Reply

theorem ReplyForm.output_plain (replies : List Reply) :
    ReplyForm.plain.output replies =
      String.join (((replies.flatMap Reply.lines).map Line.display).map (· ++ "\n")) := by
  induction replies with
  | nil => rfl
  | cons reply rest ih =>
      have first : plain.text reply =
          String.join ((reply.lines.map Line.display).map (· ++ "\n")) := by
        rw [text, List.map_map]
        rfl
      rw [output_cons, ih, first, List.flatMap_cons, List.map_append, List.map_append,
        String.join_append]

namespace Batch

/-- A batch that writes its replies plainly writes the lines of all replies, and no line has a line
feed or a carriage return in it.  So cutting the stream at its line feeds gives exactly these
lines, each of them ended; and printing every text field of the stream of records for the same
lines of input gives the same bytes. -/
theorem plain_lines_eq_text_fields (clocks : Nat → Clock) (lines : List String) :
    let executed := Session.new.executeTimed clocks lines
    let shown := (executed.2.flatMap Reply.lines).map Line.display
    let plain := runTimed clocks .plain .unbounded lines
    let records := runTimed clocks .record .unbounded lines
    (∀ text ∈ shown, '\n' ∉ text.toList ∧ '\r' ∉ text.toList) ∧
      plain.2 = .ok executed.1 ∧
      Text.pieces 10 plain.1.taken.data.toList =
        shown.map (fun text => ⟨Text.bytes text, true⟩) ∧
      Input.lines plain.1.taken.data.toList = shown ∧
      ∃ fields : List (List String),
        (Input.lines records.1.taken.data.toList).map Reply.textFields? = fields.map some ∧
          plain.1.taken = (String.join (fields.flatten.map (· ++ "\n"))).toUTF8 := by
  intro executed shown plain records
  have onOneLine : ∀ text ∈ shown, Text.OnOneLine text := by
    rw [List.forall_mem_map]
    intro line mem
    obtain ⟨reply, replyMem, lineMem⟩ := List.mem_flatMap.mp mem
    exact Session.eachOnOneLine_executeTimed clocks .new Session.eachEntry_new lines reply replyMem
      line lineMem
  have taken : plain.1.taken = (String.join (shown.map (· ++ "\n"))).toUTF8 := by
    rw [taken_unbounded, ReplyForm.output_plain]
  have takenBytes : plain.1.taken.data.toList =
      Text.bytes (String.join (shown.map (· ++ "\n"))) := by
    rw [taken, Text.bytes]
  have recordBytes : Input.lines records.1.taken.data.toList = executed.2.map Reply.record := by
    rw [taken_unbounded, ← Text.bytes, lines_output_record]
  refine ⟨onOneLine, congrArg Prod.snd (runTimed_unbounded clocks .plain lines), ?_, ?_, ?_⟩
  · rw [takenBytes]
    exact Text.pieces_bytes_join fun text mem => (onOneLine text mem).1
  · rw [takenBytes]
    apply Input.lines_bytes_join
    · exact fun text mem => (onOneLine text mem).1
    · exact fun text mem ends => (onOneLine text mem).2 (List.mem_of_getLast? ends)
  · refine ⟨executed.2.map fun reply => reply.lines.map Line.display, ?_, ?_⟩
    · rw [recordBytes, List.map_map, List.map_map]
      exact List.map_congr_left fun reply _ => reply.textFields?_record
    · rw [taken, ← List.flatMap_def, ← List.map_flatMap]

end Batch

end PocketShell
