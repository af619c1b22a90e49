import PocketShell.Proofs.Text.Encoding

/-!
# Reading what was written line by line

When each of some texts is written with a line feed behind it, the lines that
are read from the bytes are the texts again, each without a carriage return that
it ended with, as that is taken for a part of the end of the line.  The texts must
not have line feeds of their own.
-/

namespace PocketShell

namespace Text

theorem pieces_bytes_join {texts : List String}
    (noLineFeed : ∀ text ∈ texts, '\n' ∉ text.toList) :
    pieces 10 (bytes (String.join (texts.map (· ++ "\n")))) =
      texts.map fun text => ⟨bytes text, true⟩ := by
  induction texts with
  | nil => simp
  | cons text rest ih =>
      have first : '\n' ∉ text.toList := noLineFeed text (by simp)
      have later := ih fun other mem => noLineFeed other (by simp [mem])
      have unmarked : (10 : UInt8) ∉ bytes text := (not_congr lineFeed_mem_bytes_iff).mpr first
      have terminated : bytes (text ++ "\n") = bytes text ++ [10] := by
        rw [bytes_append]
        rfl
      rw [List.map_cons, String.join_cons, bytes_append, terminated, List.append_assoc,
        List.singleton_append, pieces_append_cons unmarked, later, List.map_cons]

/-- A text without one carriage return at its end. -/
def withoutReturn (text : String) : String :=
  String.ofList (Piece.line '\r' ⟨text.toList, true⟩)

theorem withoutReturn_append_return (text : String) : withoutReturn (text ++ "\r") = text := by
  have chars : (text ++ "\r").toList = text.toList ++ ['\r'] := by simp
  rw [withoutReturn, chars, Piece.line, if_pos ⟨rfl, List.getLast?_concat⟩, List.dropLast_concat,
    String.ofList_toList]

theorem withoutReturn_of_getLast? {text : String} (noReturn : text.toList.getLast? ≠ some '\r') :
    withoutReturn text = text := by
  rw [withoutReturn, Piece.line, if_neg (fun ends => noReturn ends.2), String.ofList_toList]

/-- A text ends with a carriage return, or it does not and stays as it is. -/
theorem withoutReturn_cases (text : String) :
    text = withoutReturn text ++ "\r" ∨
      text.toList.getLast? ≠ some '\r' ∧ withoutReturn text = text := by
  by_cases ends : text.toList.getLast? = some '\r'
  · left
    obtain ⟨before, charsEq⟩ := List.getLast?_eq_some_iff.mp ends
    have textEq : text = String.ofList before ++ "\r" := by
      apply String.toList_injective
      simpa using charsEq
    rw [textEq, withoutReturn_append_return]
  · exact .inr ⟨ends, withoutReturn_of_getLast? ends⟩

theorem getLast?_bytes_ne_return {text : String} (noReturn : text.toList.getLast? ≠ some '\r') :
    (bytes text).getLast? ≠ some 13 := by
  intro ends
  obtain ⟨front, encoded⟩ := List.getLast?_eq_some_iff.mp ends
  have same : '\r'.toNat = (13 : UInt8).toNat := rfl
  obtain ⟨before, rfl, -⟩ := exists_of_bytes_eq_concat (by decide) same encoded
  exact noReturn (by simp)

/-- The line of an ended piece is the same for the bytes of a text and for its characters. -/
theorem line_bytes (text : String) :
    Piece.line 13 ⟨bytes text, true⟩ = bytes (withoutReturn text) := by
  rcases withoutReturn_cases text with ended | ⟨noReturn, same⟩
  · have returnByte : bytes text = bytes (withoutReturn text) ++ [13] := by
      conv => lhs; rw [ended]
      exact bytes_append _ _
    rw [returnByte, Piece.line, if_pos ⟨rfl, List.getLast?_concat⟩, List.dropLast_concat]
  · have noReturnByte := getLast?_bytes_ne_return noReturn
    rw [same, Piece.line, if_neg (fun ends => noReturnByte ends.2)]

end Text

namespace Input

theorem decodeLines_map_bytes (texts : List String) :
    decodeLines (texts.map Text.bytes) = texts := by
  induction texts with
  | nil => rfl
  | cons text rest ih => rw [List.map_cons, decodeLines, Text.fromUTF8?_bytes, ih]

/-- The lines that are read are the texts that were written, each with a line feed behind it, but
for carriage returns at their ends. -/
theorem lines_bytes_join_withoutReturn {texts : List String}
    (noLineFeed : ∀ text ∈ texts, '\n' ∉ text.toList) :
    lines (Text.bytes (String.join (texts.map (· ++ "\n")))) = texts.map Text.withoutReturn := by
  have readBytes : (texts.map fun text => (⟨Text.bytes text, true⟩ : Text.Piece UInt8)).map
      (Text.Piece.line 13) = (texts.map Text.withoutReturn).map Text.bytes := by
    rw [List.map_map, List.map_map]
    exact List.map_congr_left fun text _ => Text.line_bytes text
  rw [lines, Text.pieces_bytes_join noLineFeed, readBytes, decodeLines_map_bytes]

/-- The lines that are read are the texts that were written, where none has a return at its end. -/
theorem lines_bytes_join {texts : List String}
    (noLineFeed : ∀ text ∈ texts, '\n' ∉ text.toList)
    (noReturn : ∀ text ∈ texts, text.toList.getLast? ≠ some '\r') :
    lines (Text.bytes (String.join (texts.map (· ++ "\n")))) = texts := by
  have unchanged : ∀ text ∈ texts, Text.withoutReturn text = id text :=
    fun text mem => Text.withoutReturn_of_getLast? (noReturn text mem)
  rw [lines_bytes_join_withoutReturn noLineFeed, List.map_congr_left unchanged, List.map_id]

/-- A return written before each line feed is read as a part of the end of the line, and one before
it as a part of the text. -/
theorem lines_bytes_join_return {texts : List String}
    (noLineFeed : ∀ text ∈ texts, '\n' ∉ text.toList) :
    lines (Text.bytes (String.join (texts.map (· ++ "\r\n")))) = texts := by
  have sameStream : texts.map (· ++ "\r\n") = (texts.map (· ++ "\r")).map (· ++ "\n") := by
    rw [List.map_map]
    apply List.map_congr_left
    intro text _
    have inOneStep : text ++ "\r" ++ "\n" = text ++ "\r\n" := String.append_assoc
    exact inOneStep.symm
  have noLineFeedBefore : ∀ text ∈ texts.map (· ++ "\r"), '\n' ∉ text.toList := by
    rw [List.forall_mem_map]
    intro text mem
    simpa using noLineFeed text mem
  have restored : ∀ text ∈ texts, Text.withoutReturn (text ++ "\r") = id text :=
    fun text _ => Text.withoutReturn_append_return text
  rw [sameStream, lines_bytes_join_withoutReturn noLineFeedBefore, List.map_map]
  exact (List.map_congr_left restored).trans (List.map_id texts)

end Input

end PocketShell
