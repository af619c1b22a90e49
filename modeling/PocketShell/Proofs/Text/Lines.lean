import PocketShell.Text.Pieces

/-!
# Lines of a text

A text is read character by character: a line feed ends a line, as does a return
with a line feed behind it, and what is left at the end is a line if there is
anything.  What is read in this way are the lines of the text.
-/

namespace PocketShell
namespace Text

/-- The lines of the characters, where the first one has begun already with those in `line`. -/
def readLines (line : List Char) : List Char → List (List Char)
  | [] => if line = [] then [] else [line]
  | '\n' :: rest => line :: readLines [] rest
  | '\r' :: '\n' :: rest => line :: readLines [] rest
  | char :: rest => readLines (line ++ [char]) rest

/-- The line that has begun has no line feed in it, and if it ends with a return, no line feed
follows. -/
theorem readLines_eq {line chars : List Char} (noLineFeed : '\n' ∉ line)
    (noEnding : line.getLast? = some '\r' → chars.head? ≠ some '\n') :
    readLines line chars = (pieces '\n' (line ++ chars)).map (Piece.line '\r') := by
  induction line, chars using readLines.induct with
  | case1 => simp [readLines]
  | case2 line notEmpty =>
      rw [readLines, if_neg notEmpty, List.append_nil, pieces_of_not_mem noLineFeed notEmpty]
      rfl
  | case3 line rest ih =>
      have noReturn : line.getLast? ≠ some '\r' := fun returns => noEnding returns rfl
      rw [readLines, pieces_append_cons noLineFeed, List.map_cons, ih List.not_mem_nil (by simp),
        Piece.line, if_neg (by simp [noReturn]), List.nil_append]
  | case4 line rest ih =>
      have marked : line ++ '\r' :: '\n' :: rest = (line ++ ['\r']) ++ '\n' :: rest := by simp
      rw [readLines, marked, pieces_append_cons (by simp [noLineFeed]), List.map_cons,
        ih List.not_mem_nil (by simp), Piece.line, if_pos (by simp), List.dropLast_concat,
        List.nil_append]
  | case5 line char rest notLineFeed notEnding ih =>
      have noLineFeedYet : '\n' ∉ line ++ [char] := by
        simpa [noLineFeed] using Ne.symm notLineFeed
      have noEndingYet : (line ++ [char]).getLast? = some '\r' → rest.head? ≠ some '\n' := by
        intro returns lineFeedNext
        rw [List.getLast?_concat, Option.some.injEq] at returns
        obtain ⟨later, rfl⟩ := List.head?_eq_some_iff.mp lineFeedNext
        exact notEnding later returns rfl
      rw [readLines, ih noLineFeedYet noEndingYet, List.append_assoc, List.singleton_append]
      · exact notLineFeed
      · exact notEnding

theorem readLines_eq_lines (text : String) :
    (readLines [] text.toList).map String.ofList = lines text := by
  rw [readLines_eq List.not_mem_nil (by simp), List.nil_append, List.map_map, lines]
  rfl

/-- A return ends a line only together with a line feed, and only the last of them goes. -/
example : readLines [] ['a', '\r', '\n', 'b', '\r', '\r', '\n', 'c', '\r'] =
    [['a'], ['b', '\r'], ['c', '\r']] := by
  decide

end Text
end PocketShell
