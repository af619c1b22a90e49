import PocketShell.Text.Blank

/-!
# Words of a text

A word is a maximal run of characters that are not blank.  Trimming takes the
blank characters off both ends of a text.  Both use the same class of blank
characters, so a text has no word exactly when nothing is left of it by
trimming.
-/

namespace PocketShell
namespace Text

/-- The words of a list of characters, in order. -/
def splitWords : List Char → List (List Char)
  | [] => []
  | char :: rest =>
      if isBlank char then splitWords rest
      else
        (char :: rest.takeWhile (!isBlank ·)) :: splitWords (rest.dropWhile (!isBlank ·))
termination_by chars => chars.length
decreasing_by
  · simp
  · have := (List.dropWhile_sublist (!isBlank ·) (l := rest)).length_le
    simp only [List.length_cons]
    omega

/-- The words of a text, in order. -/
def words (text : String) : List String :=
  (splitWords text.toList).map String.ofList

/-- A list of characters without the blank ones at its two ends. -/
def trimBlanks (chars : List Char) : List Char :=
  ((chars.dropWhile isBlank).reverse.dropWhile isBlank).reverse

/-- A text without the blank characters at its two ends. -/
def trim (text : String) : String :=
  String.ofList (trimBlanks text.toList)

end Text
end PocketShell
