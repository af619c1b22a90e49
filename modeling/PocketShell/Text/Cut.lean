import PocketShell.Text.Columns

/-!
# Cutting a text

The longest beginning of a text that fits in so many columns, where each
character is measured on its own.  Characters without a width of their own stay
with what stands before them.
-/

namespace PocketShell
namespace Text

/-- The longest part from the beginning whose characters take no more than the room, each
measured on its own. -/
def cutChars (room : Nat) : List Char → List Char
  | [] => []
  | char :: rest =>
      if charColumns char ≤ room then char :: cutChars (room - charColumns char) rest else []

/-- The beginning of the text that fits in so many columns. -/
def cut (width : Nat) (text : String) : String :=
  String.ofList (cutChars width text.toList)

end Text

end PocketShell
