import PocketShell.Text.Pieces

/-!
# Lines of input

Input comes as bytes.  It is cut into lines at the line feeds, and a carriage
return before a line feed belongs to the end of the line.  Reading stops at the
first line that is not UTF-8.
-/

namespace PocketShell
namespace Input

/-- The texts that the lines of bytes stand for, up to the first that is not UTF-8. -/
def decodeLines : List (List UInt8) → List String
  | [] => []
  | bytes :: rest =>
      match String.fromUTF8? bytes.toByteArray with
      | some line => line :: decodeLines rest
      | none => []

def lines (bytes : List UInt8) : List String :=
  decodeLines ((Text.pieces 10 bytes).map (Text.Piece.line 13))

end Input
end PocketShell
