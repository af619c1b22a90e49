/-!
# Quoted text

A text between quotation marks, as a JSON document holds it.  The quotation
mark, the backslash and the control characters below U+0020 are escaped, and
every other character stands for itself.  Hence a quoted text has no line feed.
-/

namespace PocketShell
namespace Text

/-- The two hexadecimal digits of a number below 256. -/
def hexPair (value : Nat) : List Char :=
  [(value / 16).digitChar, (value % 16).digitChar]

/-- A character as it stands between quotation marks. -/
def quotedChar (char : Char) : List Char :=
  if char = '"' then ['\\', '"']
  else if char = '\\' then ['\\', '\\']
  else if char = '\x08' then ['\\', 'b']
  else if char = '\t' then ['\\', 't']
  else if char = '\n' then ['\\', 'n']
  else if char = '\x0c' then ['\\', 'f']
  else if char = '\r' then ['\\', 'r']
  else if char.toNat < 0x20 then '\\' :: 'u' :: '0' :: '0' :: hexPair char.toNat
  else [char]

def quote (text : String) : String :=
  String.ofList ('"' :: (text.toList.flatMap quotedChar ++ ['"']))

end Text
end PocketShell
