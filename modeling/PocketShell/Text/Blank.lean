import PocketShell.Text.RangeTable

/-!
# Blank characters

A character is blank when Unicode gives it the property White_Space.  The class
has 25 members and is the same for trimming a line and for splitting it into
words.
-/

namespace PocketShell
namespace Text

/-- The code points with the property White_Space. -/
def blankRanges : RangeTable :=
  [(0x09, 0x0D), (0x20, 0x20), (0x85, 0x85), (0xA0, 0xA0), (0x1680, 0x1680),
    (0x2000, 0x200A), (0x2028, 0x2029), (0x202F, 0x202F), (0x205F, 0x205F),
    (0x3000, 0x3000)]

theorem blankRanges_ascending : blankRanges.Ascending := by decide

/-- Whether the character separates words. -/
def isBlank (char : Char) : Bool :=
  blankRanges.covers char.toNat

end Text
end PocketShell
