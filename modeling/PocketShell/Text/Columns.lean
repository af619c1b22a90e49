import PocketShell.Text.Columns.Emoji
import PocketShell.Text.Columns.Transparent

/-!
# Columns of a text

How many columns of a terminal a whole text takes.  The text is measured from
its end towards its start, and the share of each character depends on what
follows it: characters that are drawn as one picture or one letter form share
the columns of that form.  `Following` records what a text begins with, as far
as the share of a character put before it depends on that.
-/

namespace PocketShell
namespace Text

/-- What a text begins with, apart from a selector in front. -/
inductive Opening where
  /-- Nothing that combines with a character before. -/
  | plain
  | lineFeed
  | skinTone
  | flagLetter
  | flagLetters
  | picture
  | joinedPicture
  /-- A keycap, then a joined picture. -/
  | joinedKeycap
  /-- One letter of a flag, then a joined picture. -/
  | joinedFlagLetter
  /-- A positive even number of letters of flags, then a joined picture. -/
  | joinedFlagsEven
  /-- An odd number of letters of flags above one, then a joined picture. -/
  | joinedFlagsOdd
  /-- The end of a flag's tag after so many letters and so many digits, then a joined picture. -/
  | joinedTag (letters digits : Nat)
  | arabicAlef
  | hebrewLamed (joined : Bool)
  | khmerLetter
  | bugineseYa (joined : Bool)
  /-- The Buginese vowel sign I joined to the letter Ya. -/
  | bugineseSignYa
  | tifinaghLetter (joined : Bool)
  /-- The Tifinagh joiner before a letter. -/
  | tifinaghJoiner
  | lisuLowTone
  | orkhonI (joined : Bool)
deriving DecidableEq, Repr

/-- The selector in front of a text, which asks for a form of the character before it. -/
inductive Selector where
  | absent
  | asText
  | asPicture
deriving DecidableEq, Repr

/-- What the text after a character begins with. -/
structure Following where
  opening : Opening
  selector : Selector
deriving DecidableEq, Repr

namespace Following

def plain : Following :=
  ⟨.plain, .absent⟩

/-- The state of a text that begins with the given form and no selector. -/
def opened (opening : Opening) : Following :=
  ⟨opening, .absent⟩

end Following

namespace Opening

/-- Whether a letter form of some script is open, which a selector does not interrupt. -/
def isLetterForm : Opening → Bool
  | .arabicAlef | .hebrewLamed _ | .khmerLetter | .bugineseYa _ | .bugineseSignYa
  | .tifinaghLetter _ | .tifinaghJoiner | .lisuLowTone | .orkhonI _ => true
  | _ => false

def joined : Opening → Opening
  | .hebrewLamed _ => .hebrewLamed true
  | .bugineseYa _ => .bugineseYa true
  | .tifinaghLetter _ => .tifinaghLetter true
  | .orkhonI _ => .orkhonI true
  | opening => opening

/-- Whether a picture joined from the front is open, so that a picture selector belongs to the
character before the joiner. -/
def isJoinedPicture : Opening → Bool
  | .joinedPicture | .joinedKeycap => true
  | _ => false

/-- The form without the selector that stood before it. -/
def withoutSelector (opening : Opening) : Following :=
  if opening.isLetterForm then .opened opening else .plain

def withPictureSelector (opening : Opening) : Following :=
  ⟨if opening.isLetterForm || opening.isJoinedPicture then opening else .plain, .asPicture⟩

def withTextSelector (opening : Opening) : Following :=
  ⟨if opening.isLetterForm then opening else .plain, .asText⟩

end Opening

def between (first last code : Nat) : Bool :=
  first ≤ code && code ≤ last

/-- The letters that flags are spelt with. -/
def isFlagLetter (code : Nat) : Bool :=
  between 0x1F1E6 0x1F1FF code

def isArabicLam (code : Nat) : Bool :=
  code = 0x644 || between 0x6B5 0x6B8 code || code = 0x76A || code = 0x8A6 || code = 0x8C7

def isArabicAlef (code : Nat) : Bool :=
  code = 0x622 || code = 0x623 || code = 0x625 || code = 0x627 || between 0x671 0x673 code ||
    code = 0x675 || code = 0x773 || code = 0x774 || between 0x870 0x882 code

/-- The Khmer letters that a stacking sign before them writes below the letter before. -/
def isKhmerStacking (code : Nat) : Bool :=
  between 0x1780 0x1782 code || between 0x1784 0x1787 code || between 0x1789 0x178C code ||
    between 0x178E 0x1793 code || between 0x1795 0x1798 code || between 0x179B 0x179D code ||
    code = 0x17A0 || code = 0x17A2 || code = 0x17A7 || code = 0x17AB || code = 0x17AC ||
    code = 0x17AF

def isTifinaghLetter (code : Nat) : Bool :=
  between 0x2D31 0x2D65 code || code = 0x2D6F

/-- What a text begins with whose first character does not combine with what follows it. -/
def openingOf (char : Char) : Following :=
  let code := char.toNat
  if code = 0xFE0F then ⟨.plain, .asPicture⟩
  else if code = 0xFE0E then ⟨.plain, .asText⟩
  else if code = 0x5DC then .opened (.hebrewLamed false)
  else if isArabicAlef code then .opened .arabicAlef
  else if isKhmerStacking code then .opened .khmerLetter
  else if code = 0x1A10 then .opened (.bugineseYa false)
  else if isTifinaghLetter code then .opened (.tifinaghLetter false)
  else if between 0xA4FC 0xA4FD code then .opened .lisuLowTone
  else if code = 0x10C03 then .opened (.orkhonI false)
  else if isFlagLetter code then .opened .flagLetter
  else if between 0x1F3FB 0x1F3FF code then .opened .skinTone
  else if isEmoji char then .opened .picture
  else .plain

/-- The share of a character in a form that it builds with what follows, and what the text
then begins with; nothing if the character does not take part in the form. -/
def combine (char : Char) (opening : Opening) : Option (Int × Following) :=
  let code := char.toNat
  match opening with
  | .arabicAlef =>
      if isArabicLam code then some (0, .plain)
      else if isJoiningTransparent char then some (0, .opened .arabicAlef)
      else none
  | .hebrewLamed true => if code = 0x5D0 then some (0, .plain) else none
  | .khmerLetter => if code = 0x17D2 then some (-1, .plain) else none
  | .bugineseYa true => if code = 0x1A17 then some (0, .opened .bugineseSignYa) else none
  | .bugineseSignYa => if code = 0x1A15 then some (0, .plain) else none
  | .tifinaghLetter joined =>
      if code = 0x2D7F then some (1, .opened .tifinaghJoiner)
      else if joined && isTifinaghLetter code then some (0, .plain)
      else none
  | .tifinaghJoiner => if isTifinaghLetter code then some (-1, .plain) else none
  | .lisuLowTone => if between 0xA4F8 0xA4FB code then some (0, .plain) else none
  | .orkhonI true => if code = 0x10C32 then some (0, .plain) else none
  | .skinTone =>
      if isModifierBase char then some (0, .opened .picture)
      else if code = 0x200D then some (0, .opened .joinedPicture)
      else none
  | .flagLetter => if isFlagLetter code then some (1, .opened .flagLetters) else none
  | .flagLetters =>
      if isFlagLetter code then some (1, .opened .flagLetters)
      else if code = 0x200D then some (0, .opened .joinedPicture)
      else none
  | .picture => if code = 0x200D then some (0, .opened .joinedPicture) else none
  | .joinedPicture =>
      if code = 0x20E3 then some (0, .opened .joinedKeycap)
      else if isFlagLetter code then some (1, .opened .joinedFlagLetter)
      else if between 0x1F3FB 0x1F3FF code then some (0, .opened .skinTone)
      else if code = 0xE007F then some (0, .opened (.joinedTag 0 0))
      else if isEmoji char then some (0, .opened .picture)
      else none
  | .joinedFlagLetter | .joinedFlagsOdd =>
      if isFlagLetter code then some (-1, .opened .joinedFlagsEven) else none
  | .joinedFlagsEven =>
      if isFlagLetter code then some (3, .opened .joinedFlagsOdd)
      else if code = 0x200D then some (0, .opened .joinedPicture)
      else none
  | .joinedTag letters digits =>
      if between 0xE0061 0xE007A code && digits = 0 && letters < 6 then
        some (0, .opened (.joinedTag (letters + 1) 0))
      else if between 0xE0030 0xE0039 code && digits < 3 && letters < 5 then
        some (0, .opened (.joinedTag letters (digits + 1)))
      else if code = 0x1F3F4 && (digits = 3 || (digits = 0 && 3 ≤ letters)) then
        some (0, .opened .picture)
      else none
  | _ => none

/-- The share of a character above the Latin-1 controls that no picture selector follows. -/
def shareBefore (char : Char) (opening : Opening) : Int × Following :=
  if char.toNat = 0xFE0F then (0, opening.withPictureSelector)
  else if char.toNat = 0xFE0E then (0, opening.withTextSelector)
  else if opening.isLetterForm && opening ≠ .arabicAlef && char.toNat = 0x200D then
    (0, .opened opening.joined)
  else if opening.isLetterForm && opening ≠ .arabicAlef && isIgnorableMark char then
    (0, .opened opening)
  else
    (combine char opening).getD (codeColumns char.toNat, openingOf char)

/-- The share of a Latin character or control, and what the text then begins with.  A line feed
takes no column, nor does a carriage return before it. -/
def latinShare (char : Char) (next : Following) : Int × Following :=
  if char = '\n' then (0, .opened .lineFeed)
  else if char = '\r' && next = .opened .lineFeed then (0, .plain)
  else (1, .plain)

/-- The share of a character in the columns of a text, given what follows it, and what the text
from the character on begins with. -/
def share (char : Char) (next : Following) : Int × Following :=
  if next.selector = .asPicture && isVariationBase char then
    (if next.opening.isJoinedPicture then 0 else 2, .opened .picture)
  else
    let opening :=
      if next.selector = .asPicture then next.opening.withoutSelector.opening else next.opening
    if char.toNat ≤ 0xA0 then latinShare char next
    else if next.selector ≠ .asText || char.toNat = 0xFE0F || char.toNat = 0xFE0E then
      shareBefore char opening
    else if isTextVariationBase char then (1, .plain)
    else shareBefore char opening.withoutSelector.opening

/-- The columns of the characters together, and what they begin with. -/
def measure : List Char → Int × Following
  | [] => (0, .plain)
  | char :: rest =>
      let (columnsAfter, next) := measure rest
      let (own, following) := share char next
      (own + columnsAfter, following)

def columns (text : String) : Nat :=
  (measure text.toList).1.toNat

end Text
end PocketShell
