import PocketShell.Text.LetterCase.Classes
import PocketShell.Text.LetterCase.Runs

/-!
# Lower case

The lower-case form of a text by the full Unicode rules.  Nearly every character
is lowered on its own; the capital I with a dot above becomes two characters,
and the capital sigma becomes the final sigma at the end of a word, which
depends on the characters around it.
-/

namespace PocketShell
namespace Text

/-- The lower-case form of a code point, read off the runs in order. -/
def lowerCodeIn : List CaseRun → Nat → Nat
  | [], code => code
  | run :: rest, code =>
      if code < run.first then code
      else if run.holds code then (code + run.shift).toNat
      else lowerCodeIn rest code

def lowerChar (char : Char) : List Char :=
  if char = '\u0130' then ['i', '\u0307']
  else [Char.ofNat (lowerCodeIn lowerRuns char.toNat)]

/-- Whether the first character that is not passed over has a case. -/
def meetsCased (chars : List Char) : Bool :=
  ((chars.dropWhile isCaseIgnorable).head?).any isCased

/-- The small sigma between the characters before it, nearest first, and those after it. -/
def smallSigma (before after : List Char) : Char :=
  if meetsCased before && !meetsCased after then 'ς' else 'σ'

/-- Lowers the characters that follow those already passed, which stand nearest first. -/
def lowerFrom (before : List Char) : List Char → List Char
  | [] => []
  | char :: after =>
      (if char = 'Σ' then [smallSigma before after] else lowerChar char) ++
        lowerFrom (char :: before) after

def lowerCase (text : String) : String :=
  String.ofList (lowerFrom [] text.toList)

end Text
end PocketShell
