/-!
# Recall

Lines given before can be brought back one by one.  The position among them is
kept as an index, which may lie beyond a history that has become shorter since;
it is brought back into range before it is used.
-/

namespace PocketShell

/-- Where the user stands among the lines given before. -/
structure Recall where
  /-- The index of the line that was brought back, if any was. -/
  index? : Option Nat
deriving DecidableEq, Repr

namespace Recall

def idle : Recall :=
  ⟨none⟩

/-- The index one line back from a position in a history of the given length. -/
def olderIndex (length : Nat) : Option Nat → Nat
  | none => length - 1
  | some index => min (index - 1) (length - 1)

theorem olderIndex_lt {length : Nat} (nonempty : 0 < length) (index? : Option Nat) :
    olderIndex length index? < length := by
  cases index? <;> simp only [olderIndex] <;> omega

/-- Brings back the line before, and stays at the oldest one.  Without any history there is no
line to bring back. -/
def older (position : Recall) (history : List String) : Recall × Option String :=
  if nonempty : 0 < history.length then
    have inside := olderIndex_lt nonempty position.index?
    (⟨some (olderIndex history.length position.index?)⟩,
      some history[olderIndex history.length position.index?])
  else (position, none)

/-- Brings back the line after.  After the newest one comes an empty line, and none is brought
back then. -/
def newer (position : Recall) (history : List String) : Recall × Option String :=
  match position.index? with
  | none => (position, none)
  | some index =>
      if inside : index + 1 < history.length then
        (⟨some (index + 1)⟩, some history[index + 1])
      else (idle, some "")

section Steps

variable {position : Recall} {history : List String} {index : Nat}

theorem older_of_olderIndex (inside : index < history.length)
    (indexEq : olderIndex history.length position.index? = index) :
    position.older history = (⟨some index⟩, some history[index]) := by
  subst indexEq
  rw [older, dif_pos (by omega)]

theorem older_of_empty (empty : history.length = 0) :
    position.older history = (position, none) := by
  rw [older, dif_neg (by omega)]

theorem newer_of_idle (notBrowsing : position.index? = none) :
    position.newer history = (position, none) := by
  rw [newer, notBrowsing]

theorem newer_of_lt (browsing : position.index? = some index)
    (inside : index + 1 < history.length) :
    position.newer history = (⟨some (index + 1)⟩, some history[index + 1]) := by
  rw [newer, browsing]
  simp only [dif_pos inside]

theorem newer_of_length_le (browsing : position.index? = some index)
    (beyond : history.length ≤ index + 1) : position.newer history = (idle, some "") := by
  rw [newer, browsing]
  simp only [dif_neg (Nat.not_lt.mpr beyond)]

end Steps

end Recall

end PocketShell
