/-!
# Tables of code point ranges

A character class of a standard is held as a list of closed ranges of code
points, ascending and apart.  Looking a code point up walks the list and stops
at the first range that starts beyond it; `covers_eq_true_iff` says that on an
ascending table this early stop loses nothing.
-/

namespace PocketShell
namespace Text

/-- Closed ranges of code points, each a pair of its first and its last one. -/
abbrev RangeTable := List (Nat × Nat)

namespace RangeTable

/-- Whether some range of an ascending table holds the code point. -/
def covers : RangeTable → Nat → Bool
  | [], _ => false
  | (first, last) :: rest, code =>
      if code < first then false
      else if code ≤ last then true
      else covers rest code

/-- Every range is in order and starts at the bound or beyond the range before. -/
def AscendingFrom : Nat → RangeTable → Prop
  | _, [] => True
  | bound, (first, last) :: rest =>
      bound ≤ first ∧ first ≤ last ∧ AscendingFrom (last + 1) rest

instance decidableAscendingFrom :
    (bound : Nat) → (table : RangeTable) → Decidable (AscendingFrom bound table)
  | _, [] => isTrue trivial
  | bound, (first, last) :: rest =>
      haveI := decidableAscendingFrom (last + 1) rest
      inferInstanceAs (Decidable (bound ≤ first ∧ first ≤ last ∧ AscendingFrom (last + 1) rest))

/-- The ranges are in order, ascending and disjoint. -/
def Ascending (table : RangeTable) : Prop :=
  AscendingFrom 0 table

instance (table : RangeTable) : Decidable (Ascending table) :=
  decidableAscendingFrom 0 table

theorem exists_mem_of_covers {table : RangeTable} {code : Nat}
    (covered : table.covers code = true) :
    ∃ range ∈ table, range.1 ≤ code ∧ code ≤ range.2 := by
  induction table with
  | nil => simp [covers] at covered
  | cons range rest ih =>
      obtain ⟨first, last⟩ := range
      simp only [covers] at covered
      by_cases below : code < first
      · simp [below] at covered
      · by_cases within : code ≤ last
        · exact ⟨(first, last), by simp, by simp only; omega, within⟩
        · simp only [below, within, if_false] at covered
          obtain ⟨found, foundMem, bounds⟩ := ih covered
          exact ⟨found, List.mem_cons_of_mem _ foundMem, bounds⟩

theorem bound_le_of_mem {bound : Nat} {table : RangeTable} {range : Nat × Nat}
    (ascending : AscendingFrom bound table) (member : range ∈ table) : bound ≤ range.1 := by
  induction table generalizing bound with
  | nil => simp at member
  | cons head rest ih =>
      obtain ⟨boundLe, inOrder, restAscending⟩ := ascending
      rcases List.mem_cons.mp member with rfl | restMember
      · exact boundLe
      · have := ih restAscending restMember
        omega

theorem covers_of_mem {bound : Nat} {table : RangeTable} {code : Nat} {range : Nat × Nat}
    (ascending : AscendingFrom bound table) (member : range ∈ table)
    (lower : range.1 ≤ code) (upper : code ≤ range.2) : table.covers code = true := by
  induction table generalizing bound with
  | nil => simp at member
  | cons head rest ih =>
      obtain ⟨first, last⟩ := head
      obtain ⟨_, inOrder, restAscending⟩ := ascending
      rcases List.mem_cons.mp member with rfl | restMember
      · simp only at lower upper
        simp only [covers, if_neg (by omega : ¬ code < first), if_pos upper]
      · have lastBelow := bound_le_of_mem restAscending restMember
        simp only [covers, if_neg (by omega : ¬ code < first),
          if_neg (by omega : ¬ code ≤ last), ih restAscending restMember]

/-- On an ascending table the early stop of the walk loses nothing. -/
theorem covers_eq_true_iff {table : RangeTable} (ascending : table.Ascending) (code : Nat) :
    table.covers code = true ↔ ∃ range ∈ table, range.1 ≤ code ∧ code ≤ range.2 :=
  ⟨exists_mem_of_covers, fun ⟨_, member, lower, upper⟩ =>
    covers_of_mem ascending member lower upper⟩

end RangeTable

end Text
end PocketShell
