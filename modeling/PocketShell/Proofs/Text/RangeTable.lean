import PocketShell.Text.RangeTable
import Mathlib.Data.List.TakeWhile

/-!
# Tables apart

Whether two ascending tables of ranges have a code point in common is told by one
walk through both of them: each range of the one is compared with the first range
of the other that does not lie before it.
-/

namespace PocketShell
namespace Text
namespace RangeTable

/-- Whether every range of the table lies between two ranges of the other, where both ascend. -/
def liesApart : RangeTable → RangeTable → Bool
  | [], _ => true
  | (first, last) :: rest, other =>
      match other.dropWhile (·.2 < first) with
      | [] => true
      | beside :: later => last < beside.1 && liesApart rest (beside :: later)

theorem AscendingFrom.pairwise {bound : Nat} {table : RangeTable}
    (ascending : AscendingFrom bound table) : table.Pairwise (·.1 ≤ ·.1) := by
  induction table generalizing bound with
  | nil => exact List.Pairwise.nil
  | cons range rest ih =>
      obtain ⟨_, inOrder, restAscending⟩ := ascending
      refine List.Pairwise.cons ?_ (ih restAscending)
      intro later mem
      have := bound_le_of_mem restAscending mem
      omega

/-- A range that is passed over lies before what is looked for. -/
theorem mem_dropWhile_of_le {table : RangeTable} {range : Nat × Nat} {first : Nat}
    (mem : range ∈ table) (reaches : first ≤ range.2) :
    range ∈ table.dropWhile (·.2 < first) := by
  rw [← List.takeWhile_append_dropWhile (p := (·.2 < first)) (l := table)] at mem
  rcases List.mem_append.mp mem with passed | found
  · have := List.mem_takeWhile_imp passed
    simp only [decide_eq_true_eq] at this
    omega
  · exact found

theorem not_covers_of_liesApart {table other : RangeTable} {code : Nat}
    (ascending : table.Pairwise (·.1 ≤ ·.1)) (otherAscending : other.Pairwise (·.1 ≤ ·.1))
    (apart : table.liesApart other = true) (covered : table.covers code = true) :
    other.covers code = false := by
  rw [← Bool.not_eq_true]
  intro otherCovered
  obtain ⟨range, rangeMem, lower, upper⟩ := exists_mem_of_covers covered
  obtain ⟨beside, besideMem, above, below⟩ := exists_mem_of_covers otherCovered
  clear covered otherCovered
  induction table generalizing other with
  | nil => simp at rangeMem
  | cons head rest ih =>
      obtain ⟨first, last⟩ := head
      rw [List.pairwise_cons] at ascending
      have firstLe : first ≤ code := by
        rcases List.mem_cons.mp rangeMem with rfl | later
        · exact lower
        · exact (ascending.1 range later).trans lower
      have left : beside ∈ other.dropWhile (·.2 < first) :=
        mem_dropWhile_of_le besideMem (firstLe.trans below)
      have leftAscending := otherAscending.sublist (List.dropWhile_sublist (·.2 < first))
      rw [liesApart] at apart
      cases remaining : other.dropWhile (·.2 < first) with
      | nil => simp [remaining] at left
      | cons next later =>
          rw [remaining] at apart left leftAscending
          simp only [Bool.and_eq_true, decide_eq_true_eq] at apart
          rcases List.mem_cons.mp rangeMem with rfl | inRest
          · have nextLe : next.1 ≤ beside.1 := by
              rcases List.mem_cons.mp left with rfl | behind
              · exact le_rfl
              · exact List.rel_of_pairwise_cons leftAscending behind
            simp only at upper
            omega
          · exact ih ascending.2 leftAscending apart.2 inRest left

end RangeTable
end Text
end PocketShell
