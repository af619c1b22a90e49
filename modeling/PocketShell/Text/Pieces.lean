/-!
# Pieces of a stream and lines of a text

A stream of characters or bytes is cut after every end mark.  What follows the
last mark is a piece of its own if there is anything, and it alone is not ended
by a mark.  A line is a piece without its mark and without one return mark
directly before it.
-/

namespace PocketShell
namespace Text

/-- A part of a stream between two end marks. -/
structure Piece (α : Type) where
  /-- What stands before the end mark. -/
  content : List α
  /-- Whether an end mark follows. -/
  ended : Bool
deriving DecidableEq, Repr

/-- The stream cut after every end mark. -/
def pieces {α : Type} [DecidableEq α] (mark : α) : List α → List (Piece α)
  | [] => []
  | item :: rest =>
      match _cut : (item :: rest).dropWhile (· ≠ mark) with
      | [] => [⟨item :: rest, false⟩]
      | _ :: later => ⟨(item :: rest).takeWhile (· ≠ mark), true⟩ :: pieces mark later
termination_by stream => stream.length
decreasing_by
  have shorter := (List.dropWhile_sublist (· ≠ mark) (l := item :: rest)).length_le
  rw [_cut] at shorter
  simp only [List.length_cons] at shorter ⊢
  omega

section Cutting

variable {α : Type} [DecidableEq α] {mark : α}

@[simp]
theorem pieces_nil : pieces mark [] = [] := by
  rw [pieces]

theorem pieces_of_dropWhile {stream later : List α} {first : α}
    (cut : stream.dropWhile (· ≠ mark) = first :: later) :
    pieces mark stream = ⟨stream.takeWhile (· ≠ mark), true⟩ :: pieces mark later := by
  cases stream with
  | nil => contradiction
  | cons item rest =>
      rw [pieces]
      split
      · next ends => rw [cut] at ends; contradiction
      · next ends =>
          rw [cut] at ends
          obtain ⟨_, rfl⟩ := List.cons.inj ends
          rfl

theorem pieces_of_unmarked {item : α} {rest : List α}
    (unmarked : (item :: rest).dropWhile (· ≠ mark) = []) :
    pieces mark (item :: rest) = [⟨item :: rest, false⟩] := by
  rw [pieces]
  split
  · rfl
  · next ends => rw [unmarked] at ends; contradiction

section Unmarked

variable {content : List α} (unmarked : mark ∉ content)
include unmarked

theorem ne_mark_of_mem : ∀ item ∈ content, decide (item ≠ mark) = true := by
  intro item mem
  exact decide_eq_true fun same => unmarked (same ▸ mem)

theorem pieces_of_not_mem (notEmpty : content ≠ []) : pieces mark content = [⟨content, false⟩] := by
  have cut : (content ++ []).dropWhile (· ≠ mark) = [] :=
    List.dropWhile_append_of_pos (ne_mark_of_mem unmarked)
  rw [List.append_nil] at cut
  obtain ⟨item, rest, rfl⟩ := List.exists_cons_of_ne_nil notEmpty
  exact pieces_of_unmarked cut

theorem pieces_append_cons (rest : List α) :
    pieces mark (content ++ mark :: rest) = ⟨content, true⟩ :: pieces mark rest := by
  have cut : (content ++ mark :: rest).dropWhile (· ≠ mark) = mark :: rest := by
    rw [List.dropWhile_append_of_pos (ne_mark_of_mem unmarked)]
    simp
  have before : (content ++ mark :: rest).takeWhile (· ≠ mark) = content := by
    rw [List.takeWhile_append_of_pos (ne_mark_of_mem unmarked)]
    simp
  rw [pieces_of_dropWhile cut, before]

end Unmarked

end Cutting

/-- The piece without a return mark directly before its end mark. -/
def Piece.line {α : Type} [DecidableEq α] (returnMark : α) (piece : Piece α) : List α :=
  if piece.ended = true ∧ piece.content.getLast? = some returnMark then piece.content.dropLast
  else piece.content

/-- The lines of a text. -/
def lines (text : String) : List String :=
  (pieces '\n' text.toList).map fun piece => String.ofList (piece.line '\r')

end Text
end PocketShell
