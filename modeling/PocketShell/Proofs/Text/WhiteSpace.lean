import PocketShell.Proofs.Text.Words

/-!
# White space

Unicode gives 25 characters the property White_Space.  Written out one by one they
are the blank characters, and the words of a text are what stands between them.
-/

namespace PocketShell
namespace Text

/-- The characters with the property White_Space. -/
def whiteSpace : List Char :=
  ['\t', '\n', '\u000B', '\u000C', '\r', ' ', '\u0085', '\u00A0', '\u1680', '\u2000', '\u2001',
    '\u2002', '\u2003', '\u2004', '\u2005', '\u2006', '\u2007', '\u2008', '\u2009', '\u200A',
    '\u2028', '\u2029', '\u202F', '\u205F', '\u3000']

/-- The pieces between white space that are not empty. -/
def piecesBetween (chars : List Char) : List (List Char) :=
  (chars.splitOnP (· ∈ whiteSpace)).filter (· ≠ [])

def wordsBetween (text : String) : List String :=
  (piecesBetween text.toList).map String.ofList

theorem mem_whiteSpace_iff {char : Char} : char ∈ whiteSpace ↔ isBlank char = true := by
  have codes : whiteSpace.map Char.toNat =
      blankRanges.flatMap fun range => List.range' range.1 (range.2 + 1 - range.1) := by
    decide
  rw [isBlank, RangeTable.covers_eq_true_iff blankRanges_ascending,
    ← List.mem_map_of_injective (fun _ _ same => Char.toNat_inj.mp same), codes, List.mem_flatMap]
  refine exists_congr fun range => and_congr_right fun mem => ?_
  rw [List.mem_range'_1]
  omega

section Pieces

variable {char : Char} {word rest : List Char}

theorem piecesBetween_cons_of_blank (blank : isBlank char = true) (rest : List Char) :
    piecesBetween (char :: rest) = piecesBetween rest := by
  have cut := List.splitOnP_append_cons (p := (· ∈ whiteSpace)) [] rest
    (decide_eq_true (mem_whiteSpace_iff.mpr blank))
  rw [List.nil_append, List.splitOnP_nil] at cut
  simp [piecesBetween, cut]

/-- A word goes on up to the next blank. -/
theorem piecesBetween_append (notEmpty : word ≠ []) (notBlank : ∀ char ∈ word, isBlank char = false)
    (blankNext : ∀ char ∈ rest.head?, isBlank char = true) :
    piecesBetween (word ++ rest) = word :: piecesBetween rest := by
  have unbroken : ∀ char ∈ word, decide (char ∈ whiteSpace) = false := by
    intro char mem
    rw [decide_eq_false_iff_not, mem_whiteSpace_iff, notBlank char mem]
    exact Bool.false_ne_true
  cases rest with
  | nil => simp [piecesBetween, List.splitOnP_eq_singleton unbroken, notEmpty]
  | cons blank later =>
      have isBlankNext : isBlank blank = true := blankNext blank rfl
      have cut := List.splitOnP_append_cons (p := (· ∈ whiteSpace)) word later
        (decide_eq_true (mem_whiteSpace_iff.mpr isBlankNext))
      rw [List.splitOnP_eq_singleton unbroken] at cut
      rw [piecesBetween_cons_of_blank isBlankNext]
      simp [piecesBetween, cut, notEmpty]

end Pieces

theorem piecesBetween_eq_splitWords (chars : List Char) :
    piecesBetween chars = splitWords chars := by
  induction chars using splitWords.induct with
  | case1 => simp [piecesBetween]
  | case2 char rest blank ih =>
      rw [piecesBetween_cons_of_blank blank, splitWords_cons_of_blank blank, ih]
  | case3 char rest notBlank ih =>
      have notBlank : isBlank char = false := by simpa using notBlank
      have wordNotBlank : ∀ letter ∈ char :: rest.takeWhile (!isBlank ·),
          isBlank letter = false := by
        rw [List.forall_mem_cons]
        exact ⟨notBlank, fun letter mem => by simpa using List.mem_takeWhile_imp mem⟩
      have blankNext : ∀ letter ∈ (rest.dropWhile (!isBlank ·)).head?, isBlank letter = true := by
        intro letter mem
        have stops := List.head?_dropWhile_not (!isBlank ·) rest
        rw [mem] at stops
        simpa using stops
      rw [splitWords_cons_of_not_blank notBlank, ← ih,
        ← piecesBetween_append (List.cons_ne_nil _ _) wordNotBlank blankNext, List.cons_append,
        List.takeWhile_append_dropWhile]

/-- What stands between the white space of a text are its words. -/
theorem wordsBetween_eq_words (text : String) : wordsBetween text = words text := by
  rw [wordsBetween, piecesBetween_eq_splitWords, words]

end Text
end PocketShell
