import PocketShell.Text.Blank
import PocketShell.Text.LetterCase
import Mathlib.Tactic.SplitIfs

/-!
# Lower case adds no blanks

The runs of letters are lowered to letters, and none of those lies in a range of
blank characters.  So a text without blank characters has none in lower case
either, whatever stands around a capital sigma in it.
-/

namespace PocketShell
namespace Text

theorem lowerCodeIn_cases (runs : List CaseRun) (code : Nat) :
    lowerCodeIn runs code = code ∨
      ∃ run ∈ runs, run.first ≤ code ∧ code ≤ run.last ∧
        lowerCodeIn runs code = (code + run.shift).toNat := by
  induction runs with
  | nil => exact .inl rfl
  | cons run rest ih =>
      rw [lowerCodeIn]
      split_ifs with below held
      · exact .inl rfl
      · simp only [CaseRun.holds, Bool.and_eq_true, decide_eq_true_eq] at held
        exact .inr ⟨run, List.mem_cons_self, held.1.1, held.1.2, rfl⟩
      · rcases ih with same | ⟨found, foundMem, lowered⟩
        · exact .inl same
        · exact .inr ⟨found, List.mem_cons_of_mem _ foundMem, lowered⟩

/-- Every range of blanks lies before or behind all that a run is lowered to. -/
theorem lowerRuns_apart_from_blank : ∀ run ∈ lowerRuns, ∀ range ∈ blankRanges,
    0 ≤ run.first + run.shift ∧
      (run.last + run.shift < range.1 ∨ range.2 < run.first + run.shift) := by
  decide +kernel

theorem covers_lowerCodeIn {code : Nat} (notBlank : blankRanges.covers code = false) :
    blankRanges.covers (lowerCodeIn lowerRuns code) = false := by
  rcases lowerCodeIn_cases lowerRuns code with same | ⟨run, runMem, lower, upper, lowered⟩
  · rwa [same]
  · rw [← Bool.not_eq_true, RangeTable.covers_eq_true_iff blankRanges_ascending]
    rintro ⟨range, rangeMem, above, below⟩
    obtain ⟨positive, apart⟩ := lowerRuns_apart_from_blank run runMem range rangeMem
    rw [lowered] at above below
    omega

/-- A number that is no character's code stands for the null character. -/
theorem toNat_ofNat_cases (code : Nat) :
    (Char.ofNat code).toNat = code ∨ Char.ofNat code = '\u0000' := by
  by_cases valid : code.isValidChar
  · rw [Char.ofNat, dif_pos valid]
    exact .inl rfl
  · rw [Char.ofNat, dif_neg valid]
    exact .inr rfl

theorem isBlank_ofNat {code : Nat} (notBlank : blankRanges.covers code = false) :
    isBlank (Char.ofNat code) = false := by
  rcases toNat_ofNat_cases code with sameCode | null
  · rwa [isBlank, sameCode]
  · rw [null]
    decide

theorem not_blank_of_mem_lowerChar {char : Char} (notBlank : isBlank char = false) :
    ∀ lowered ∈ lowerChar char, isBlank lowered = false := by
  unfold lowerChar
  split
  · rw [List.forall_mem_cons, List.forall_mem_singleton]
    decide
  · rw [List.forall_mem_singleton]
    exact isBlank_ofNat (covers_lowerCodeIn notBlank)

theorem smallSigma_not_blank (before after : List Char) :
    isBlank (smallSigma before after) = false := by
  unfold smallSigma
  split <;> decide

theorem not_blank_of_mem_lowerFrom {before chars : List Char}
    (notBlank : ∀ char ∈ chars, isBlank char = false) :
    ∀ lowered ∈ lowerFrom before chars, isBlank lowered = false := by
  induction chars generalizing before with
  | nil => simp [lowerFrom]
  | cons char after ih =>
      rw [List.forall_mem_cons] at notBlank
      rw [lowerFrom, List.forall_mem_append]
      refine ⟨?_, ih notBlank.2⟩
      split
      · rw [List.forall_mem_singleton]
        exact smallSigma_not_blank before after
      · exact not_blank_of_mem_lowerChar notBlank.1

theorem not_blank_of_mem_lowerCase {text : String}
    (notBlank : ∀ char ∈ text.toList, isBlank char = false) :
    ∀ lowered ∈ (lowerCase text).toList, isBlank lowered = false := by
  rw [lowerCase, String.toList_ofList]
  exact not_blank_of_mem_lowerFrom notBlank

end Text
end PocketShell
