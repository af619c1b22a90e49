import PocketShell.Proofs.Text.LowerCase
import Mathlib.Data.List.Forall2

/-!
# Spellings of a word in lower case

A word of the letters from a to z can be spelled with each of its letters in lower
or in upper case, and a k also as the Kelvin sign.  These are the only texts whose
lower-case form is the word.  Every other run of letters is lowered beyond the
letter z, the small sigmas lie there too, and the capital I with a dot above leaves
a mark behind that is no letter.
-/

namespace PocketShell
namespace Text

/-- Whether the character stands for a letter that is given in lower case. -/
def Writes (letter char : Char) : Prop :=
  char = letter ∨ char = letter.toUpper ∨ (letter = 'k' ∧ char = '\u212A')

instance (letter char : Char) : Decidable (Writes letter char) :=
  inferInstanceAs (Decidable (_ ∨ _ ∨ _))

/-- Whether the text has as many characters as the word and each of them stands for its letter. -/
def Spells (text word : String) : Prop :=
  List.Forall₂ Writes word.toList text.toList

instance (text word : String) : Decidable (Spells text word) :=
  inferInstanceAs (Decidable (List.Forall₂ _ _ _))

/-- Only the letters from A to Z and the Kelvin sign are lowered as far down as the letter z. -/
theorem lowerRuns_beyond_letters : ∀ run ∈ lowerRuns,
    run = ⟨0x41, 0x5A, 1, 32⟩ ∨ run = ⟨0x212A, 0x212A, 1, -8383⟩ ∨
      0x7A < run.first + run.shift := by
  decide +kernel

theorem lowerCodeIn_letters : ∀ code < 0x7B, 0x61 ≤ code →
    lowerCodeIn lowerRuns code = code ∧ lowerCodeIn lowerRuns (code - 32) = code := by
  decide +kernel

theorem isLower_iff {char : Char} :
    char.isLower = true ↔ 0x61 ≤ char.toNat ∧ char.toNat ≤ 0x7A := by
  have bounds : char.isLower = (decide ('a'.val ≤ char.val) && decide (char.val ≤ 'z'.val)) := rfl
  rw [bounds, Bool.and_eq_true, decide_eq_true_iff, decide_eq_true_iff, UInt32.le_iff_toNat_le,
    UInt32.le_iff_toNat_le]
  rfl

section Letter

variable {letter char : Char} (isLower : letter.isLower = true)
include isLower

theorem toNat_toUpper_of_isLower : letter.toUpper.toNat = letter.toNat - 32 := by
  have bounds := isLower_iff.mp isLower
  have inAlphabet : 'a'.val ≤ letter.val ∧ letter.val ≤ 'z'.val :=
    ⟨UInt32.le_iff_toNat_le.mpr bounds.1, UInt32.le_iff_toNat_le.mpr bounds.2⟩
  -- The distance to the capitals is added modulo the size of a machine word.
  have shifted : (letter.val + ('A'.val - 'a'.val)).toNat =
      (letter.toNat + 4294967264) % 4294967296 := UInt32.toNat_add _ _
  change (dite ('a'.val ≤ letter.val ∧ letter.val ≤ 'z'.val) _ _ : Char).val.toNat = _
  rw [dif_pos inAlphabet]
  change (letter.val + ('A'.val - 'a'.val)).toNat = _
  omega

theorem lowerChar_of_writes (writes : Writes letter char) : lowerChar char = [letter] := by
  have bounds := isLower_iff.mp isLower
  obtain ⟨lowered, raised⟩ := lowerCodeIn_letters letter.toNat (by omega) bounds.1
  have upper := toNat_toUpper_of_isLower isLower
  rcases writes with rfl | rfl | ⟨rfl, rfl⟩
  · rw [lowerChar, if_neg, lowered, Char.ofNat_toNat]
    rintro rfl
    exact absurd isLower (by decide)
  · rw [lowerChar, if_neg, upper, raised, Char.ofNat_toNat]
    intro same
    rw [same] at upper
    simp at upper
    omega
  · decide +kernel

theorem writes_of_lowerChar (lowered : lowerChar char = [letter]) : Writes letter char := by
  have bounds := isLower_iff.mp isLower
  have codeEq : letter.toNat = lowerCodeIn lowerRuns char.toNat := by
    unfold lowerChar at lowered
    split_ifs at lowered
    · simp at lowered
    · rw [← List.singleton_inj.mp lowered] at bounds ⊢
      rcases toNat_ofNat_cases (lowerCodeIn lowerRuns char.toNat) with sameCode | null
      · exact sameCode
      · rw [null] at bounds
        exact absurd bounds.1 (by decide)
  rcases lowerCodeIn_cases lowerRuns char.toNat with same | ⟨run, mem, lower, upper, shifted⟩
  · exact .inl (Char.toNat_inj.mp (by omega))
  · rcases lowerRuns_beyond_letters run mem with rfl | rfl | beyond
    · have raised := toNat_toUpper_of_isLower isLower
      simp only at lower upper shifted
      exact .inr (.inl (Char.toNat_inj.mp (by omega)))
    · simp only at lower upper shifted
      have isK : letter.toNat = 'k'.toNat := by
        change letter.toNat = 0x6B
        omega
      have isKelvin : char.toNat = '\u212A'.toNat := Nat.le_antisymm upper lower
      exact .inr (.inr ⟨Char.toNat_inj.mp isK, Char.toNat_inj.mp isKelvin⟩)
    · omega

theorem lowerChar_eq_iff : lowerChar char = [letter] ↔ Writes letter char :=
  ⟨writes_of_lowerChar isLower, lowerChar_of_writes isLower⟩

theorem not_writes_sigma : ¬ Writes letter 'Σ' := by
  intro writes
  have lowered := lowerChar_of_writes isLower writes
  have toSigma : lowerChar 'Σ' = ['σ'] := by decide +kernel
  rw [toSigma, List.singleton_inj] at lowered
  subst lowered
  exact absurd isLower (by decide)

theorem smallSigma_ne (before after : List Char) : smallSigma before after ≠ letter := by
  rintro rfl
  unfold smallSigma at isLower
  split at isLower
  · exact absurd isLower (by decide)
  · exact absurd isLower (by decide)

/-- Nothing but what stands for the letter begins, in lower case, a word that begins with it. -/
theorem lowerFrom_cons_eq_cons_iff {before after word : List Char}
    (isLowerWord : ∀ letter ∈ word, letter.isLower = true) :
    lowerFrom before (char :: after) = letter :: word ↔
      Writes letter char ∧ lowerFrom (char :: before) after = word := by
  rw [lowerFrom]
  split_ifs with sigma
  · subst sigma
    simp [not_writes_sigma isLower, smallSigma_ne isLower]
  · rw [← lowerChar_eq_iff isLower, lowerChar]
    split_ifs with dotted
    · have markNotLower : ¬ '\u0307'.isLower = true := by decide
      constructor
      · intro same
        obtain ⟨-, rfl⟩ := List.cons.inj same
        exact absurd (isLowerWord _ List.mem_cons_self) markNotLower
      · simp
    · simp

end Letter

theorem lowerFrom_cons_ne_nil (before after : List Char) (char : Char) :
    lowerFrom before (char :: after) ≠ [] := by
  rw [lowerFrom, lowerChar]
  split_ifs <;> simp

theorem lowerFrom_eq_iff {before chars word : List Char}
    (isLower : ∀ letter ∈ word, letter.isLower = true) :
    lowerFrom before chars = word ↔ List.Forall₂ Writes word chars := by
  induction chars generalizing before word with
  | nil => simp [lowerFrom, eq_comm]
  | cons char after ih =>
      cases word with
      | nil =>
          simp [lowerFrom_cons_ne_nil]
      | cons letter word =>
          rw [List.forall_mem_cons] at isLower
          rw [lowerFrom_cons_eq_cons_iff isLower.1 isLower.2, ih isLower.2, List.forall₂_cons]

theorem lowerCase_eq_iff {text word : String}
    (isLower : ∀ letter ∈ word.toList, letter.isLower = true) :
    lowerCase text = word ↔ Spells text word := by
  rw [Spells, ← lowerFrom_eq_iff isLower, lowerCase]
  constructor
  · rintro rfl
    rw [String.toList_ofList]
  · intro same
    rw [same, String.ofList_toList]

end Text
end PocketShell
