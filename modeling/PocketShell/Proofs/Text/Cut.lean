import PocketShell.Proofs.Text.Columns
import PocketShell.Text.Cut
import Mathlib.Data.List.Infix

/-!
# What is left of a cut text

A cut leaves a beginning of the text, and its characters, each measured on its own,
take no more than the width.  It is the longest such beginning: a cut text begins with
exactly what the text begins with and fits.  The text that the characters make together
may take more, by the columns that they have only in a text.
-/

namespace PocketShell
namespace Text

theorem cutChars_prefix (room : Nat) (chars : List Char) : cutChars room chars <+: chars := by
  induction chars generalizing room with
  | nil => exact List.prefix_rfl
  | cons char rest ih =>
      rw [cutChars]
      split_ifs with fits
      · exact List.cons_prefix_cons.mpr ⟨rfl, ih (room - charColumns char)⟩
      · exact List.nil_prefix

theorem aloneColumns_cutChars_le (room : Nat) (chars : List Char) :
    aloneColumns (cutChars room chars) ≤ room := by
  induction chars generalizing room with
  | nil => exact Nat.zero_le _
  | cons char rest ih =>
      rw [cutChars]
      split_ifs with fits
      · have restFits := ih (room - charColumns char)
        simp only [aloneColumns]
        omega
      · exact Nat.zero_le _

theorem prefix_cutChars {room : Nat} {front chars : List Char} (begins : front <+: chars)
    (fits : aloneColumns front ≤ room) : front <+: cutChars room chars := by
  -- What is left of the room after a character is the room for the rest of both.
  induction front generalizing room chars with
  | nil => exact List.nil_prefix
  | cons char front ih =>
      cases chars with
      | nil => exact absurd (List.prefix_nil.mp begins) (List.cons_ne_nil char front)
      | cons other rest =>
          obtain ⟨rfl, restBegins⟩ := List.cons_prefix_cons.mp begins
          rw [aloneColumns] at fits
          have charFits : charColumns char ≤ room := by omega
          have restFits : aloneColumns front ≤ room - charColumns char := by omega
          rw [cutChars, if_pos charFits]
          exact List.cons_prefix_cons.mpr ⟨rfl, ih restBegins restFits⟩

/-- A cut text begins with exactly what the text begins with and fits. -/
theorem prefix_cutChars_iff {room : Nat} {front chars : List Char} :
    front <+: cutChars room chars ↔ front <+: chars ∧ aloneColumns front ≤ room := by
  constructor
  · intro begins
    have ofText : cutChars room chars <+: chars := cutChars_prefix room chars
    exact ⟨begins.trans ofText,
      (aloneColumns_mono begins).trans (aloneColumns_cutChars_le room chars)⟩
  · rintro ⟨begins, fits⟩
    exact prefix_cutChars begins fits

theorem cutChars_eq_self_iff {room : Nat} {chars : List Char} :
    cutChars room chars = chars ↔ aloneColumns chars ≤ room := by
  constructor
  · intro whole
    exact whole ▸ aloneColumns_cutChars_le room chars
  · intro fits
    have ofText : cutChars room chars <+: chars := cutChars_prefix room chars
    exact antisymm ofText (prefix_cutChars List.prefix_rfl fits)

/-- Of two cuts the narrower one decides. -/
theorem cutChars_cutChars (room other : Nat) (chars : List Char) :
    cutChars other (cutChars room chars) = cutChars (min room other) chars := by
  have sameBeginnings (front : List Char) : front <+: cutChars other (cutChars room chars) ↔
      front <+: cutChars (min room other) chars := by
    simp only [prefix_cutChars_iff, le_min_iff, and_assoc]
  exact antisymm ((sameBeginnings _).mp List.prefix_rfl) ((sameBeginnings _).mpr List.prefix_rfl)

@[simp]
theorem toList_cut (width : Nat) (text : String) :
    (cut width text).toList = cutChars width text.toList := by
  simp [cut]

theorem columns_cut_le (width : Nat) (text : String) :
    columns (cut width text) ≤ width + surplus (cut width text).toList := by
  have together := columns_le (cut width text)
  have alone := aloneColumns_cutChars_le width text.toList
  rw [← toList_cut] at alone
  omega

/-- A cut leaves the longest beginning of the text whose characters, each measured on its own,
take no more than the width.  So characters without columns stay with what fits before them, the
whole text is left exactly if it fits, and of two cuts the narrower one decides. -/
theorem cut_longest_fitting (width : Nat) (text : String) :
    let kept := (cut width text).toList
    kept <+: text.toList ∧ aloneColumns kept ≤ width ∧
      (∀ longer, longer <+: text.toList → kept.length < longer.length →
        width < aloneColumns longer) ∧
      (∀ front marks, front ++ marks <+: text.toList → aloneColumns front ≤ width →
        (∀ mark ∈ marks, charColumns mark = 0) → front ++ marks <+: kept) ∧
      (cut width text = text ↔ aloneColumns text.toList ≤ width) ∧
      ∀ other, cut other (cut width text) = cut (min width other) text := by
  simp only [toList_cut]
  refine ⟨?_, aloneColumns_cutChars_le _ _, ?_, ?_, ?_, ?_⟩
  · exact cutChars_prefix width text.toList
  · intro longer begins isLonger
    by_contra notWider
    have kept := prefix_cutChars begins (Nat.not_lt.mp notWider)
    exact absurd kept.length_le (Nat.not_le.mpr isLonger)
  · intro front marks begins fits noColumns
    apply prefix_cutChars begins
    rwa [aloneColumns_append, aloneColumns_eq_zero noColumns, Nat.add_zero]
  · rw [← String.toList_inj, toList_cut, cutChars_eq_self_iff]
  · intro other
    rw [← String.toList_inj, toList_cut, toList_cut, toList_cut, cutChars_cutChars]

/-- The accent has no columns and stays with its letter; the picture behind it does not fit. -/
example : cut 3 "ae\u0301📁" = "ae\u0301" := by decide +kernel

end Text
end PocketShell
