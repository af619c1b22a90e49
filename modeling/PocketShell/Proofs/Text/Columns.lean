import PocketShell.Proofs.Text.Share

/-!
# Columns of a text and of its characters

The characters of a text, measured one by one, take no fewer columns than the text,
apart from what control characters and picture selectors add to it.  Nor does a text
ever take less than nothing.  Letters, digits and signs of ASCII in front of a text
take a column each.
-/

namespace PocketShell
namespace Text

/-- The columns of characters that are measured one by one. -/
def aloneColumns : List Char → Nat
  | [] => 0
  | char :: rest => charColumns char + aloneColumns rest

theorem aloneColumns_append (front back : List Char) :
    aloneColumns (front ++ back) = aloneColumns front + aloneColumns back := by
  induction front with
  | nil => exact (Nat.zero_add _).symm
  | cons char rest ih => rw [List.cons_append, aloneColumns, aloneColumns, ih, Nat.add_assoc]

theorem aloneColumns_eq_zero {chars : List Char}
    (noColumns : ∀ char ∈ chars, charColumns char = 0) : aloneColumns chars = 0 := by
  induction chars with
  | nil => rfl
  | cons char rest ih =>
      rw [List.forall_mem_cons] at noColumns
      rw [aloneColumns, noColumns.1, ih noColumns.2]

theorem aloneColumns_mono {front chars : List Char} (begins : front <+: chars) :
    aloneColumns front ≤ aloneColumns chars := by
  obtain ⟨back, rfl⟩ := begins
  rw [aloneColumns_append]
  exact Nat.le_add_right _ _

/-- How many columns more than one by one the characters may take together. -/
def surplus : List Char → Nat
  | [] => 0
  | char :: rest => excess char (rest.head? = some pictureSelector) + surplus rest

theorem head?_of_selector_measure {chars : List Char}
    (selected : (measure chars).2.selector = .asPicture) :
    chars.head? = some pictureSelector := by
  cases chars with
  | nil => contradiction
  | cons char rest => exact congrArg some (share_begunBy char _ selected)

theorem measure_within (chars : List Char) :
    Within (aloneColumns chars + surplus chars) .plain (measure chars).1
      (measure chars).2.opening := by
  induction chars with
  | nil => exact .free rfl rfl
  | cons char rest ih =>
      have selected : excess char ((measure rest).2.selector = .asPicture) ≤
          excess char (rest.head? = some pictureSelector) := by
        by_cases asPicture : (measure rest).2.selector = .asPicture
        · rw [decide_eq_true asPicture, decide_eq_true (head?_of_selector_measure asPicture)]
        · rw [decide_eq_false asPicture]
          exact excess_false_le char _
      refine (ih.append (share_within char (measure rest).2)).of_le ?_
      simp only [aloneColumns, surplus]
      omega

theorem columns_le (text : String) :
    columns text ≤ aloneColumns text.toList + surplus text.toList := by
  have upper := (measure_within text.toList).upper
  have := (measure text.toList).2.opening.saved_nonneg
  simp only [columns, Opening.saved] at *
  omega

/-- No form saves more columns than its characters take. -/
theorem natCast_columns (text : String) : (columns text : Int) = (measure text.toList).1 := by
  have lower := (measure_within text.toList).lower
  have := (measure text.toList).2.opening.savable_nonneg
  simp only [columns, Opening.savable] at *
  omega

theorem surplus_eq_zero {chars : List Char}
    (ordinary : ∀ char ∈ chars, (isControl char = true → char = '\n') ∧ char ≠ pictureSelector) :
    surplus chars = 0 := by
  induction chars with
  | nil => rfl
  | cons char rest ih =>
      rw [List.forall_mem_cons] at ordinary
      have unselected : rest.head? ≠ some pictureSelector := fun selected =>
        (ordinary.2 _ (List.mem_of_head? selected)).2 rfl
      rw [surplus, ih ordinary.2, excess]
      simpa [unselected] using ordinary.1.1

section Printable

/-- Whether the character is a space, or a letter, digit or sign of ASCII. -/
def isPrintable (char : Char) : Bool :=
  0x20 ≤ char.toNat && char.toNat < 0x7F

theorem share_of_printable {char : Char} {next : Following} (printable : isPrintable char = true)
    (unselected : next.selector ≠ .asPicture) : share char next = (1, .plain) := by
  simp only [isPrintable, Bool.and_eq_true, decide_eq_true_eq] at printable
  have notLineFeed : char ≠ '\n' := by
    rintro rfl
    exact absurd printable.1 (by decide)
  have notReturn : char ≠ '\r' := by
    rintro rfl
    exact absurd printable.1 (by decide)
  simp only [share, decide_eq_false unselected, Bool.false_and, Bool.false_eq_true, if_false]
  rw [if_pos (by omega : char.toNat ≤ 0xA0), latinShare, if_neg notLineFeed]
  simp [notReturn]

theorem measure_append_of_printable {front rest : List Char}
    (printable : ∀ char ∈ front, isPrintable char = true)
    (unselected : rest.head? ≠ some pictureSelector) :
    (measure (front ++ rest)).1 = front.length + (measure rest).1 := by
  induction front with
  | nil => simp
  | cons char more ih =>
      rw [List.forall_mem_cons] at printable
      have stillUnselected : (more ++ rest).head? ≠ some pictureSelector := by
        cases more with
        | nil => exact unselected
        | cons next later =>
            rintro ⟨⟩
            exact absurd (printable.2 pictureSelector (by simp)) (by decide)
      rw [List.cons_append, measure]
      simp only [share_of_printable printable.1 (mt head?_of_selector_measure stillUnselected),
        ih printable.2, List.length_cons]
      omega

/-- Printable characters in front of a text take a column each. -/
theorem columns_append_of_printable {front text : String}
    (printable : ∀ char ∈ front.toList, isPrintable char = true)
    (unselected : text.toList.head? ≠ some pictureSelector) :
    columns (front ++ text) = front.length + columns text := by
  have measured := measure_append_of_printable printable unselected
  rw [← String.toList_append, ← natCast_columns, ← natCast_columns] at measured
  rw [← String.length_toList]
  omega

theorem columns_of_printable {text : String}
    (printable : ∀ char ∈ text.toList, isPrintable char = true) :
    columns text = text.length := by
  have measured := @columns_append_of_printable text "" printable (by decide)
  have nothing : columns "" = 0 := rfl
  rwa [String.append_empty, nothing] at measured

end Printable

end Text
end PocketShell
