import PocketShell.Proofs.Session.Whereabouts
import PocketShell.Proofs.Text.Cut
import PocketShell.Screen.Fit

/-!
# What fits a row

A line is cut by its characters one by one, but a row takes the columns of the text
that they make.  The two differ by what control characters and picture selectors add,
so a line without these takes a single row, and one with them may take more.  The
status line is padded by the number of its characters, so it fills the row exactly
where the path has as many columns as characters.
-/

namespace PocketShell

namespace Line

theorem visible_wholeSpans (line : Line) : Span.visible line.wholeSpans = line.display := by
  cases line <;> simp [wholeSpans, Span.visible, display, String.append_assoc]

theorem visible_spans_of_fits {line : Line} {width : Nat}
    (fits : Text.columns line.display ≤ width) :
    Span.visible (line.spans width) = line.display := by
  rw [spans, if_neg (Nat.not_lt.mpr fits), visible_wholeSpans]

theorem visible_spans_of_lt {line : Line} {width : Nat}
    (wider : width < Text.columns line.display) :
    Span.visible (line.spans width) = Text.cut width line.display := by
  rw [spans, if_pos wider]
  simp [Span.visible]

theorem visible_spans_prefix (line : Line) (width : Nat) :
    (Span.visible (line.spans width)).toList <+: line.display.toList := by
  by_cases fits : Text.columns line.display ≤ width
  · exact visible_spans_of_fits fits ▸ List.prefix_rfl
  · rw [visible_spans_of_lt (Nat.not_le.mp fits), Text.toList_cut]
    exact Text.cutChars_prefix width line.display.toList

theorem columns_visible_spans_le (line : Line) (width : Nat) :
    Text.columns (Span.visible (line.spans width)) ≤
      width + Text.surplus (Span.visible (line.spans width)).toList := by
  by_cases fits : Text.columns line.display ≤ width
  · rw [visible_spans_of_fits fits]
    exact Nat.le_add_right_of_le fits
  · rw [visible_spans_of_lt (Nat.not_le.mp fits)]
    exact Text.columns_cut_le width line.display

/-- What is seen of a line is a beginning of it, and all of it if that fits.  Otherwise its
characters fit one by one, and together they take no more than control characters and picture
selectors add.  So a line without those takes a single row. -/
theorem visible_spans_bounds (line : Line) (width : Nat) :
    let seen := Span.visible (line.spans width)
    seen.toList <+: line.display.toList ∧
      (Text.columns line.display ≤ width → seen = line.display) ∧
      (width < Text.columns line.display → Text.aloneColumns seen.toList ≤ width) ∧
      Text.columns seen ≤ width + Text.surplus seen.toList ∧
      ((∀ char ∈ line.display.toList,
          (Text.isControl char = true → char = '\n') ∧ char ≠ Text.pictureSelector) →
        Text.columns seen ≤ width) := by
  have begins := visible_spans_prefix line width
  have bounded := columns_visible_spans_le line width
  refine ⟨begins, visible_spans_of_fits, ?_, bounded, ?_⟩
  · intro wider
    rw [visible_spans_of_lt wider, Text.toList_cut]
    exact Text.aloneColumns_cutChars_le width line.display.toList
  · intro ordinary
    have seenOrdinary := fun char mem => ordinary char (begins.mem mem)
    rwa [Text.surplus_eq_zero seenOrdinary, Nat.add_zero] at bounded

/-- A heart that a selector makes a picture is not cut where there is one column for it, nor are
letters behind control characters. -/
theorem visible_spans_beyond_width :
    let heart := Line.text "❤\uFE0F"
    let controlled := Line.text "\x01\x01ab"
    Span.visible (heart.spans 1) = "❤\uFE0F" ∧
      Text.columns (Span.visible (heart.spans 1)) = 2 ∧
      Span.visible (controlled.spans 2) = "\x01\x01ab" ∧
      Text.columns (Span.visible (controlled.spans 2)) = 4 := by
  decide +kernel

end Line

namespace Path

theorem head?_display (path : Path) : path.display.toList.head? = some '/' := by
  rw [toList_display, segments, List.flatMap_cons, List.cons_append, List.head?_cons]

theorem columns_display_of_printable {path : Path}
    (printable : ∀ name ∈ path.below, ∀ char ∈ name.toList, Text.isPrintable char = true) :
    Text.columns path.display = path.display.length := by
  have inSegments : ∀ name ∈ path.segments, ∀ char ∈ name.toList,
      Text.isPrintable char = true := by
    rw [segments, List.forall_mem_cons]
    exact ⟨List.all_eq_true.mp (by decide), printable⟩
  apply Text.columns_of_printable
  rw [toList_display]
  intro char mem
  obtain ⟨name, nameMem, charMem⟩ := List.mem_flatMap.mp mem
  rcases List.mem_cons.mp charMem with rfl | inName
  · decide
  · exact inSegments name nameMem char inName

end Path

namespace Session

theorem columns_statusLine (session : Session) (width : Nat) :
    Text.columns (session.statusLine width) =
      Wording.statusLabel.length +
        max 1 (width - (Wording.statusLabel.length + session.path.display.length)) +
        Text.columns session.path.display := by
  have blanksPrintable (gap : Nat) : ∀ char ∈ (Wording.statusLabel ++
      String.ofList (List.replicate gap ' ')).toList, Text.isPrintable char = true := by
    rw [String.toList_append, List.forall_mem_append, String.toList_ofList]
    refine ⟨List.all_eq_true.mp (by decide), fun char mem => ?_⟩
    rw [List.eq_of_mem_replicate mem]
    decide
  have slashFirst : session.path.display.toList.head? ≠ some Text.pictureSelector := by
    rw [Path.head?_display]
    decide
  rw [statusLine, Text.columns_append_of_printable (blanksPrintable _) slashFirst]
  simp [String.length_append]

/-- Where the label, a blank and the path have room, the status line begins with the label and ends
with the path.  It takes the whole row and no more exactly if the path has as many columns as
characters, or if it has fewer and there is no room for more than one blank. -/
theorem statusLine_fills_row_iff (session : Session) (width : Nat)
    (fits : Text.columns Wording.statusLabel + 1 + Text.columns session.path.display ≤ width) :
    Wording.statusLabel.toList <+: (session.statusLine width).toList ∧
      session.path.display.toList <:+ (session.statusLine width).toList ∧
      (Text.columns (session.statusLine width) = width ↔
        Text.columns session.path.display = session.path.display.length ∨
          Text.columns session.path.display < session.path.display.length ∧
            Text.columns Wording.statusLabel + 1 + Text.columns session.path.display = width) ∧
      ((∀ name ∈ session.path.below, ∀ char ∈ name.toList, Text.isPrintable char = true) →
        Text.columns (session.statusLine width) = width) := by
  have labelColumns : Text.columns Wording.statusLabel = Wording.statusLabel.length :=
    Text.columns_of_printable (List.all_eq_true.mp (by decide))
  have filled : Text.columns (session.statusLine width) = width ↔
      Text.columns session.path.display = session.path.display.length ∨
        Text.columns session.path.display < session.path.display.length ∧
          Text.columns Wording.statusLabel + 1 + Text.columns session.path.display = width := by
    rw [columns_statusLine]
    omega
  refine ⟨?_, ?_, filled, fun printable => ?_⟩
  · rw [statusLine, String.append_assoc, String.toList_append]
    exact List.prefix_append _ _
  · rw [statusLine, String.toList_append]
    exact List.suffix_append _ _
  · exact filled.mpr (.inl (Path.columns_display_of_printable printable))

/-- A name of one wide character and one combining mark has as many columns as characters. -/
theorem statusLine_fills_row_in_marked_name :
    let session := (new.executeTimed (fun _ => ⟨0, 0⟩) ["mkdir 📁\u0301", "cd 📁\u0301"]).1
    Text.columns Wording.statusLabel + 1 + Text.columns session.path.display ≤ 40 ∧
      Text.columns (session.statusLine 40) = 40 := by
  intro session
  have fits : Text.columns Wording.statusLabel + 1 + Text.columns session.path.display ≤ 40 := by
    decide +kernel
  obtain ⟨_, _, filled, _⟩ := statusLine_fills_row_iff session 40 fits
  exact ⟨fits, filled.mpr (.inl (by decide +kernel))⟩

/-- In a directory whose name is two columns wide, the status line is a column too long. -/
theorem statusLine_beyond_row_in_wide_name :
    let session := (new.executeTimed (fun _ => ⟨0, 0⟩) ["mkdir 📁", "cd 📁"]).1
    Text.columns Wording.statusLabel + 1 + Text.columns session.path.display ≤ 40 ∧
      Text.columns (session.statusLine 40) = 41 := by
  decide +kernel

end Session

end PocketShell
