import PocketShell.Clock.Basic
import PocketShell.Command.Failure
import PocketShell.Proofs.Text.LowerCase
import PocketShell.Text.Pieces
import Mathlib.Data.List.Infix
import Mathlib.Data.List.TakeWhile

/-!
# Texts on one line

A text is on one line when it has neither a line feed nor a carriage return.
Both are blank, so words are on one line, and so are the texts that are put
together from such texts: the text of the clock, the messages of failures, and
the lines of a text without carriage returns.
-/

namespace PocketShell
namespace Text

def OnOneLine (text : String) : Prop :=
  '\n' ∉ text.toList ∧ '\r' ∉ text.toList

instance (text : String) : Decidable (OnOneLine text) :=
  inferInstanceAs (Decidable (_ ∧ _))

@[simp]
theorem onOneLine_append {first second : String} :
    OnOneLine (first ++ second) ↔ OnOneLine first ∧ OnOneLine second := by
  simp only [OnOneLine, String.toList_append, List.mem_append, not_or, and_and_and_comm]

theorem onOneLine_between {front text back : String} (frontOn : OnOneLine front)
    (textOn : OnOneLine text) (backOn : OnOneLine back) : OnOneLine (front ++ text ++ back) := by
  rw [onOneLine_append, onOneLine_append]
  exact ⟨⟨frontOn, textOn⟩, backOn⟩

/-- The form for a text that is written out: its characters are not decoded again. -/
theorem onOneLine_ofList {chars : List Char} (unbroken : '\n' ∉ chars ∧ '\r' ∉ chars) :
    OnOneLine (String.ofList chars) := by
  rwa [OnOneLine, String.toList_ofList]

theorem onOneLine_of_not_blank {text : String}
    (notBlank : ∀ char ∈ text.toList, isBlank char = false) : OnOneLine text := by
  have breaksBlank : isBlank '\n' = true ∧ isBlank '\r' = true := by decide
  constructor
  · intro mem
    simp [notBlank _ mem] at breaksBlank
  · intro mem
    simp [notBlank _ mem] at breaksBlank

theorem onOneLine_join {texts : List String} (each : ∀ text ∈ texts, OnOneLine text) :
    OnOneLine (String.join texts) := by
  induction texts with
  | nil => decide
  | cons text rest ih =>
      rw [List.forall_mem_cons] at each
      rw [String.join_cons, onOneLine_append]
      exact ⟨each.1, ih each.2⟩

theorem onOneLine_intercalate {separator : String} {texts : List String}
    (separatorOn : OnOneLine separator) (each : ∀ text ∈ texts, OnOneLine text) :
    OnOneLine (separator.intercalate texts) := by
  induction texts with
  | nil => rw [String.intercalate_nil]; decide
  | cons text rest ih =>
      rw [List.forall_mem_cons] at each
      cases rest with
      | nil =>
          rw [String.intercalate_singleton]
          exact each.1
      | cons next later =>
          rw [String.intercalate_cons_cons, onOneLine_append, onOneLine_append]
          exact ⟨⟨each.1, separatorOn⟩, ih each.2⟩

section Lines

variable {α : Type} [DecidableEq α] {mark : α}

/-- A piece consists of items of the stream, and none of them is the end mark. -/
theorem mem_of_mem_content {stream : List α} {piece : Piece α} (cut : piece ∈ pieces mark stream) :
    ∀ item ∈ piece.content, item ∈ stream ∧ item ≠ mark := by
  induction stream using pieces.induct mark with
  | case1 => simp at cut
  | case2 item rest ends =>
      rw [pieces_of_unmarked ends, List.mem_singleton] at cut
      rw [cut]
      intro other mem
      refine ⟨mem, ?_⟩
      simpa using List.dropWhile_eq_nil_iff.mp ends other mem
  | case3 item rest first later ends ih =>
      rw [pieces_of_dropWhile ends, List.mem_cons] at cut
      rcases cut with rfl | cut
      · intro other mem
        simp only at mem
        refine ⟨(List.takeWhile_prefix (· ≠ mark)).subset mem, ?_⟩
        simpa using List.mem_takeWhile_imp mem
      · intro other mem
        obtain ⟨inLater, notMark⟩ := ih cut other mem
        refine ⟨(List.dropWhile_suffix (· ≠ mark)).subset ?_, notMark⟩
        rw [ends]
        exact List.mem_cons_of_mem _ inLater

end Lines

theorem onOneLine_of_mem_lines {text line : String} (noReturn : '\r' ∉ text.toList)
    (mem : line ∈ lines text) : OnOneLine line := by
  obtain ⟨piece, cut, rfl⟩ := List.mem_map.mp mem
  have inside : ∀ char ∈ piece.line '\r', char ∈ piece.content := by
    unfold Piece.line
    split
    · exact fun char => List.mem_of_mem_dropLast
    · exact fun char mem => mem
  rw [OnOneLine, String.toList_ofList]
  constructor
  · exact fun mem => (mem_of_mem_content cut _ (inside _ mem)).2 rfl
  · exact fun mem => noReturn (mem_of_mem_content cut _ (inside _ mem)).1

end Text

section Clock

open Text

theorem not_mem_paddedDigits {char : Char} (notDigit : char.isDigit = false)
    (width number : Nat) : char ∉ paddedDigits width number := by
  intro mem
  rcases List.mem_append.mp mem with zero | digit
  · rw [List.eq_of_mem_replicate zero] at notDigit
    contradiction
  · have isDigit := Nat.isDigit_of_mem_toDigits (by decide) (by decide) digit
    simp [isDigit] at notDigit

theorem onOneLine_padded (width number : Nat) : OnOneLine (padded width number) :=
  onOneLine_ofList
    ⟨not_mem_paddedDigits (by decide) width number, not_mem_paddedDigits (by decide) width number⟩

theorem Clock.onOneLine_text (clock : Clock) : OnOneLine clock.text := by
  have weekday : OnOneLine clock.weekday.name := by cases clock.weekday <;> decide
  have month : OnOneLine clock.date.month.name := by cases clock.date.month <;> decide
  have year : OnOneLine (Date.yearText clock.date.year) := by
    have sign : OnOneLine
        (if clock.date.year < 0 then "-" else if 9999 < clock.date.year then "+" else "") := by
      split_ifs <;> decide
    rw [Date.yearText, onOneLine_append]
    exact ⟨sign, onOneLine_padded _ _⟩
  have of : OnOneLine " de " := by decide
  have comma : OnOneLine ", " := by decide
  have space : OnOneLine " " := by decide
  have colon : OnOneLine ":" := by decide
  simp only [Clock.text, Date.text, TimeOfDay.text, onOneLine_append, onOneLine_padded, weekday,
    month, year, of, comma, space, colon, and_self]

end Clock

end PocketShell
