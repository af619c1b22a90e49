import PocketShell.Proofs.Text.Words
import Mathlib.Logic.ExistsUnique

/-!
# Words and the blanks around them

A text is laid out as words with blanks in front of each and behind the last, where
only the first word may have none in front of it.  Every text is laid out in exactly
one way: a text begins with as many blanks as it has, and a word goes on up to the
next blank.  The words of the layout are the words of the text.
-/

namespace PocketShell
namespace Text

/-- A word and the blanks in front of it. -/
@[ext]
structure Turn where
  gap : List Char
  word : List Char
  blank_gap : ∀ char ∈ gap, isBlank char = true
  word_ne_nil : word ≠ []
  word_not_blank : ∀ char ∈ word, isBlank char = false

/-- Words with blanks around them, and blanks between any two words. -/
@[ext]
structure Layout where
  turns : List Turn
  /-- The blanks behind the last word. -/
  after : List Char
  gap_between : ∀ turn ∈ turns.tail, turn.gap ≠ []
  blank_after : ∀ char ∈ after, isBlank char = true

/-- The characters of the turns, with those behind them. -/
def spell (turns : List Turn) (after : List Char) : List Char :=
  turns.flatMap (fun turn => turn.gap ++ turn.word) ++ after

namespace Layout

def text (layout : Layout) : String :=
  String.ofList (spell layout.turns layout.after)

def words (layout : Layout) : List String :=
  layout.turns.map (String.ofList ·.word)

end Layout

variable {turn : Turn} {turns : List Turn} {after : List Char}

theorem spell_cons (turn : Turn) (turns : List Turn) (after : List Char) :
    spell (turn :: turns) after = turn.gap ++ (turn.word ++ spell turns after) := by
  simp [spell]

theorem splitWords_append_of_blank {gap : List Char}
    (blank : ∀ char ∈ gap, isBlank char = true) (chars : List Char) :
    splitWords (gap ++ chars) = splitWords chars := by
  rw [← splitWords_dropWhile_blank, List.dropWhile_append_of_pos blank,
    splitWords_dropWhile_blank]

/-- Where every word has blanks in front of it, what comes first is blank. -/
theorem blank_of_mem_head?_spell (apart : ∀ turn ∈ turns, turn.gap ≠ [])
    (blankAfter : ∀ char ∈ after, isBlank char = true) :
    ∀ char ∈ (spell turns after).head?, isBlank char = true := by
  intro char mem
  cases turns with
  | nil => exact blankAfter char (List.mem_of_head? mem)
  | cons turn rest =>
      rw [spell_cons, List.head?_append_of_ne_nil _ (apart turn List.mem_cons_self)] at mem
      exact turn.blank_gap char (List.mem_of_head? mem)

section Word

variable {word rest : List Char} (notBlank : ∀ char ∈ word, isBlank char = false)
  (blankNext : ∀ char ∈ rest.head?, isBlank char = true)
include notBlank blankNext

theorem takeWhile_word_append : (word ++ rest).takeWhile (!isBlank ·) = word := by
  rw [takeWhile_not_blank_append notBlank]
  cases rest with
  | nil => simp
  | cons char later => simp [blankNext char rfl]

theorem dropWhile_word_append : (word ++ rest).dropWhile (!isBlank ·) = rest := by
  rw [dropWhile_not_blank_append notBlank]
  cases rest with
  | nil => rfl
  | cons char later => simp [blankNext char rfl]

end Word

theorem splitWords_spell (apart : ∀ turn ∈ turns.tail, turn.gap ≠ [])
    (blankAfter : ∀ char ∈ after, isBlank char = true) :
    splitWords (spell turns after) = turns.map Turn.word := by
  induction turns with
  | nil => exact splitWords_eq_nil_iff.mpr blankAfter
  | cons turn rest ih =>
      rw [List.tail_cons] at apart
      have blankNext := blank_of_mem_head?_spell apart blankAfter
      have restSplit := ih fun later mem => apart later (List.mem_of_mem_tail mem)
      rw [spell_cons, splitWords_append_of_blank turn.blank_gap,
        splitWords_append turn.word_ne_nil turn.word_not_blank,
        ← takeWhile_not_blank_append turn.word_not_blank,
        takeWhile_word_append turn.word_not_blank blankNext,
        ← dropWhile_not_blank_append turn.word_not_blank,
        dropWhile_word_append turn.word_not_blank blankNext, restSplit, List.map_cons]

theorem Layout.words_text (layout : Layout) : Text.words layout.text = layout.words := by
  rw [Text.words, text, String.toList_ofList,
    splitWords_spell layout.gap_between layout.blank_after, words, List.map_map]
  rfl

/-- The blanks that a text begins with are those in front of its first word. -/
theorem takeWhile_blank_spell_cons (turn : Turn) (rest : List Turn) (after : List Char) :
    (spell (turn :: rest) after).takeWhile isBlank = turn.gap := by
  obtain ⟨first, later, wordEq⟩ := List.exists_cons_of_ne_nil turn.word_ne_nil
  have firstNotBlank : isBlank first = false := turn.word_not_blank first (by simp [wordEq])
  rw [spell_cons, List.takeWhile_append_of_pos turn.blank_gap, wordEq, List.cons_append,
    List.takeWhile_cons_of_neg (by simp [firstNotBlank]), List.append_nil]

theorem eq_of_spell_eq {others : List Turn} {otherAfter : List Char}
    (apart : ∀ turn ∈ turns.tail, turn.gap ≠ [])
    (blankAfter : ∀ char ∈ after, isBlank char = true)
    (otherApart : ∀ turn ∈ others.tail, turn.gap ≠ [])
    (otherBlankAfter : ∀ char ∈ otherAfter, isBlank char = true)
    (same : spell turns after = spell others otherAfter) :
    turns = others ∧ after = otherAfter := by
  have sameWords : turns.map Turn.word = others.map Turn.word := by
    rw [← splitWords_spell apart blankAfter, same, splitWords_spell otherApart otherBlankAfter]
  induction turns generalizing others with
  | nil =>
      obtain rfl := List.map_eq_nil_iff.mp sameWords.symm
      exact ⟨rfl, same⟩
  | cons turn rest ih =>
      cases others with
      | nil => contradiction
      | cons other others =>
          obtain ⟨sameWord, sameRest⟩ := List.cons.inj sameWords
          have sameGap : turn.gap = other.gap := by
            rw [← takeWhile_blank_spell_cons turn rest after, same, takeWhile_blank_spell_cons]
          rw [spell_cons, spell_cons, sameGap, sameWord, List.append_cancel_left_eq,
            List.append_cancel_left_eq] at same
          rw [List.tail_cons] at apart otherApart
          obtain ⟨rfl, sameAfter⟩ := ih (fun later mem => apart later (List.mem_of_mem_tail mem))
            (fun later mem => otherApart later (List.mem_of_mem_tail mem)) same sameRest
          exact ⟨by rw [Turn.ext sameGap sameWord], sameAfter⟩

/-- A text that begins with no part of a word has blanks in front of its first word. -/
theorem apart_of_spell_eq_dropWhile {chars : List Char}
    (apart : ∀ turn ∈ turns.tail, turn.gap ≠ [])
    (spelled : spell turns after = chars.dropWhile (!isBlank ·)) :
    ∀ turn ∈ turns, turn.gap ≠ [] := by
  cases turns with
  | nil => exact fun _ mem => absurd mem List.not_mem_nil
  | cons turn rest =>
      rw [List.forall_mem_cons]
      refine ⟨fun noGap => ?_, apart⟩
      obtain ⟨first, later, wordEq⟩ := List.exists_cons_of_ne_nil turn.word_ne_nil
      have firstNotBlank : isBlank first = false := turn.word_not_blank first (by simp [wordEq])
      have stops := List.head?_dropWhile_not (!isBlank ·) chars
      rw [← spelled, spell_cons, noGap, wordEq] at stops
      simp [firstNotBlank] at stops

theorem Layout.exists_spell (chars : List Char) :
    ∃ layout : Layout, spell layout.turns layout.after = chars := by
  induction chars using splitWords.induct with
  | case1 => exact ⟨⟨[], [], by simp, by simp⟩, rfl⟩
  | case2 char rest blank ih =>
      obtain ⟨⟨turns, after, apart, blankAfter⟩, rfl⟩ := ih
      -- The blank goes in front of the first word, or behind everything if there is no word.
      cases turns with
      | nil =>
          have blanks : ∀ letter ∈ char :: after, isBlank letter = true :=
            List.forall_mem_cons.mpr ⟨blank, blankAfter⟩
          exact ⟨⟨[], char :: after, by simp, blanks⟩, rfl⟩
      | cons turn later =>
          have blanks : ∀ letter ∈ char :: turn.gap, isBlank letter = true :=
            List.forall_mem_cons.mpr ⟨blank, turn.blank_gap⟩
          refine ⟨⟨⟨char :: turn.gap, turn.word, blanks, turn.word_ne_nil,
            turn.word_not_blank⟩ :: later, after, apart, blankAfter⟩, ?_⟩
          simp only [spell_cons, List.cons_append]
  | case3 char rest notBlank ih =>
      have notBlank : isBlank char = false := by simpa using notBlank
      obtain ⟨⟨turns, after, apart, blankAfter⟩, spelled⟩ := ih
      have wordNotBlank : ∀ letter ∈ char :: rest.takeWhile (!isBlank ·),
          isBlank letter = false := by
        rw [List.forall_mem_cons]
        exact ⟨notBlank, fun letter mem => by simpa using List.mem_takeWhile_imp mem⟩
      refine ⟨⟨⟨[], char :: rest.takeWhile (!isBlank ·), by simp, List.cons_ne_nil _ _,
        wordNotBlank⟩ :: turns, after, apart_of_spell_eq_dropWhile apart spelled, blankAfter⟩, ?_⟩
      rw [spell_cons, spelled, List.nil_append, List.cons_append, List.takeWhile_append_dropWhile]

theorem Layout.existsUnique_text (line : String) : ∃! layout : Layout, layout.text = line := by
  obtain ⟨layout, spelled⟩ := exists_spell line.toList
  refine ⟨layout, by simp [text, spelled], fun other sameText => ?_⟩
  have sameSpelled : spell other.turns other.after = spell layout.turns layout.after := by
    rw [spelled, ← sameText, text, String.toList_ofList]
  obtain ⟨sameTurns, sameAfter⟩ := eq_of_spell_eq other.gap_between other.blank_after
    layout.gap_between layout.blank_after sameSpelled
  exact Layout.ext sameTurns sameAfter

end Text
end PocketShell
