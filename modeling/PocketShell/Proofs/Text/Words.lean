import PocketShell.Text.Words
import Mathlib.Data.List.DropRight

/-!
# Trimming and words

Blank characters at the ends of a text belong to no word, so trimming keeps the
words, and a text that was trimmed is not changed by trimming it again.  A text
without words consists of blank characters only.  A word has characters, none of
them blank, and two words with a space between them are the words of that text.
-/

namespace PocketShell
namespace Text

@[simp]
theorem splitWords_nil : splitWords [] = [] := by
  rw [splitWords]

theorem splitWords_cons_of_blank {char : Char} {rest : List Char}
    (blank : isBlank char = true) :
    splitWords (char :: rest) = splitWords rest := by
  rw [splitWords, if_pos blank]

theorem splitWords_cons_of_not_blank {char : Char} {rest : List Char}
    (notBlank : isBlank char = false) :
    splitWords (char :: rest) =
      (char :: rest.takeWhile (!isBlank ·)) :: splitWords (rest.dropWhile (!isBlank ·)) := by
  rw [splitWords, if_neg (by simp [notBlank])]

theorem splitWords_eq_nil_iff {chars : List Char} :
    splitWords chars = [] ↔ ∀ char ∈ chars, isBlank char = true := by
  induction chars with
  | nil => simp
  | cons char rest ih =>
      cases blank : isBlank char with
      | true => simp [splitWords_cons_of_blank blank, ih, blank]
      | false => simp [splitWords_cons_of_not_blank blank, blank]

theorem splitWords_dropWhile_blank (chars : List Char) :
    splitWords (chars.dropWhile isBlank) = splitWords chars := by
  induction chars with
  | nil => rfl
  | cons char rest ih =>
      cases blank : isBlank char with
      | true => rw [List.dropWhile_cons_of_pos blank, ih, splitWords_cons_of_blank blank]
      | false => rw [List.dropWhile_cons_of_neg (by simp [blank])]

private theorem takeWhile_append_blanks {blanks : List Char}
    (allBlank : ∀ char ∈ blanks, isBlank char = true) (chars : List Char) :
    (chars ++ blanks).takeWhile (!isBlank ·) = chars.takeWhile (!isBlank ·) := by
  induction chars with
  | nil =>
      cases blanks with
      | nil => rfl
      | cons char rest => simp [allBlank char (by simp)]
  | cons char rest ih =>
      rw [List.cons_append, List.takeWhile_cons, List.takeWhile_cons, ih]

private theorem dropWhile_append_blanks {blanks : List Char}
    (allBlank : ∀ char ∈ blanks, isBlank char = true) (chars : List Char) :
    (chars ++ blanks).dropWhile (!isBlank ·) = chars.dropWhile (!isBlank ·) ++ blanks := by
  induction chars with
  | nil =>
      cases blanks with
      | nil => rfl
      | cons char rest => simp [allBlank char (by simp)]
  | cons char rest ih =>
      rw [List.cons_append, List.dropWhile_cons, List.dropWhile_cons, ih]
      split <;> rfl

theorem splitWords_append_blanks {blanks : List Char}
    (allBlank : ∀ char ∈ blanks, isBlank char = true) (chars : List Char) :
    splitWords (chars ++ blanks) = splitWords chars := by
  -- The induction follows the words, so that the rest behind a word is at hand.
  induction chars using splitWords.induct with
  | case1 => simpa using splitWords_eq_nil_iff.mpr allBlank
  | case2 char rest blank ih =>
      rw [List.cons_append, splitWords_cons_of_blank blank, splitWords_cons_of_blank blank, ih]
  | case3 char rest notBlank ih =>
      have notBlank : isBlank char = false := by simpa using notBlank
      rw [List.cons_append, splitWords_cons_of_not_blank notBlank,
        splitWords_cons_of_not_blank notBlank, takeWhile_append_blanks allBlank,
        dropWhile_append_blanks allBlank, ih]

theorem trimBlanks_eq_rdropWhile (chars : List Char) :
    trimBlanks chars = (chars.dropWhile isBlank).rdropWhile isBlank :=
  rfl

/-- A blank character more at the end is taken off like the others. -/
theorem trimBlanks_concat {blank : Char} (isBlankChar : isBlank blank = true)
    (chars : List Char) : trimBlanks (chars ++ [blank]) = trimBlanks chars := by
  rw [trimBlanks_eq_rdropWhile, trimBlanks_eq_rdropWhile, List.dropWhile_append]
  by_cases allBlank : (chars.dropWhile isBlank).isEmpty = true
  · have nothing : chars.dropWhile isBlank = [] := List.isEmpty_iff.mp allBlank
    rw [if_pos allBlank, nothing, List.dropWhile_cons_of_pos isBlankChar, List.dropWhile_nil]
  · rw [if_neg allBlank, List.rdropWhile_concat_pos isBlank _ _ isBlankChar]

theorem splitWords_trimBlanks (chars : List Char) :
    splitWords (trimBlanks chars) = splitWords chars := by
  have trailing : ∀ char ∈ (chars.dropWhile isBlank).rtakeWhile isBlank, isBlank char = true :=
    fun char member => List.mem_rtakeWhile_imp member
  calc
    splitWords (trimBlanks chars) =
        splitWords (trimBlanks chars ++ (chars.dropWhile isBlank).rtakeWhile isBlank) :=
      (splitWords_append_blanks trailing _).symm
    _ = splitWords (chars.dropWhile isBlank) := by
      rw [trimBlanks_eq_rdropWhile, List.rdropWhile_append_rtakeWhile]
    _ = splitWords chars := splitWords_dropWhile_blank chars

/-- A beginning of characters that do not begin with a blank does not begin with one either. -/
private theorem dropWhile_blank_of_prefix {shorter longer : List Char}
    (begins : shorter <+: longer) (fixed : longer.dropWhile isBlank = longer) :
    shorter.dropWhile isBlank = shorter := by
  obtain ⟨later, rfl⟩ := begins
  cases shorter with
  | nil => rfl
  | cons char rest =>
      rw [List.dropWhile_eq_self_iff] at fixed ⊢
      intro _
      exact fixed (by simp)

theorem trimBlanks_trimBlanks (chars : List Char) :
    trimBlanks (trimBlanks chars) = trimBlanks chars := by
  have noneBefore : (trimBlanks chars).dropWhile isBlank = trimBlanks chars :=
    dropWhile_blank_of_prefix (List.rdropWhile_prefix isBlank _)
      (List.dropWhile_idempotent isBlank _)
  rw [trimBlanks_eq_rdropWhile (trimBlanks chars), noneBefore, trimBlanks_eq_rdropWhile,
    List.rdropWhile_idempotent]

@[simp]
theorem toList_trim (text : String) : (trim text).toList = trimBlanks text.toList := by
  simp [trim]

@[simp]
theorem words_trim (text : String) : words (trim text) = words text := by
  rw [words, toList_trim, splitWords_trimBlanks, words]

@[simp]
theorem trim_trim (text : String) : trim (trim text) = trim text := by
  rw [trim, toList_trim, trimBlanks_trimBlanks, trim]

theorem trim_append_return (text : String) : trim (text ++ "\r") = trim text := by
  have returnBlank : isBlank '\r' = true := by decide
  have chars : (text ++ "\r").toList = text.toList ++ ['\r'] := by simp
  rw [trim, chars, trimBlanks_concat returnBlank, trim]

theorem words_eq_nil_iff {text : String} :
    words text = [] ↔ ∀ char ∈ text.toList, isBlank char = true := by
  rw [words, List.map_eq_nil_iff, splitWords_eq_nil_iff]

/-- Whether the text is a single word, with nothing around it. -/
structure IsWord (text : String) : Prop where
  ne_empty : text ≠ ""
  not_blank : ∀ char ∈ text.toList, isBlank char = false

instance (text : String) : Decidable (IsWord text) :=
  decidable_of_iff (text ≠ "" ∧ text.toList.all (!isBlank ·) = true)
    ⟨fun word => ⟨word.1, by simpa using word.2⟩,
      fun word => ⟨word.ne_empty, by simpa using word.not_blank⟩⟩

theorem not_blank_of_mem_splitWords {chars word : List Char} (member : word ∈ splitWords chars) :
    word ≠ [] ∧ ∀ char ∈ word, isBlank char = false := by
  induction chars using splitWords.induct with
  | case1 => simp at member
  | case2 char rest blank ih =>
      rw [splitWords_cons_of_blank blank] at member
      exact ih member
  | case3 char rest notBlank ih =>
      have notBlank : isBlank char = false := by simpa using notBlank
      rw [splitWords_cons_of_not_blank notBlank] at member
      rcases List.mem_cons.mp member with rfl | later
      · refine ⟨List.cons_ne_nil _ _, ?_⟩
        rw [List.forall_mem_cons]
        exact ⟨notBlank, fun other taken => by simpa using List.mem_takeWhile_imp taken⟩
      · exact ih later

theorem isWord_of_mem_words {text word : String} (member : word ∈ words text) :
    IsWord word := by
  obtain ⟨chars, charsMem, rfl⟩ := List.mem_map.mp member
  obtain ⟨notEmpty, notBlank⟩ := not_blank_of_mem_splitWords charsMem
  constructor
  · simpa using notEmpty
  · simpa using notBlank

section Spelling

variable {word : List Char}

theorem takeWhile_not_blank_append (notBlank : ∀ char ∈ word, isBlank char = false)
    (rest : List Char) :
    (word ++ rest).takeWhile (!isBlank ·) = word ++ rest.takeWhile (!isBlank ·) :=
  List.takeWhile_append_of_pos fun char mem => by simp [notBlank char mem]

theorem dropWhile_not_blank_append (notBlank : ∀ char ∈ word, isBlank char = false)
    (rest : List Char) :
    (word ++ rest).dropWhile (!isBlank ·) = rest.dropWhile (!isBlank ·) :=
  List.dropWhile_append_of_pos fun char mem => by simp [notBlank char mem]

/-- The characters up to the first blank one are the first word. -/
theorem splitWords_append (notEmpty : word ≠ []) (notBlank : ∀ char ∈ word, isBlank char = false)
    (rest : List Char) :
    splitWords (word ++ rest) =
      (word ++ rest.takeWhile (!isBlank ·)) :: splitWords (rest.dropWhile (!isBlank ·)) := by
  obtain ⟨first, later, rfl⟩ := List.exists_cons_of_ne_nil notEmpty
  rw [List.forall_mem_cons] at notBlank
  rw [List.cons_append, splitWords_cons_of_not_blank notBlank.1,
    takeWhile_not_blank_append notBlank.2, dropWhile_not_blank_append notBlank.2,
    List.cons_append]

end Spelling

theorem IsWord.toList_ne_nil {word : String} (isWord : IsWord word) : word.toList ≠ [] := by
  simpa using isWord.ne_empty

theorem IsWord.words_eq {word : String} (isWord : IsWord word) : words word = [word] := by
  have split := splitWords_append isWord.toList_ne_nil isWord.not_blank []
  simp only [List.append_nil, List.takeWhile_nil, List.dropWhile_nil, splitWords_nil] at split
  rw [words, split, List.map_singleton, String.ofList_toList]

theorem IsWord.words_append_space {word : String} (isWord : IsWord word) (rest : String) :
    words (word ++ " " ++ rest) = word :: words rest := by
  have space : isBlank ' ' = true := by decide
  have split := splitWords_append isWord.toList_ne_nil isWord.not_blank (' ' :: rest.toList)
  rw [List.takeWhile_cons_of_neg (by simp [space]), List.dropWhile_cons_of_neg (by simp [space]),
    splitWords_cons_of_blank space, List.append_nil] at split
  have chars : (word ++ " " ++ rest).toList = word.toList ++ ' ' :: rest.toList := by simp
  rw [words, chars, split, List.map_cons, String.ofList_toList, words]

end Text
end PocketShell
