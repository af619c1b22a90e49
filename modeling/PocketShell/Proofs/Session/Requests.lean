import PocketShell.Proofs.Session.Calls
import PocketShell.Proofs.Text.Layout

/-!
# What is read of a line

A line is read as its words, in whatever way they are laid out, so blanks around and
between the words do not matter.  The words that `echo` shows are the same words when
they are given to it again.
-/

namespace PocketShell

namespace Text

theorem words_intercalate_space {texts : List String} (areWords : ∀ text ∈ texts, IsWord text) :
    words (" ".intercalate texts) = texts := by
  induction texts with
  | nil => simp [words]
  | cons text rest ih =>
      rw [List.forall_mem_cons] at areWords
      cases rest with
      | nil => rw [String.intercalate_singleton, areWords.1.words_eq]
      | cons next later =>
          rw [String.intercalate_cons_cons, areWords.1.words_append_space, ih areWords.2]

end Text

namespace Command

theorem eq_of_ofWords_eq_echo {name text : String} {arguments : List String}
    (asks : ofWords name arguments = .echo text) :
    name = "echo" ∧ " ".intercalate arguments = text := by
  unfold ofWords at asks
  split at asks
  case h_7 => exact ⟨rfl, echo.inj asks⟩
  case h_6 | h_11 | h_12 => cases first : arguments.head? <;> simp [first, onOperand] at asks
  all_goals contradiction

/-- What a line asks `echo` to show is asked for as well by a line of that behind `echo`. -/
theorem ofLine?_echo_again {line text : String} (asks : ofLine? line = some (.echo text)) :
    ofLine? ("echo " ++ text) = some (.echo text) := by
  have isEcho : Text.IsWord "echo" := by decide
  have lowerEcho : Text.lowerCase "echo" = "echo" := by decide +kernel
  rw [ofLine?, Request.read?] at asks
  cases split : Text.words line with
  | nil => simp [split, Request.ofWords?] at asks
  | cons name arguments =>
      have areWords : ∀ word ∈ name :: arguments, Text.IsWord word :=
        fun word mem => Text.isWord_of_mem_words (split ▸ mem)
      rw [List.forall_mem_cons] at areWords
      rw [split, Request.ofWords?, Option.map_some, Option.some.injEq] at asks
      obtain ⟨-, rfl⟩ := eq_of_ofWords_eq_echo asks
      have wordsAgain :
          Text.words ("echo " ++ " ".intercalate arguments) = "echo" :: arguments := by
        have spelled := isEcho.words_append_space (" ".intercalate arguments)
        rwa [Text.words_intercalate_space areWords.2] at spelled
      rw [ofLine?, Request.read?, wordsAgain, Request.ofWords?, lowerEcho]
      rfl

end Command

namespace Request

theorem read?_eq_none_iff {line : String} :
    read? line = none ↔ ∀ char ∈ line.toList, Text.isBlank char = true := by
  rw [← Command.ofLine?_eq_none_iff, Command.ofLine?, Option.map_eq_none_iff]

theorem read?_text (layout : Text.Layout) : read? layout.text = ofWords? layout.words := by
  rw [read?, layout.words_text]

/-- A line is no request exactly if it is blank.  It is laid out as words and blanks in one way, and
the first word in lower case is the name of the request, the others are its arguments.  Any other
way to lay out the same words is the same request, as is the line without blanks around it.  What
`echo` shows for a line it shows again for itself. -/
theorem read?_exact (line : String) :
    (read? line = none ↔ ∀ char ∈ line.toList, Text.isBlank char = true) ∧
    (∃! layout : Text.Layout, layout.text = line) ∧
    (∀ layout : Text.Layout, layout.text = line →
      (layout.words = [] ↔ read? line = none) ∧
      (∀ name arguments, layout.words = name :: arguments →
        read? line = some ⟨Text.lowerCase name, arguments⟩) ∧
      ∀ other : Text.Layout, other.words = layout.words → read? other.text = read? line) ∧
    read? (Text.trim line) = read? line ∧
    ∀ text, Command.ofLine? line = some (.echo text) → ∀ clock (session : Session),
      (session.execute clock line).2 = .showing [.text text] ∧
      (session.execute clock ("echo " ++ text)).2 = .showing [.text text] := by
  refine ⟨read?_eq_none_iff, Text.Layout.existsUnique_text line, ?_, ?_, ?_⟩
  · rintro layout rfl
    rw [read?_text]
    refine ⟨?_, ?_, ?_⟩
    · cases layout.words <;> simp [ofWords?]
    · intro name arguments laidOut
      rw [laidOut, ofWords?]
    · intro other sameWords
      rw [read?_text, sameWords]
  · rw [read?, Text.words_trim, read?]
  · intro text asks clock session
    have asksAgain := Command.ofLine?_echo_again asks
    rw [Session.execute_of_command asks, Session.execute_of_command asksAgain]
    exact ⟨rfl, rfl⟩

end Request

end PocketShell
