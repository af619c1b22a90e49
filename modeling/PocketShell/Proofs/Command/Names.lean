import PocketShell.Proofs.Session.Calls
import PocketShell.Proofs.Text.Spelling

/-!
# The names of the commands

There are twelve commands, each with a name of small letters, and `Means` says what
each of them is asked to do by the arguments behind its name.  The first word of a
line is the name of a command exactly if it spells one of the twelve names, in any
mixture of small and capital letters.  Any other first word is carried in lower case
by a command that is not known.
-/

namespace PocketShell
namespace Command

def names : List String :=
  ["help", "clear", "ls", "pwd", "cd", "cat", "echo", "date", "whoami", "uname", "mkdir", "touch"]

/-- What a command is that is asked for by its name and the arguments behind it.  One argument at
most is used by all but `echo`, and the commands that need one are invalid without it. -/
inductive Means : String → List String → Command → Prop where
  | help (arguments : List String) : Means "help" arguments .help
  | clear (arguments : List String) : Means "clear" arguments .clear
  | ls (arguments : List String) : Means "ls" arguments .ls
  | pwd (arguments : List String) : Means "pwd" arguments .pwd
  | date (arguments : List String) : Means "date" arguments .date
  | whoami (arguments : List String) : Means "whoami" arguments .whoami
  | uname (arguments : List String) : Means "uname" arguments .uname
  | echo (arguments : List String) : Means "echo" arguments (.echo (" ".intercalate arguments))
  | cdHome : Means "cd" [] (.cd .home)
  | cdParent (others : List String) : Means "cd" (".." :: others) (.cd .parent)
  | cdChild {name : String} (notDots : name ≠ "..") (others : List String) :
      Means "cd" (name :: others) (.cd (.child name))
  | cat (name : String) (others : List String) : Means "cat" (name :: others) (.cat name)
  | mkdir (name : String) (others : List String) : Means "mkdir" (name :: others) (.mkdir name)
  | touch (name : String) (others : List String) : Means "touch" (name :: others) (.touch name)
  | catNothing : Means "cat" [] (.invalid (.missingOperand "cat" true))
  | mkdirNothing : Means "mkdir" [] (.invalid (.missingOperand "mkdir" false))
  | touchNothing : Means "touch" [] (.invalid (.missingOperand "touch" true))

theorem Means.ne_unknown {name other : String} {arguments : List String} {command : Command}
    (means : Means name arguments command) : command ≠ .unknown other := by
  cases means <;> simp

/-- A name and arguments mean one command only. -/
theorem Means.eq_ofWords {name : String} {arguments : List String} {command : Command}
    (means : Means name arguments command) : command = ofWords name arguments := by
  cases means with
  | cdChild notDots others =>
      change _ = Command.cd (.ofArgument (some _))
      rw [Destination.ofArgument, if_neg notDots]
  | _ => rfl

theorem means_ofWords_cd (arguments : List String) :
    Means "cd" arguments (.cd (.ofArgument arguments.head?)) := by
  cases arguments with
  | nil => exact .cdHome
  | cons name others =>
      rw [List.head?_cons, Destination.ofArgument]
      split_ifs with dots
      · subst dots
        exact .cdParent others
      · exact .cdChild dots others

theorem means_onOperand {name : String} {file : Bool} {make : String → Command}
    (nothing : Means name [] (.invalid (.missingOperand name file)))
    (operand : ∀ operand others, Means name (operand :: others) (make operand))
    (arguments : List String) :
    Means name arguments (onOperand name file make arguments.head?) := by
  cases arguments with
  | nil => exact nothing
  | cons first others => exact operand first others

/-- Every name is read as the command that it means. -/
theorem means_ofWords {name : String} (known : name ∈ names) (arguments : List String) :
    Means name arguments (ofWords name arguments) := by
  simp only [names, List.mem_cons, List.not_mem_nil, or_false] at known
  rcases known with rfl | rfl | rfl | rfl | rfl | rfl | rfl | rfl | rfl | rfl | rfl | rfl
  · exact .help arguments
  · exact .clear arguments
  · exact .ls arguments
  · exact .pwd arguments
  · exact means_ofWords_cd arguments
  · exact means_onOperand .catNothing .cat arguments
  · exact .echo arguments
  · exact .date arguments
  · exact .whoami arguments
  · exact .uname arguments
  · exact means_onOperand .mkdirNothing .mkdir arguments
  · exact means_onOperand .touchNothing .touch arguments

theorem ofWords_of_not_mem {name : String} (notKnown : name ∉ names) (arguments : List String) :
    ofWords name arguments = .unknown name := by
  unfold ofWords
  split
  case h_13 => rfl
  all_goals exact absurd (by decide) notKnown

theorem isLower_of_mem_names :
    ∀ name ∈ names, ∀ letter ∈ name.toList, letter.isLower = true := by
  have checked : names.all (fun name => name.toList.all Char.isLower) = true := by decide
  exact fun name known => List.all_eq_true.mp (List.all_eq_true.mp checked name known)

theorem exists_words_of_not_blank {line : String}
    (notBlank : ∃ char ∈ line.toList, Text.isBlank char = false) :
    ∃ token arguments, Text.words line = token :: arguments := by
  apply List.exists_cons_of_ne_nil
  rw [ne_eq, Text.words_eq_nil_iff]
  obtain ⟨char, mem, charNotBlank⟩ := notBlank
  exact fun blank => by simp [blank char mem] at charNotBlank

/-- A line that is not blank asks for a known command exactly if its first word spells one of the
names.  It then asks for the command that this name means on the other words, and otherwise for an
unknown one that carries the first word in lower case. -/
theorem recognized_exactly {line : String}
    (notBlank : ∃ char ∈ line.toList, Text.isBlank char = false) :
    ∃ token arguments command,
      Text.words line = token :: arguments ∧ ofLine? line = some command ∧
      ((∀ other, command ≠ .unknown other) ↔ ∃ name ∈ names, Text.Spells token name) ∧
      (∀ name ∈ names, Text.Spells token name → Means name arguments command) ∧
      ((∀ name ∈ names, ¬ Text.Spells token name) →
        command = .unknown (Text.lowerCase token)) := by
  obtain ⟨token, arguments, split⟩ := exists_words_of_not_blank notBlank
  have asks : ofLine? line = some (ofWords (Text.lowerCase token) arguments) := by
    rw [ofLine?, Request.read?, split]
    rfl
  have meant : ∀ name ∈ names, Text.Spells token name →
      Means name arguments (ofWords (Text.lowerCase token) arguments) := by
    intro name known spells
    rw [(Text.lowerCase_eq_iff (isLower_of_mem_names name known)).mpr spells]
    exact means_ofWords known arguments
  have unknown : (∀ name ∈ names, ¬ Text.Spells token name) →
      ofWords (Text.lowerCase token) arguments = .unknown (Text.lowerCase token) := by
    intro noName
    refine ofWords_of_not_mem (fun known => ?_) arguments
    exact noName _ known ((Text.lowerCase_eq_iff (isLower_of_mem_names _ known)).mp rfl)
  refine ⟨token, arguments, _, split, asks, ⟨?_, ?_⟩, meant, unknown⟩
  · intro notUnknown
    by_contra noName
    push Not at noName
    exact notUnknown _ (unknown noName)
  · rintro ⟨name, known, spells⟩ other
    exact (meant name known spells).ne_unknown

/-- A Kelvin sign and capitals in the name, and wide blanks around the words. -/
theorem recognized_exactly_with_kelvin_sign :
    (∃ char ∈ "\u3000M\u212AdIR\ta".toList, Text.isBlank char = false) ∧
      ofLine? "\u3000M\u212AdIR\ta" = some (.mkdir "a") := by
  have notBlank : ∃ char ∈ "\u3000M\u212AdIR\ta".toList, Text.isBlank char = false :=
    ⟨'M', by decide, by decide⟩
  have words : Text.words "\u3000M\u212AdIR\ta" = ["M\u212AdIR", "a"] := by decide +kernel
  obtain ⟨token, arguments, command, split, asks, _, meant, _⟩ := recognized_exactly notBlank
  rw [words, List.cons.injEq] at split
  obtain ⟨rfl, rfl⟩ := split
  have means := meant "mkdir" (by decide) (by decide +kernel)
  exact ⟨notBlank, asks.trans (congrArg some means.eq_ofWords)⟩

end Command
end PocketShell
