import PocketShell.Proofs.Command.Messages
import PocketShell.Proofs.Session.Provenance
import PocketShell.Proofs.Session.Standing
import PocketShell.Proofs.Text.OneLine

/-!
# Replies on single lines

Every line of a reply is a line also as a text: nothing in it ends a line.  A
command that was typed has only words in it, or words with spaces between them,
so the names of all entries are on one line, and the contents of files have no
carriage returns.  Whatever a reply shows is put together from these.
-/

namespace PocketShell

open Text (OnOneLine onOneLine_append onOneLine_between onOneLine_join onOneLine_ofList)

namespace Failure

theorem Kind.onOneLine_front (kind : Kind) : OnOneLine kind.front := by
  rcases kind with _ | _ | _ | _ | (_ | _) | _
  all_goals exact onOneLine_ofList (by decide)

theorem Kind.onOneLine_back (kind : Kind) : OnOneLine kind.back := by
  cases kind with
  | missingOperand file =>
      have fileOn : OnOneLine (if file then " arquivo" else "") := by cases file <;> decide
      exact onOneLine_append.mpr ⟨onOneLine_ofList (by decide), fileOn⟩
  | _ => exact onOneLine_ofList (by decide)

theorem onOneLine_message {failure : Failure}
    (citedOn : ∀ text ∈ failure.cited, OnOneLine text) : OnOneLine failure.message := by
  rw [message_eq]
  exact onOneLine_between failure.kind.onOneLine_front (onOneLine_join citedOn)
    failure.kind.onOneLine_back

end Failure

namespace Command

/-- The texts that a command was given. -/
def texts : Command → List String
  | .cd (.child name) => [name]
  | .cat name => [name]
  | .echo text => [text]
  | .mkdir name => [name]
  | .touch name => [name]
  | .invalid failure => failure.cited
  | .unknown name => [name]
  | _ => []

theorem onOneLine_texts_onOperand {command : String} {file : Bool} {make : String → Command}
    {operand? : Option String} (commandOn : OnOneLine command)
    (operandOn : ∀ operand ∈ operand?, OnOneLine operand)
    (texts_make : ∀ operand, (make operand).texts = [operand]) :
    ∀ text ∈ (onOperand command file make operand?).texts, OnOneLine text := by
  cases operand? with
  | none => simpa [onOperand, texts, Failure.cited] using commandOn
  | some operand => simpa [onOperand, texts_make] using operandOn operand

theorem onOneLine_texts_ofWords {name : String} {arguments : List String}
    (nameOn : OnOneLine name) (argumentsOn : ∀ argument ∈ arguments, OnOneLine argument) :
    ∀ text ∈ (ofWords name arguments).texts, OnOneLine text := by
  have firstOn : ∀ argument ∈ arguments.head?, OnOneLine argument :=
    fun argument mem => argumentsOn argument (List.mem_of_head? mem)
  unfold ofWords
  split
  case h_5 =>
    cases first : arguments.head? with
    | none => simp [Destination.ofArgument, texts]
    | some argument =>
        have argumentOn : OnOneLine argument := firstOn argument first
        rw [Destination.ofArgument]
        split <;> simp [texts, argumentOn]
  case h_6 => exact onOneLine_texts_onOperand (by decide) firstOn fun _ => rfl
  case h_7 =>
    rw [texts, List.forall_mem_singleton]
    exact Text.onOneLine_intercalate (by decide) argumentsOn
  case h_11 => exact onOneLine_texts_onOperand (by decide) firstOn fun _ => rfl
  case h_12 => exact onOneLine_texts_onOperand (by decide) firstOn fun _ => rfl
  case h_13 => rwa [texts, List.forall_mem_singleton]
  all_goals exact fun _ mem => absurd mem List.not_mem_nil

/-- What a line asks for is said in texts on one line, whatever breaks the line has. -/
theorem onOneLine_texts {line : String} {command : Command} (asks : ofLine? line = some command) :
    ∀ text ∈ command.texts, OnOneLine text := by
  rw [ofLine?, Option.map_eq_some_iff] at asks
  obtain ⟨request, read, rfl⟩ := asks
  rw [Request.read?] at read
  cases split : Text.words line with
  | nil => simp [split, Request.ofWords?] at read
  | cons name arguments =>
      have isWord : ∀ word ∈ name :: arguments, Text.IsWord word :=
        fun word mem => Text.isWord_of_mem_words (split ▸ mem)
      rw [List.forall_mem_cons] at isWord
      rw [split, Request.ofWords?, Option.some.injEq] at read
      subst read
      apply onOneLine_texts_ofWords
      · exact Text.onOneLine_of_not_blank (Text.not_blank_of_mem_lowerCase isWord.1.not_blank)
      · exact fun word mem => Text.onOneLine_of_not_blank (isWord.2 word mem).not_blank

end Command

theorem Path.onOneLine_display {path : Path} (each : ∀ name ∈ path.below, OnOneLine name) :
    OnOneLine path.display := by
  have slash : OnOneLine "/" := by decide
  have home : OnOneLine homeName := by decide
  apply Text.onOneLine_join
  rw [List.forall_mem_map, segments, List.forall_mem_cons]
  refine ⟨onOneLine_append.mpr ⟨slash, home⟩, ?_⟩
  exact fun name mem => onOneLine_append.mpr ⟨slash, each name mem⟩

@[simp]
theorem Line.display_ofContent (content : String) : (ofContent content).display = content := by
  unfold ofContent
  split
  · next isEmpty => rw [isEmpty, display]
  · rfl

namespace Reply

def EachOnOneLine (reply : Reply) : Prop :=
  ∀ line ∈ reply.lines, OnOneLine line.display

theorem eachOnOneLine_text {text : String} (textOn : OnOneLine text) :
    (showing [.text text]).EachOnOneLine := by
  rw [EachOnOneLine, showing, List.forall_mem_singleton]
  exact textOn

theorem eachOnOneLine_blank : blank.EachOnOneLine := by
  rw [EachOnOneLine, blank, showing, List.forall_mem_singleton]
  decide

theorem eachOnOneLine_framed {lines : List Line} (each : ∀ line ∈ lines, OnOneLine line.display) :
    (framed lines).EachOnOneLine := by
  have emptyOn : OnOneLine Line.empty.display := by decide
  rw [EachOnOneLine, framed, showing, List.forall_mem_cons, List.forall_mem_append,
    List.forall_mem_singleton]
  exact ⟨emptyOn, each, emptyOn⟩

theorem eachOnOneLine_failure {failure : Failure} (cited : ∀ text ∈ failure.cited, OnOneLine text) :
    failure.reply.EachOnOneLine := by
  rw [EachOnOneLine, Failure.reply, showing, List.forall_mem_singleton]
  exact Failure.onOneLine_message cited

end Reply

namespace Session

/-- Whether an entry of the name and content is listed, and its content shown, on single lines. -/
def EntryOnOneLine (name : String) (content? : Option String) : Prop :=
  OnOneLine name ∧ ∀ content ∈ content?, '\r' ∉ content.toList

theorem starterEntries_onOneLine :
    ∀ entry ∈ starterEntries, EntryOnOneLine entry.name entry.content? := by
  unfold EntryOnOneLine
  decide +kernel

theorem MadeBy.entryOnOneLine {lines : List String} {name : String} {content? : Option String}
    (made : MadeBy lines name content?) : EntryOnOneLine name content? := by
  cases made with
  | starter listed => exact starterEntries_onOneLine _ listed
  | @line line given kind name asks =>
      constructor
      · apply Command.onOneLine_texts asks
        cases kind <;> exact List.mem_singleton_self name
      · cases kind <;> simp [Node.blank, Node.emptyFile, Node.emptyDirectory, Node.content?]

section Answers

variable {session : Session} {listed : List (String × Option String)}

theorem onOneLine_of_mem_contentLines {content : String} (noReturn : '\r' ∉ content.toList) :
    ∀ line ∈ contentLines content, OnOneLine line.display := by
  unfold contentLines
  split
  · rw [List.forall_mem_singleton]
    decide
  · rw [List.forall_mem_map]
    exact fun line mem => Text.onOneLine_of_mem_lines noReturn mem

theorem eachOnOneLine_listing (here : session.Shows listed)
    (namesOn : ∀ entry ∈ listed, EntryOnOneLine entry.1 entry.2) :
    session.listing.EachOnOneLine := by
  rw [listing_of_shows here]
  apply Reply.eachOnOneLine_framed
  rw [List.forall_mem_map]
  intro entry mem
  have markerOn : OnOneLine ((EntryKind.ofContent? entry.2).marker ++ " ") := by
    cases EntryKind.ofContent? entry.2 <;> decide
  exact onOneLine_append.mpr ⟨markerOn, (namesOn entry mem).1⟩

theorem eachOnOneLine_fileReply (here : session.Shows listed)
    (namesOn : ∀ entry ∈ listed, EntryOnOneLine entry.1 entry.2) {name : String}
    (nameOn : OnOneLine name) : (session.fileReply name).EachOnOneLine := by
  rw [fileReply_of_shows here]
  split
  · next content found =>
      obtain ⟨front, back, rfl, _⟩ := exists_split_of_lookup found
      apply Reply.eachOnOneLine_framed
      exact onOneLine_of_mem_contentLines ((namesOn (name, some content) (by simp)).2 content rfl)
  · exact Reply.eachOnOneLine_failure (by simpa [Failure.cited] using nameOn)

theorem eachOnOneLine_go {destination : Destination}
    (textsOn : ∀ text ∈ (Command.cd destination).texts, OnOneLine text) :
    (session.go destination).2.EachOnOneLine := by
  cases destination with
  | home => exact Reply.eachOnOneLine_blank
  | parent => exact Reply.eachOnOneLine_blank
  | child name =>
      rw [go]
      split
      · exact Reply.eachOnOneLine_blank
      · exact Reply.eachOnOneLine_failure textsOn

theorem eachOnOneLine_create {kind : EntryKind} {name : String} (nameOn : OnOneLine name) :
    (session.create kind name).2.EachOnOneLine := by
  unfold create
  split
  · exact Reply.eachOnOneLine_blank
  · exact Reply.eachOnOneLine_failure (by simpa [Failure.cited] using nameOn)

end Answers

set_option maxRecDepth 2000 in
theorem help_onOneLine : ∀ content ∈ Wording.help, OnOneLine content := by
  rw [Wording.help]
  repeat refine List.forall_mem_cons.mpr ⟨onOneLine_ofList (by decide), ?_⟩
  exact fun _ mem => absurd mem List.not_mem_nil

/-- A session whose tree has only names on one line answers commands that are given in such texts
by single lines. -/
theorem eachOnOneLine_run (clock : Clock) {session : Session} (sound : session.Sound)
    (each : session.tree.root.EachEntry EntryOnOneLine) {command : Command}
    (textsOn : ∀ text ∈ command.texts, OnOneLine text) :
    (session.run clock command).2.EachOnOneLine := by
  obtain ⟨listed, here⟩ := sound.exists_shows
  have namesOn := each.of_mem_listed here
  have pathOn : OnOneLine session.path.display :=
    Path.onOneLine_display fun name mem => (each.of_mem_names here name mem).1
  cases command with
  | help =>
      rw [run, Reply.EachOnOneLine, Reply.showing, List.forall_mem_map]
      simp only [Line.display_ofContent]
      exact help_onOneLine
  | clear => exact fun _ mem => absurd mem List.not_mem_nil
  | ls => exact eachOnOneLine_listing here namesOn
  | pwd => exact Reply.eachOnOneLine_text pathOn
  | cd destination => exact eachOnOneLine_go textsOn
  | cat name => exact eachOnOneLine_fileReply here namesOn (textsOn name (by simp [Command.texts]))
  | echo text => exact Reply.eachOnOneLine_text (textsOn text (by simp [Command.texts]))
  | date => exact Reply.eachOnOneLine_text clock.onOneLine_text
  | whoami => exact Reply.eachOnOneLine_text (onOneLine_ofList (by decide))
  | uname => exact Reply.eachOnOneLine_text (onOneLine_ofList (by decide))
  | mkdir name => exact eachOnOneLine_create (textsOn name (by simp [Command.texts]))
  | touch name => exact eachOnOneLine_create (textsOn name (by simp [Command.texts]))
  | invalid failure => exact Reply.eachOnOneLine_failure textsOn
  | unknown name => exact Reply.eachOnOneLine_failure textsOn

theorem eachOnOneLine_execute (clock : Clock) {session : Session} (sound : session.Sound)
    (each : session.tree.root.EachEntry EntryOnOneLine) (line : String) :
    (session.execute clock line).2.EachOnOneLine := by
  cases asks : Command.ofLine? line with
  | none =>
      rw [execute_of_blank asks]
      exact Reply.eachOnOneLine_blank
  | some command =>
      rw [execute_of_command asks]
      exact eachOnOneLine_run clock (sound.remember _) each (Command.onOneLine_texts asks)

/-- No line of any reply of a run has a line feed or a carriage return in its text. -/
theorem eachOnOneLine_executeTimed (clocks : Nat → Clock) {session : Session}
    {given : List String} (reachable : Reachable session)
    (each : session.tree.root.EachEntry (MadeBy given)) (lines : List String) :
    ∀ reply ∈ (session.executeTimed clocks lines).2, reply.EachOnOneLine := by
  induction lines generalizing clocks session given with
  | nil => simp [executeTimed]
  | cons line rest ih =>
      rw [executeTimed, List.forall_mem_cons]
      constructor
      · exact eachOnOneLine_execute (clocks 0) reachable.sound
          (each.mono fun _ _ => MadeBy.entryOnOneLine) line
      · exact ih _ (reachable.perform (.line (clocks 0) line))
          (eachEntry_execute (clocks 0) each line)

end Session

end PocketShell
