import PocketShell.Proofs.Clock.Text
import PocketShell.Proofs.Command.Names
import PocketShell.Proofs.Session.FlatShell
import PocketShell.Proofs.Session.Standing

/-!
# Sessions and flat shells

A session and a flat shell that execute the same lines give the same replies and
stand at the same paths.  They are related step by step: both stand at one path,
and for every path the records list what the tree lists.  A tree grows by one
entry where a flat shell appends one record, wherever in the tree that is.
-/

namespace PocketShell

namespace FlatRecord

def ofStarter (entry : StarterEntry) : FlatRecord :=
  ⟨entry.directory, entry.name, entry.content?⟩

theorem kind_eq (record : FlatRecord) : record.kind = .ofContent? record.content? := by
  cases content : record.content? <;> simp [kind, content, EntryKind.ofContent?]

end FlatRecord

namespace FileTree

/-- Whether the records list at every path what the tree lists there. -/
def Recorded (tree : FileTree) (records : List FlatRecord) : Prop :=
  ∀ path : Path, FlatRecord.listedAt records path = tree.root.listedAt path.below

variable {tree grown : FileTree} {records : List FlatRecord} {record : FlatRecord}

/-- Appending a record goes with growth by the entry that it tells of. -/
theorem Recorded.append (recorded : tree.Recorded records)
    (growth : Node.GrownAt record.name (.ofContent? record.content?) record.directory.below
      tree.root grown.root) :
    grown.Recorded (records ++ [record]) := by
  intro path
  have samePlace : record.directory.below = path.below ↔ record.directory = path := by
    rw [← Path.mk.injEq]
  rw [FlatRecord.listedAt_append_singleton, growth.listedAt, recorded path]
  simp only [samePlace]

theorem recorded_empty : empty.Recorded [] := by
  intro path
  exact (Node.listedAt_ofContent? none path.below).symm

theorem Recorded.plant {entry : StarterEntry} (recorded : tree.Recorded records)
    (room : (tree.insertAt entry.directory entry.name entry.node).isOk = true) :
    (tree.plant entry).Recorded (records ++ [.ofStarter entry]) := by
  unfold FileTree.plant
  cases inserted : tree.insertAt entry.directory entry.name entry.node with
  | error failure => simp [inserted, Except.isOk, Except.toBool] at room
  | ok grown =>
      refine recorded.append ?_
      have sameNode : entry.node = .ofContent? entry.content? := rfl
      rw [sameNode] at inserted
      exact insertAt_eq_ok_iff.mp inserted

theorem recorded_starter : starter.Recorded (starterEntries.map .ofStarter) :=
  (((recorded_empty.plant rfl).plant rfl).plant rfl).plant rfl

end FileTree

namespace FlatShell

/-- Whether the shell stands where the session does and its records list what the tree lists. -/
structure Follows (shell : FlatShell) (session : Session) : Prop where
  same_path : shell.path = session.path
  recorded : session.tree.Recorded shell.records

/-- Whether the shell gives the reply of the session and follows it from there. -/
structure Agrees (outcome : FlatShell × Reply) (answer : Session × Reply) : Prop where
  follows : outcome.1.Follows answer.1
  same_reply : outcome.2 = answer.2

theorem follows_new : new.Follows .new where
  same_path := rfl
  recorded := FileTree.recorded_starter

theorem helpLines_eq : helpLines = Wording.help.map .ofContent := by
  simp [helpLines, Wording.help, Line.ofContent]

theorem fileLines_eq (content : String) : fileLines content = Session.contentLines content := by
  rw [fileLines, Session.contentLines, ← Text.readLines_eq_lines, List.map_map]
  rfl

theorem names_actions (date : String) : (actions date).map Prod.fst = Command.names :=
  rfl

variable {shell : FlatShell} {session : Session} {listed : List (String × Option String)}

theorem Follows.remember (follows : shell.Follows session) (line : String) :
    shell.Follows (session.remember line) where
  same_path := follows.same_path
  recorded := follows.recorded

theorem Follows.agrees (follows : shell.Follows session) {lines : List Line} {reply : Reply}
    (same : Reply.showing lines = reply) : Agrees (shell.answer lines) (session, reply) :=
  ⟨follows, same⟩

theorem Follows.moveTo (follows : shell.Follows session) {below : List String} {path : Path}
    (same : ⟨below⟩ = path) : Agrees (shell.moveTo below) (session.moveTo path) :=
  ⟨⟨same, follows.recorded⟩, rfl⟩

theorem Follows.listedAt_eq (follows : shell.Follows session) (here : session.Shows listed) :
    FlatRecord.listedAt shell.records shell.path = listed := by
  rw [follows.recorded, follows.same_path, Node.listedAt_of_outlineAt here]

theorem Follows.ls (follows : shell.Follows session) (here : session.Shows listed) :
    Agrees shell.ls (session, session.listing) := by
  refine follows.agrees ?_
  rw [Session.listing_of_shows here, ← follows.listedAt_eq here, FlatRecord.listedAt,
    List.map_map]
  simp only [FlatRecord.kind_eq]
  rfl

theorem Follows.cd (follows : shell.Follows session) (here : session.Shows listed)
    (distinct : (listed.map Prod.fst).Nodup) (words : List String) :
    Agrees (shell.cd words) (session.go (.ofArgument words.head?)) := by
  cases words with
  | nil => exact follows.moveTo rfl
  | cons name others =>
      rw [List.head?_cons, Destination.ofArgument, FlatShell.cd]
      by_cases dots : name = ".."
      · rw [if_pos dots, if_pos dots]
        exact follows.moveTo (congrArg Path.parent follows.same_path)
      · have isDirectoryIff : shell.hasDirectory name = true ↔ listed.lookup name = some none := by
          rw [hasDirectory_iff, follows.listedAt_eq here, lookup_eq_some_iff_mem distinct]
        rw [if_neg dots, if_neg dots, Session.go_child_of_shows here]
        simp only [isDirectoryIff]
        split_ifs with directory
        · exact follows.moveTo (congrArg (Path.join · name) follows.same_path)
        · exact follows.agrees rfl

theorem Follows.fileContent?_eq (follows : shell.Follows session) (here : session.Shows listed)
    (distinct : (listed.map Prod.fst).Nodup) (name : String) :
    shell.fileContent? name = (listed.lookup name).join := by
  have distinctHere : ((FlatRecord.listedAt shell.records shell.path).map Prod.fst).Nodup := by
    rwa [follows.listedAt_eq here]
  ext content
  rw [fileContent?_eq_some_iff distinctHere, follows.listedAt_eq here, Option.join_eq_some_iff,
    lookup_eq_some_iff_mem distinct]

theorem Follows.cat (follows : shell.Follows session) (here : session.Shows listed)
    (distinct : (listed.map Prod.fst).Nodup) (name : String) :
    Agrees (shell.cat name) (session, session.fileReply name) := by
  rw [FlatShell.cat, follows.fileContent?_eq here distinct, Session.fileReply_of_shows here]
  rcases listed.lookup name with _ | _ | content
  · exact follows.agrees rfl
  · exact follows.agrees rfl
  · exact follows.agrees (congrArg Reply.framed (fileLines_eq content))

theorem Follows.create (follows : shell.Follows session) (here : session.Shows listed)
    {kind : EntryKind} {name conflict : String} {content? : Option String}
    (sameNode : Node.ofContent? content? = .blank kind)
    (sameConflict : conflict = (Failure.nameTaken kind name).message) :
    Agrees (shell.create name content? conflict) (session.create kind name) := by
  have takenIff : shell.hasEntry name = true ↔ name ∈ listed.map Prod.fst := by
    rw [hasEntry_iff, follows.listedAt_eq here]
  by_cases taken : name ∈ listed.map Prod.fst
  · rw [Session.create_of_taken here kind taken, FlatShell.create,
      if_pos (takenIff.mpr taken), sameConflict]
    exact follows.agrees rfl
  · obtain ⟨tree, growth, created⟩ := Session.create_of_free here kind taken
    rw [created, FlatShell.create, if_neg (mt takenIff.mp taken)]
    rw [← follows.same_path, ← sameNode] at growth
    exact ⟨⟨follows.same_path, follows.recorded.append growth⟩, rfl⟩

/-- Both act on the first word alike, or both say that there is none. -/
theorem Follows.onFirst (follows : shell.Follows session) {clock : Clock} {command : String}
    {file : Bool} {missing : String} {act : FlatShell → String → FlatShell × Reply}
    {make : String → Command}
    (sameMissing : missing = (Failure.missingOperand command file).message)
    (agrees : ∀ name, Agrees (act shell name) (session.run clock (make name)))
    (words : List String) :
    Agrees (FlatShell.onFirst missing act shell words)
      (session.run clock (Command.onOperand command file make words.head?)) := by
  cases words with
  | nil => exact follows.agrees (congrArg (fun text => Reply.showing [.error text]) sameMissing)
  | cons name others => exact agrees name

/-- What the shell does for a name agrees with the command that the session runs for it. -/
theorem Follows.action (follows : shell.Follows session) (sound : session.Sound) (clock : Clock)
    {action : String × (FlatShell → List String → FlatShell × Reply)}
    (known : action ∈ actions clock.text) (words : List String) :
    Agrees (action.2 shell words) (session.run clock (.ofWords action.1 words)) := by
  obtain ⟨listed, here⟩ := sound.exists_shows
  have distinct := sound.names_distinct.nodup_outlineAt here
  have cat (name : String) : Agrees (shell.cat name) (session.run clock (.cat name)) :=
    follows.cat here distinct name
  have mkdir (name : String) : Agrees (shell.mkdir name) (session.run clock (.mkdir name)) :=
    follows.create here rfl rfl
  have touch (name : String) : Agrees (shell.touch name) (session.run clock (.touch name)) :=
    follows.create here rfl rfl
  simp only [actions, List.mem_cons, List.not_mem_nil, or_false] at known
  -- The cases come in the order of the table.
  rcases known with rfl | rfl | rfl | rfl | rfl | rfl | rfl | rfl | rfl | rfl | rfl | rfl
  · exact follows.agrees (congrArg Reply.showing helpLines_eq)
  · exact ⟨follows, rfl⟩
  · exact follows.ls here
  · refine follows.agrees ?_
    rw [pathText, follows.same_path]
    rfl
  · exact follows.cd here distinct words
  · refine follows.onFirst ?_ cat words
    rfl
  · exact follows.agrees rfl
  · exact follows.agrees rfl
  · exact follows.agrees rfl
  · exact follows.agrees rfl
  · refine follows.onFirst ?_ mkdir words
    rfl
  · refine follows.onFirst ?_ touch words
    rfl

/-- The first word is recognized by both shells alike. -/
theorem Follows.act (follows : shell.Follows session) (sound : session.Sound) (clock : Clock)
    (first : String) (words : List String) :
    Agrees (shell.act clock.text first words)
      (session.run clock (.ofWords (Text.lowerCase first) words)) := by
  have lowerIff {name : String} (isName : name ∈ Command.names) :
      Text.lowerCase first = name ↔ Text.Spells first name :=
    Text.lowerCase_eq_iff (Command.isLower_of_mem_names _ isName)
  rw [FlatShell.act]
  cases search : (actions clock.text).find? fun action => Text.Spells first action.1 with
  | some action =>
      have known := List.mem_of_find?_eq_some search
      have isName : action.1 ∈ Command.names :=
        names_actions clock.text ▸ List.mem_map_of_mem known
      have spells : Text.Spells first action.1 := by simpa using List.find?_some search
      rw [(lowerIff isName).mpr spells]
      exact follows.action sound clock known words
  | none =>
      have notName : Text.lowerCase first ∉ Command.names := by
        intro isName
        obtain ⟨action, known, same⟩ := List.mem_map.mp (names_actions clock.text ▸ isName)
        have skipped := List.find?_eq_none.mp search action known
        rw [same] at skipped
        simp [(lowerIff isName).mp rfl] at skipped
      rw [Command.ofWords_of_not_mem notName]
      exact follows.agrees rfl

/-- A shell that follows a session answers every line as the session does, and follows it. -/
theorem Follows.execute (follows : shell.Follows session) (sound : session.Sound)
    (clock : Clock) (line : String) :
    Agrees (shell.execute clock.text line) (session.execute clock line) := by
  rw [FlatShell.execute, Text.wordsBetween_eq_words]
  cases split : Text.words line with
  | nil =>
      have blank : Command.ofLine? line = none := by
        rw [Command.ofLine?, Request.read?, split]
        rfl
      rw [Session.execute_of_blank blank]
      exact follows.agrees rfl
  | cons first words =>
      have asks : Command.ofLine? line = some (.ofWords (Text.lowerCase first) words) := by
        rw [Command.ofLine?, Request.read?, split]
        rfl
      rw [Session.execute_of_command asks]
      exact (follows.remember _).act (sound.remember _) clock first words

/-- The runs of a reachable session and of a shell that follows it agree line by line. -/
theorem Follows.transcript_eq (follows : shell.Follows session)
    (reachable : session.Reachable) (clock : Clock) (lines : List String) :
    transcript (Session.execute clock) Session.path session lines =
      transcript (FlatShell.execute clock.text) FlatShell.path shell lines := by
  induction lines generalizing session shell with
  | nil => rfl
  | cons line rest ih =>
      obtain ⟨followsNext, sameReply⟩ := follows.execute reachable.sound clock line
      have reachableNext : (session.execute clock line).1.Reachable :=
        .perform reachable (.line clock line)
      simp only [transcript, sameReply, followsNext.same_path, ih followsNext reachableNext]

end FlatShell

namespace Session

/-- Whatever lines it is given, a new session answers each of them as a shell without a tree
does, and stands at the same path after each.  What `date` shows there is the text of the only civil
time for the seconds of local time. -/
theorem transcript_eq_flat (clock : Clock) :
    ∃ civil : CivilTime (clock.now + clock.utcOffset), (∀ other, other = civil) ∧
      ∀ lines : List String,
        transcript (Session.execute clock) Session.path .new lines =
          transcript (FlatShell.execute civil.text) FlatShell.path .new lines := by
  refine ⟨clock.civilTime, fun other => other.eq _, fun lines => ?_⟩
  have sameText : clock.civilTime.text = clock.text := clock.text_civilTime
  rw [FlatShell.follows_new.transcript_eq .new clock lines, ← sameText]
  rfl

end Session

end PocketShell
