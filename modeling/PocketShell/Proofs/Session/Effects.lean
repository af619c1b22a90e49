import PocketShell.Proofs.Session.Calls

/-!
# Effects of a line

A line that fails changes nothing but the history, and is answered by one line of
error.  A line that does not fail moves the session only by `cd`, lets its tree
grow only by `mkdir` or `touch`, by one entry at the end of the directory where
the session stands, and clears the screen only by `clear`.
-/

namespace PocketShell

/-- Whether the line belongs to what a command shows when it does not fail. -/
def Line.isContent : Line → Bool
  | .command _ _ => false
  | .error _ => false
  | _ => true

theorem Line.isContent_ofContent (content : String) : (ofContent content).isContent = true := by
  unfold ofContent
  split <;> rfl

theorem Line.isError_of_isContent {line : Line} (content : line.isContent = true) :
    line.isError = false := by
  cases line with
  | error message => contradiction
  | _ => rfl

namespace Reply

/-- A reply that shows content and nothing else. -/
structure ShowsContent (reply : Reply) : Prop where
  isContent : ∀ line ∈ reply.lines, line.isContent = true
  keepsScreen : reply.clearsScreen = false

theorem showsContent_showing {lines : List Line} (content : ∀ line ∈ lines, line.isContent = true) :
    (showing lines).ShowsContent :=
  ⟨content, rfl⟩

theorem showsContent_map_ofContent (contents : List String) :
    (showing (contents.map Line.ofContent)).ShowsContent := by
  apply showsContent_showing
  intro line mem
  obtain ⟨content, _, rfl⟩ := List.mem_map.mp mem
  exact Line.isContent_ofContent content

theorem showsContent_blank : blank.ShowsContent :=
  showsContent_showing (by simp [Line.isContent])

theorem showsContent_framed {lines : List Line} (content : ∀ line ∈ lines, line.isContent = true) :
    (framed lines).ShowsContent := by
  apply showsContent_showing
  intro line mem
  simp only [List.mem_cons, List.mem_append, List.not_mem_nil, or_false] at mem
  rcases mem with rfl | mem | rfl
  · rfl
  · exact content line mem
  · rfl

theorem ShowsContent.isError_eq_false {reply : Reply} (shows : reply.ShowsContent) :
    reply.isError = false := by
  rw [isError, List.any_eq_false]
  intro line mem
  rw [Line.isError_of_isContent (shows.isContent line mem)]
  exact Bool.false_ne_true

end Reply

namespace Session

theorem isContent_of_mem_contentLines {content : String} {line : Line}
    (mem : line ∈ contentLines content) : line.isContent = true := by
  unfold contentLines at mem
  split at mem
  · rw [List.mem_singleton.mp mem]
    rfl
  · obtain ⟨shown, _, rfl⟩ := List.mem_map.mp mem
    rfl

theorem listing_cases (session : Session) :
    session.listing.ShowsContent ∨ ∃ failure : Failure, session.listing = failure.reply := by
  unfold listing
  split
  · left
    apply Reply.showsContent_framed
    intro line mem
    obtain ⟨entry, _, rfl⟩ := List.mem_map.mp mem
    rfl
  · exact .inr ⟨_, rfl⟩

theorem fileReply_cases (session : Session) (name : String) :
    (session.fileReply name).ShowsContent ∨
      ∃ failure : Failure, session.fileReply name = failure.reply := by
  unfold fileReply
  split
  · exact .inl (Reply.showsContent_framed fun _ mem => isContent_of_mem_contentLines mem)
  · exact .inr ⟨_, rfl⟩

/-- A command that does not clear the screen either fails, and then changes nothing, or shows
content. -/
theorem run_cases (clock : Clock) (session : Session) {command : Command}
    (notClear : command ≠ .clear) :
    (∃ failure : Failure, session.run clock command = (session, failure.reply)) ∨
      (session.run clock command).2.ShowsContent := by
  have createCases (kind : EntryKind) (name : String) :
      (∃ failure : Failure, session.create kind name = (session, failure.reply)) ∨
        (session.create kind name).2.ShowsContent := by
    rcases session.create_cases kind name with ⟨tree, _, created⟩ | failed
    · rw [created]
      exact .inr Reply.showsContent_blank
    · exact .inl failed
  cases command with
  | clear => exact absurd rfl notClear
  | help => exact .inr (Reply.showsContent_map_ofContent _)
  | ls =>
      rcases session.listing_cases with listed | ⟨failure, failed⟩
      · exact .inr listed
      · exact .inl ⟨failure, by rw [run, failed]⟩
  | cd destination =>
      rcases session.go_cases destination with ⟨path, _, went⟩ | failed
      · rw [run, went]
        exact .inr Reply.showsContent_blank
      · exact .inl failed
  | cat name =>
      rcases session.fileReply_cases name with shown | ⟨failure, failed⟩
      · exact .inr shown
      · exact .inl ⟨failure, by rw [run, failed]⟩
  | mkdir name => exact createCases .directory name
  | touch name => exact createCases .file name
  | invalid failure => exact .inl ⟨failure, rfl⟩
  | unknown name => exact .inl ⟨_, rfl⟩
  | _ => exact .inr (Reply.showsContent_showing (by simp [Line.isContent]))

theorem run_eq_failure_or_not_isError (clock : Clock) (session : Session) (command : Command) :
    (∃ failure : Failure, session.run clock command = (session, failure.reply)) ∨
      (session.run clock command).2.isError = false := by
  by_cases isClear : command = .clear
  · rw [isClear]
    exact .inr rfl
  · exact (session.run_cases clock isClear).imp_right Reply.ShowsContent.isError_eq_false

theorem clearsScreen_run (clock : Clock) (session : Session) (command : Command) :
    (session.run clock command).2.clearsScreen = true ↔ command = .clear := by
  by_cases isClear : command = .clear
  · rw [isClear]
    exact iff_of_true rfl rfl
  · have keepsScreen : (session.run clock command).2.clearsScreen = false := by
      rcases session.run_cases clock isClear with ⟨failure, failed⟩ | shows
      · rw [failed]
        rfl
      · exact shows.keepsScreen
    rw [keepsScreen]
    exact iff_of_false Bool.false_ne_true isClear

theorem clearsScreen_execute (clock : Clock) (session : Session) (line : String) :
    (session.execute clock line).2.clearsScreen = true ↔ Command.ofLine? line = some .clear := by
  cases asks : Command.ofLine? line with
  | none =>
      rw [execute_of_blank asks]
      simp [Reply.blank, Reply.showing]
  | some command => rw [execute_of_command asks, clearsScreen_run, Option.some.injEq]

/-- A change of directory that shows no error leads where it should. -/
theorem leadsTo_go {session : Session} {destination : Destination}
    (succeeded : (session.go destination).2.isError = false) :
    session.LeadsTo destination (session.go destination).1.path := by
  rcases session.go_cases destination with ⟨path, leads, went⟩ | ⟨failure, failed⟩
  · rw [went]
    exact leads
  · rw [failed] at succeeded
    contradiction

/-- An entry that is made without error is in the tree. -/
theorem grownAt_create {session : Session} {kind : EntryKind} {name : String}
    (succeeded : (session.create kind name).2.isError = false) :
    Node.GrownAt name (.blank kind) session.path.below session.tree.root
      (session.create kind name).1.tree.root := by
  rcases session.create_cases kind name with ⟨tree, growth, created⟩ | ⟨failure, failed⟩
  · rw [created]
    exact growth
  · rw [failed] at succeeded
    contradiction

/-- What a line does to a session, stated of every session and every line.

If it fails, the answer is one line of error, the screen is kept, and all that is new is the
line in the history.  If it does not fail, `cd` and nothing else moves the session, and to where
it leads; `mkdir` or `touch` and nothing else changes the tree, and then the whole tree is as
before but for one blank entry at the end of the directory where the session stands; and it
clears the screen exactly by `clear`, showing nothing. -/
theorem execute_effects (clock : Clock) (session : Session) (line : String) :
    let after := (session.execute clock line).1
    let reply := (session.execute clock line).2
    (reply.isError = true →
      (∃ message, reply.lines = [.error message]) ∧ reply.clearsScreen = false ∧
        after = { session with history := session.history ++ [Text.trim line] }) ∧
    (reply.isError = false →
      (∀ destination, Command.ofLine? line = some (.cd destination) →
        session.LeadsTo destination after.path) ∧
      (after.path ≠ session.path →
        ∃ destination, Command.ofLine? line = some (.cd destination)) ∧
      (∀ kind name, Command.ofLine? line = some (.create kind name) →
        Node.GrownAt name (.blank kind) session.path.below session.tree.root
          after.tree.root) ∧
      (after.tree ≠ session.tree →
        ∃ kind name, Command.ofLine? line = some (.create kind name)) ∧
      (reply.clearsScreen = true ↔ Command.ofLine? line = some .clear) ∧
      (reply.clearsScreen = true → reply.lines = [])) := by
  intro after reply
  cases asks : Command.ofLine? line with
  | none =>
      have executed : session.execute clock line = (session, .blank) := execute_of_blank asks _ _
      have afterEq : after = session := congrArg Prod.fst executed
      have replyEq : reply = .blank := congrArg Prod.snd executed
      rw [afterEq, replyEq]
      simp [Reply.blank, Reply.showing, Reply.isError, Line.isError]
  | some command =>
      have executed := execute_of_command asks clock session
      have afterEq : after = ((session.remember (Text.trim line)).run clock command).1 :=
        congrArg Prod.fst executed
      have replyEq : reply = ((session.remember (Text.trim line)).run clock command).2 :=
        congrArg Prod.snd executed
      constructor
      · intro failed
        rcases run_eq_failure_or_not_isError clock (session.remember (Text.trim line)) command with
          ⟨failure, ran⟩ | shows
        · rw [afterEq, replyEq, ran]
          exact ⟨⟨failure.message, rfl⟩, rfl, rfl⟩
        · rw [replyEq, shows] at failed
          contradiction
      · intro succeeded
        rw [replyEq] at succeeded
        have effect : (session.remember (Text.trim line)).Effect command after :=
          afterEq ▸ effect_run clock _ command
        refine ⟨?_, ?_, ?_, ?_, ?_, ?_⟩
        · intro destination isCd
          cases isCd
          rw [afterEq]
          exact leadsTo_go succeeded
        · intro moved
          obtain ⟨destination, rfl⟩ := effect.exists_cd_of_path_ne moved
          exact ⟨destination, rfl⟩
        · intro kind name isCreate
          obtain rfl := Option.some.inj isCreate
          rw [run_create] at afterEq succeeded
          rw [afterEq]
          exact grownAt_create succeeded
        · intro changed
          obtain ⟨kind, name, rfl, _⟩ := effect.exists_create_of_tree_ne changed
          exact ⟨kind, name, rfl⟩
        · rw [replyEq, clearsScreen_run, Option.some.injEq]
        · intro clears
          rw [replyEq, clearsScreen_run] at clears
          subst clears
          rw [replyEq]
          rfl

end Session

end PocketShell
