import PocketShell.Proofs.Command.Messages
import PocketShell.Proofs.Session.Listing

/-!
# Which failure happened

`Fails` says which failure happens to a command, by what the session shows where it
stands.  A session that stands in no directory shows nothing, and there every command
that looks for an entry or makes one fails.  A failure that happens is the only line of
the answer, and since no two failures have the same message, the line tells which it was
and which name it was about.
-/

namespace PocketShell
namespace Session

/-- The failures that happen to commands in the session. -/
inductive Fails (session : Session) : Command → Failure → Prop where
  | unknown (name : String) : Fails session (.unknown name) (.unknownCommand name)
  | invalid (failure : Failure) : Fails session (.invalid failure) failure
  | ls (nowhere : ∀ listed, ¬ session.Shows listed) :
      Fails session .ls (.directoryNotFound none)
  | cd {name : String}
      (noDirectory : ∀ listed, session.Shows listed → listed.lookup name ≠ some none) :
      Fails session (.cd (.child name)) (.directoryNotFound (some name))
  | cat {name : String}
      (noFile : ∀ listed, session.Shows listed →
        ∀ content, listed.lookup name ≠ some (some content)) :
      Fails session (.cat name) (.fileNotFound name)
  | create {kind : EntryKind} {name : String}
      (notFree : ∀ listed, session.Shows listed → name ∈ listed.map Prod.fst) :
      Fails session (.create kind name) (.nameTaken kind name)

section Nowhere

variable {session : Session} (nowhere : ∀ listed, ¬ session.Shows listed)
include nowhere

theorem exists_directoryAt_error :
    ∃ failure, session.tree.directoryAt session.path = .error failure := by
  cases found : session.tree.directoryAt session.path with
  | error failure => exact ⟨failure, rfl⟩
  | ok directory =>
      obtain ⟨listed, here⟩ := exists_shows_iff.mpr ⟨directory, found⟩
      exact absurd here (nowhere listed)

theorem listing_of_nowhere : session.listing = (Failure.directoryNotFound none).reply := by
  obtain ⟨failure, failed⟩ := exists_directoryAt_error nowhere
  simp only [listing, FileTree.list, failed]

theorem fileReply_of_nowhere (name : String) :
    session.fileReply name = (Failure.fileNotFound name).reply := by
  obtain ⟨failure, failed⟩ := exists_directoryAt_error nowhere
  simp only [fileReply, FileTree.entryAt, failed]

theorem go_child_of_nowhere (name : String) :
    session.go (.child name) = (session, (Failure.directoryNotFound (some name)).reply) := by
  have noDirectory : session.tree.isDirectory (session.path.join name) ≠ true := by
    rw [ne_eq, FileTree.isDirectory_iff]
    rintro ⟨inside, entered⟩
    obtain ⟨listed, here⟩ := Node.outlineAt_of_append entered (List.cons_ne_nil name [])
    exact nowhere listed here
  rw [go, if_neg noDirectory]

theorem create_of_nowhere (kind : EntryKind) (name : String) :
    session.create kind name = (session, (Failure.nameTaken kind name).reply) := by
  cases inserted : session.tree.insertAt session.path name (.blank kind) with
  | error failure => rw [create, inserted]
  | ok grown =>
      obtain ⟨listed, _, here, _⟩ := (FileTree.insertAt_eq_ok_iff.mp inserted).outlineAt_self
      exact absurd here (nowhere listed)

end Nowhere

section Failing

variable {session : Session} {command : Command} {failure : Failure}

theorem Fails.run_nowhere (fails : session.Fails command failure)
    (nowhere : ∀ listed, ¬ session.Shows listed) (clock : Clock) :
    session.run clock command = (session, failure.reply) := by
  cases fails with
  | unknown name => rfl
  | invalid failure => rfl
  | ls _ => rw [run, listing_of_nowhere nowhere]
  | cd _ => rw [run, go_child_of_nowhere nowhere]
  | cat _ => rw [run, fileReply_of_nowhere nowhere]
  | create _ => rw [run_create, create_of_nowhere nowhere]

theorem Fails.run_of_shows (fails : session.Fails command failure)
    {listed : List (String × Option String)} (here : session.Shows listed) (clock : Clock) :
    session.run clock command = (session, failure.reply) := by
  cases fails with
  | unknown name => rfl
  | invalid failure => rfl
  | ls nowhere => exact absurd here (nowhere listed)
  | cd noDirectory => rw [run, go_child_of_shows here, if_neg (noDirectory listed here)]
  | cat noFile =>
      rw [run, fileReply_of_shows here]
      split
      · next content found => exact absurd found (noFile listed here content)
      · rfl
  | create notFree => rw [run_create, create_of_taken here _ (notFree listed here)]

/-- A failure that happens is the whole answer, and nothing changes. -/
theorem Fails.run_eq (fails : session.Fails command failure) (clock : Clock) :
    session.run clock command = (session, failure.reply) := by
  by_cases stands : ∃ listed, session.Shows listed
  · obtain ⟨listed, here⟩ := stands
    exact fails.run_of_shows here clock
  · exact fails.run_nowhere (not_exists.mp stands) clock

/-- A command that shows an error has failed in one of the ways. -/
theorem exists_fails_of_isError {clock : Clock}
    (failed : (session.run clock command).2.isError = true) :
    ∃ failure, session.Fails command failure := by
  have notCreated (kind : EntryKind) (name : String)
      (failed : (session.run clock (.create kind name)).2.isError = true) :
      session.Fails (.create kind name) (.nameTaken kind name) :=
    .create fun _ here => (isError_create_iff here clock kind).mp failed
  cases command with
  | unknown name => exact ⟨_, .unknown name⟩
  | invalid failure => exact ⟨_, .invalid failure⟩
  | mkdir name => exact ⟨_, notCreated .directory name failed⟩
  | touch name => exact ⟨_, notCreated .file name failed⟩
  | ls =>
      refine ⟨_, .ls fun listed here => ?_⟩
      simp [Reply.isError, lines_ls here, Line.isError] at failed
  | cat name =>
      refine ⟨_, .cat fun listed here content found => ?_⟩
      rw [(isError_cat_iff here clock).mpr ⟨content, found⟩] at failed
      contradiction
  | cd destination =>
      cases destination with
      | child name =>
          refine ⟨_, .cd fun listed here found => ?_⟩
          rw [(isError_cd_child_iff here clock).mpr found] at failed
          contradiction
      | _ => contradiction
  | help =>
      rw [run, (Reply.showsContent_map_ofContent _).isError_eq_false] at failed
      contradiction
  | _ => contradiction

end Failing

/-- No two failures have the same message, whatever names they are about.  So a command shows an
error exactly if a failure happens to it, the answer is then one line of error, and the line is
that of a failure exactly if this is the one that happened. -/
theorem error_line_tells_failure :
    Function.Injective Failure.message ∧
      ∀ (clock : Clock) (session : Session) (command : Command),
        ((session.run clock command).2.isError = true ↔
          ∃ failure, session.Fails command failure) ∧
        ∀ failure : Failure,
          (session.run clock command).2.lines = [.error failure.message] ↔
            session.Fails command failure := by
  refine ⟨Failure.message_injective, fun clock session command => ⟨⟨?_, ?_⟩, ?_⟩⟩
  · exact exists_fails_of_isError
  · rintro ⟨failure, fails⟩
    rw [fails.run_eq clock]
    rfl
  · intro failure
    constructor
    · intro shown
      have failed : (session.run clock command).2.isError = true := by
        rw [Reply.isError, shown]
        rfl
      obtain ⟨happened, fails⟩ := exists_fails_of_isError failed
      have sameLine : [Line.error happened.message] = [.error failure.message] := by
        rw [← shown, fails.run_eq clock]
        rfl
      have sameMessage := Line.error.inj (List.singleton_inj.mp sameLine)
      exact Failure.message_injective sameMessage ▸ fails
    · intro fails
      rw [fails.run_eq clock]
      rfl

end Session
end PocketShell
