import PocketShell.Proofs.Console.Calls

/-!
# An editor with a plain position

A reference editor keeps the lines given before and stands at a position among
them, from zero up to their number.  At the end of them it is not browsing.  It
has no session and no tree.  A console edits, recalls and answers as this editor
does: while a line is being brought back the history does not grow, and whatever
makes it grow ends the browsing.
-/

namespace PocketShell

structure Editor where
  history : List String
  position : Nat
  input : List Char
  position_le : position ≤ history.length

namespace Editor

def new : Editor :=
  ⟨[], 0, [], Nat.le_refl 0⟩

def historyWith (editor : Editor) (line : String) : List String :=
  if Text.hasNonBlank line then editor.history ++ [Text.trim line] else editor.history

/-- The editor after a line was given, which ends the browsing. -/
def give (editor : Editor) (line : String) : Editor where
  history := editor.historyWith line
  position := (editor.historyWith line).length
  input := editor.input
  position_le := Nat.le_refl _

/-- One line back, but not before the first one. -/
def older (editor : Editor) : Editor × Event :=
  if isEmpty : editor.history.length = 0 then (editor, .ignored)
  else
    have inside : editor.position - 1 < editor.history.length := by
      have := editor.position_le
      omega
    ({ editor with
        position := editor.position - 1
        input := editor.history[editor.position - 1].toList
        position_le := Nat.le_of_lt inside }, .redraw)

/-- One line on; behind the last one stands an empty line. -/
def newer (editor : Editor) : Editor × Event :=
  if atEnd : editor.position = editor.history.length then (editor, .ignored)
  else
    ({ editor with
        position := editor.position + 1
        input :=
          if inside : editor.position + 1 < editor.history.length then
            editor.history[editor.position + 1].toList
          else []
        position_le := by
          have := editor.position_le
          omega }, .redraw)

def handle (editor : Editor) : Action → Editor × Event
  | .insert char => ({ editor with input := editor.input ++ [char] }, .redraw)
  | .backspace => ({ editor with input := editor.input.dropLast }, .redraw)
  | .submit => ({ editor.give (String.ofList editor.input) with input := [] }, .redraw)
  | .older => editor.older
  | .newer => editor.newer
  | .complete => (editor, .ignored)
  | .quit => (editor, .quit)

def perform (editor : Editor) : Console.Call → Editor × Option Event
  | .action _ action =>
      let (next, event) := editor.handle action
      (next, some event)
  | .line _ line => (editor.give line, none)

def performAll (editor : Editor) : List Console.Call → Editor × List (Option Event)
  | [] => (editor, [])
  | call :: rest =>
      let (next, event) := editor.perform call
      let (last, events) := next.performAll rest
      (last, event :: events)

end Editor

namespace Console

/-- A console that has the history and the input of the editor, and that browses exactly while
the editor is not at the end of the history. -/
structure Tracks (console : Console) (editor : Editor) : Prop where
  history_eq : console.session.history = editor.history
  input_eq : console.input = String.ofList editor.input
  index_eq : console.recalling.index? =
    if editor.position < editor.history.length then some editor.position else none

variable {console : Console} {editor : Editor}

theorem tracks_start (banner : Bool) : (start banner).Tracks .new :=
  ⟨rfl, rfl, rfl⟩

theorem Tracks.submit (tracks : console.Tracks editor) (clock : Clock) (line : String) :
    (console.submit clock line).1.Tracks (editor.give line) where
  history_eq := by
    have grown := Session.history_executeTimed (fun _ => clock) console.session [line]
    change (console.session.execute clock line).1.history = editor.historyWith line
    change (console.session.execute clock line).1.history = _ at grown
    rw [grown, tracks.history_eq, Editor.historyWith, List.filter_cons]
    split <;> simp
  input_eq := tracks.input_eq
  index_eq := (if_neg (Nat.lt_irrefl _)).symm

theorem Tracks.older (tracks : console.Tracks editor) :
    (console.recalled (console.recalling.older console.session.history)).1.Tracks
        editor.older.1 ∧
      (console.recalled (console.recalling.older console.session.history)).2 =
        editor.older.2 := by
  have positionLe := editor.position_le
  rw [tracks.history_eq]
  by_cases isEmpty : editor.history.length = 0
  · rw [Recall.older_of_empty isEmpty, Editor.older, dif_pos isEmpty]
    exact ⟨⟨tracks.history_eq, tracks.input_eq, tracks.index_eq⟩, rfl⟩
  · have inside : editor.position - 1 < editor.history.length := by omega
    -- At the end of the history too the line to bring back is the one before the position.
    have indexEq : Recall.olderIndex editor.history.length console.recalling.index? =
        editor.position - 1 := by
      rw [tracks.index_eq]
      split <;> simp only [Recall.olderIndex] <;> omega
    rw [Recall.older_of_olderIndex inside indexEq, Editor.older, dif_neg isEmpty]
    refine ⟨⟨tracks.history_eq, ?_, ?_⟩, rfl⟩
    · exact String.ofList_toList.symm
    · exact (if_pos inside).symm

theorem Tracks.newer (tracks : console.Tracks editor) :
    (console.recalled (console.recalling.newer console.session.history)).1.Tracks
        editor.newer.1 ∧
      (console.recalled (console.recalling.newer console.session.history)).2 =
        editor.newer.2 := by
  have positionLe := editor.position_le
  have indexEq := tracks.index_eq
  rw [tracks.history_eq]
  by_cases atEnd : editor.position = editor.history.length
  · rw [if_neg (by omega)] at indexEq
    rw [Recall.newer_of_idle indexEq, Editor.newer, dif_pos atEnd]
    exact ⟨⟨tracks.history_eq, tracks.input_eq, tracks.index_eq⟩, rfl⟩
  · rw [if_pos (by omega)] at indexEq
    rw [Editor.newer, dif_neg atEnd]
    by_cases inside : editor.position + 1 < editor.history.length
    · rw [Recall.newer_of_lt indexEq inside]
      refine ⟨⟨tracks.history_eq, ?_, ?_⟩, rfl⟩
      · simp [recalled, inside]
      · exact (if_pos inside).symm
    · rw [Recall.newer_of_length_le indexEq (by omega)]
      refine ⟨⟨tracks.history_eq, ?_, ?_⟩, rfl⟩
      · simp [recalled, inside]
      · exact (if_neg inside).symm

theorem Tracks.handle (tracks : console.Tracks editor) (clock : Clock) (action : Action) :
    (console.handle clock action).1.Tracks (editor.handle action).1 ∧
      (console.handle clock action).2 = (editor.handle action).2 := by
  cases action with
  | insert char =>
      refine ⟨⟨tracks.history_eq, ?_, tracks.index_eq⟩, rfl⟩
      simp [Console.handle, Editor.handle, tracks.input_eq]
  | backspace =>
      refine ⟨⟨tracks.history_eq, ?_, tracks.index_eq⟩, rfl⟩
      simp [Console.handle, Editor.handle, tracks.input_eq]
  | submit =>
      have submitted := tracks.submit clock console.input
      have sameLine : editor.give console.input = editor.give (String.ofList editor.input) :=
        congrArg editor.give tracks.input_eq
      rw [sameLine] at submitted
      exact ⟨⟨submitted.history_eq, rfl, submitted.index_eq⟩, rfl⟩
  | older => exact tracks.older
  | newer => exact tracks.newer
  | complete => exact ⟨tracks, rfl⟩
  | quit => exact ⟨tracks, rfl⟩

theorem Tracks.perform (tracks : console.Tracks editor) (call : Call) :
    (console.perform call).1.Tracks (editor.perform call).1 ∧
      (console.perform call).2 = (editor.perform call).2 := by
  cases call with
  | action clock action =>
      obtain ⟨next, event⟩ := tracks.handle clock action
      exact ⟨next, congrArg some event⟩
  | line clock line => exact ⟨tracks.submit clock line, rfl⟩

theorem Tracks.performAll (tracks : console.Tracks editor) (calls : List Call) :
    (console.performAll calls).1.Tracks (editor.performAll calls).1 ∧
      (console.performAll calls).2 = (editor.performAll calls).2 := by
  induction calls generalizing console editor with
  | nil => exact ⟨tracks, rfl⟩
  | cons call rest ih =>
      obtain ⟨next, event⟩ := tracks.perform call
      obtain ⟨last, events⟩ := ih next
      exact ⟨last, by simp only [Console.performAll, Editor.performAll, event, events]⟩

/-- A line from the history is kept as it is when it is given again. -/
theorem filter_map_of_mem_history {banner : Bool} {calls : List Call} {entry : String}
    (mem : entry ∈ ((start banner).performAll calls).1.session.history) :
    ([entry].filter Text.hasNonBlank).map Text.trim = [entry] := by
  rw [history_performAll_start] at mem
  obtain ⟨line, kept, rfl⟩ := List.mem_map.mp mem
  have nonBlank : Text.hasNonBlank (Text.trim line) = true := by
    rw [Session.hasNonBlank_eq_isSome, Command.ofLine?_trim, ← Session.hasNonBlank_eq_isSome]
    exact (List.mem_filter.mp kept).2
  simp [nonBlank]

/-- After any calls the console has the input, and gave the events, of the editor with a plain
position.  Bringing a line back reaches neither the session nor the scrollback, and an entry of
the history that is submitted as it is becomes the newest entry unchanged. -/
theorem performAll_eq_editor (banner : Bool) (calls : List Call) :
    let (console, events) := (start banner).performAll calls
    let (editor, editorEvents) := Editor.new.performAll calls
    console.input = String.ofList editor.input ∧ events = editorEvents ∧
      console.session.history = editor.history ∧
      (∀ clock action, action = .older ∨ action = .newer →
        (console.handle clock action).1.session = console.session ∧
          (console.handle clock action).1.scrollback = console.scrollback) ∧
      ∀ clock entry, entry ∈ console.session.history → console.input = entry →
        (console.handle clock .submit).1.session.history =
          console.session.history ++ [entry] := by
  obtain ⟨tracks, eventsEq⟩ := (tracks_start banner).performAll calls
  refine ⟨tracks.input_eq, eventsEq, tracks.history_eq, ?_, ?_⟩
  · intro clock action recalls
    have noSubmission : ((start banner).performAll calls).1.submission?
        (.action clock action) = none := by
      rcases recalls with rfl | rfl <;> rfl
    exact perform_of_no_submission noSubmission
  · intro clock entry mem inputEq
    have kept := Session.history_executeTimed (fun _ => clock)
      ((start banner).performAll calls).1.session [entry]
    rw [filter_map_of_mem_history mem] at kept
    subst inputEq
    exact kept

end Console

end PocketShell
