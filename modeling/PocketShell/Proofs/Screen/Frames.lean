import PocketShell.Screen.Frame
import Mathlib.Data.List.TakeWhile

/-!
# The screen follows the console

Only a redraw changes what a frame is drawn from: a key that is answered in any
other way leaves the whole console as it was.  So the last frame drawn is always
the one that the console as it is now would give, although most keys draw
nothing.  Nothing is drawn after the first key that leaves but a cleared screen.
-/

namespace PocketShell

def KeyPress.leaves (key : KeyPress) : Bool :=
  key.action? = some .quit

namespace Console

/-- What comes of the keys one by one, each pressed by the clock at its position. -/
def pressEach : (Nat → Clock) → Console → List KeyPress → List (Console × Event)
  | _, _, [] => []
  | clocks, console, key :: rest =>
      console.press (clocks 0) key ::
        pressEach (fun position => clocks (position + 1)) (console.press (clocks 0) key).1 rest

def afterSteps (console : Console) (steps : List (Console × Event)) : Console :=
  (steps.map Prod.fst).getLastD console

/-- The frames of the consoles that have to be drawn again. -/
def redrawn (size : ScreenSize) (steps : List (Console × Event)) : List String :=
  (steps.filter (·.2 = .redraw)).map (·.1.frame size)

section Step

variable (clock : Clock) (console : Console)

theorem recalled_older_of_ne_redraw
    (kept : (console.recalled (console.recalling.older console.session.history)).2 ≠ .redraw) :
    (console.recalled (console.recalling.older console.session.history)) =
      (console, .ignored) := by
  by_cases isEmpty : console.session.history.length = 0
  · rw [Recall.older_of_empty isEmpty]
    rfl
  · have inside := Recall.olderIndex_lt (Nat.pos_of_ne_zero isEmpty) console.recalling.index?
    rw [Recall.older_of_olderIndex inside rfl] at kept
    contradiction

theorem recalled_newer_of_ne_redraw
    (kept : (console.recalled (console.recalling.newer console.session.history)).2 ≠ .redraw) :
    (console.recalled (console.recalling.newer console.session.history)) =
      (console, .ignored) := by
  cases browsing : console.recalling.index? with
  | none =>
      rw [Recall.newer_of_idle browsing]
      rfl
  | some index =>
      by_cases inside : index + 1 < console.session.history.length
      · rw [Recall.newer_of_lt browsing inside] at kept
        contradiction
      · rw [Recall.newer_of_length_le browsing (Nat.not_lt.mp inside)] at kept
        contradiction

theorem handle_of_ne_redraw {action : Action}
    (kept : (console.handle clock action).2 ≠ .redraw) :
    console.handle clock action =
      (console, if action = .quit then .quit else .ignored) := by
  cases action with
  | older => exact recalled_older_of_ne_redraw console kept
  | newer => exact recalled_newer_of_ne_redraw console kept
  | complete => rfl
  | quit => rfl
  | _ => contradiction

/-- A key that does not ask for a redraw leaves everything as it was, and closes the console
exactly if it leaves. -/
theorem press_of_ne_redraw {key : KeyPress} (kept : (console.press clock key).2 ≠ .redraw) :
    console.press clock key = (console, if key.leaves then .quit else .ignored) := by
  unfold press at kept ⊢
  cases asks : key.action? with
  | none => simp [KeyPress.leaves, asks]
  | some action =>
      simp only [asks] at kept
      simp only [handle_of_ne_redraw clock console kept, KeyPress.leaves, asks, Option.some.injEq,
        decide_eq_true_eq]

theorem press_of_leaves {key : KeyPress} (leaves : key.leaves = true) :
    console.press clock key = (console, .quit) := by
  have asks : key.action? = some .quit := by simpa [KeyPress.leaves] using leaves
  rw [press, asks]
  rfl

end Step

section Steps

variable {size : ScreenSize} {step : Console × Event}

theorem afterSteps_cons (console : Console) (step : Console × Event)
    (rest : List (Console × Event)) :
    console.afterSteps (step :: rest) = step.1.afterSteps rest := by
  rw [afterSteps, List.map_cons, List.getLastD_cons, afterSteps]

theorem redrawn_cons_of_redraw (redraws : step.2 = .redraw) (rest : List (Console × Event)) :
    redrawn size (step :: rest) = step.1.frame size :: redrawn size rest := by
  rw [redrawn, List.filter_cons_of_pos (by simpa using redraws), List.map_cons, redrawn]

theorem redrawn_cons_of_ne_redraw (kept : step.2 ≠ .redraw) (rest : List (Console × Event)) :
    redrawn size (step :: rest) = redrawn size rest := by
  rw [redrawn, List.filter_cons_of_neg (by simpa using kept), redrawn]

end Steps

/-- The keys before the first that leaves are pressed one by one, and each redraw gives a frame.
If there is a key that leaves, a cleared screen ends the frames. -/
theorem play_eq (size : ScreenSize) (clocks : Nat → Clock) (console : Console)
    (keys : List KeyPress) :
    play size clocks console keys =
      (console.afterSteps (pressEach clocks console (keys.takeWhile (!·.leaves))),
        redrawn size (pressEach clocks console (keys.takeWhile (!·.leaves))) ++
          if keys.any KeyPress.leaves then [clearedScreen] else []) := by
  induction keys generalizing clocks console with
  | nil => rfl
  | cons key rest ih =>
      cases leaves : key.leaves with
      | true =>
          rw [play, press_of_leaves _ _ leaves]
          simp [pressEach, afterSteps, redrawn, leaves]
      | false =>
          have before : (key :: rest).takeWhile (!·.leaves) =
              key :: rest.takeWhile (!·.leaves) := by
            simp [leaves]
          have anyLeaves : (key :: rest).any KeyPress.leaves = rest.any KeyPress.leaves := by
            simp [leaves]
          rw [before, anyLeaves, pressEach, afterSteps_cons, play]
          by_cases redraws : (console.press (clocks 0) key).2 = .redraw
          · have pressed : console.press (clocks 0) key =
                ((console.press (clocks 0) key).1, .redraw) := Prod.ext rfl redraws
            rw [redrawn_cons_of_redraw redraws, pressed]
            simp only [ih, List.cons_append]
          -- Such a key neither leaves nor changes the console, so it can be passed over.
          · rw [redrawn_cons_of_ne_redraw redraws, press_of_ne_redraw _ _ redraws, leaves]
            exact ih _ console

theorem getLast?_frames_pressEach (size : ScreenSize) (clocks : Nat → Clock) (console : Console)
    (keys : List KeyPress) :
    (console.frame size :: redrawn size (pressEach clocks console keys)).getLast? =
      some ((console.afterSteps (pressEach clocks console keys)).frame size) := by
  induction keys generalizing clocks console with
  | nil => rfl
  | cons key rest ih =>
      rw [pressEach, afterSteps_cons]
      by_cases redraws : (console.press (clocks 0) key).2 = .redraw
      · rw [redrawn_cons_of_redraw redraws, List.getLast?_cons_cons]
        exact ih _ _
      · have same : (console.press (clocks 0) key).1 = console :=
          congrArg Prod.fst (press_of_ne_redraw _ _ redraws)
        rw [redrawn_cons_of_ne_redraw redraws, same]
        exact ih _ console

/-- The rows of a frame above the prompt show the newest lines of the scrollback, oldest first, as
many as there are or as the rows above the two reserved ones can hold. -/
theorem frame_eq_of_newest (console : Console) (size : ScreenSize) :
    ∃ older newest, console.scrollback.toList = older ++ newest ∧
      newest.length = min console.scrollback.size (size.rows - 2) ∧
      console.frame size =
        clearedScreen ++
          String.join (newest.map fun line => line.drawn size.columns ++ "\r\n") ++
          console.inputRow ++ console.statusRow size := by
  have skipped : size.lineRows = size.rows - 2 := rfl
  refine ⟨_, console.visibleLines size, (List.take_append_drop _ _).symm, ?_, rfl⟩
  rw [visibleLines, List.length_drop, Ring.length_toList, skipped]
  omega

/-- One frame is drawn at the start and one for each redraw, so the last frame before the first key
that leaves is the one of the console as it is then.  That key draws a cleared screen, and the keys
after it neither draw nor change the console.  Every frame shows the newest lines. -/
theorem frames_follow_console (size : ScreenSize) (clocks : Nat → Clock) (console : Console)
    (keys : List KeyPress) :
    let before := keys.takeWhile (!·.leaves)
    let steps := pressEach clocks console before
    let drawn := console.framesTimed clocks size before
    drawn = console.frame size :: (steps.filter (·.2 = .redraw)).map (·.1.frame size) ∧
      drawn.getLast? = some ((console.afterSteps steps).frame size) ∧
      console.framesTimed clocks size keys =
        drawn ++ (if keys.any (·.leaves) then [clearedScreen] else []) ∧
      (play size clocks console keys).1 = console.afterSteps steps ∧
      ∀ shown : Console, ∃ older newest, shown.scrollback.toList = older ++ newest ∧
        newest.length = min shown.scrollback.size (size.rows - 2) ∧
        shown.frame size =
          clearedScreen ++
            String.join (newest.map fun line => line.drawn size.columns ++ "\r\n") ++
            shown.inputRow ++ shown.statusRow size := by
  intro before steps drawn
  have noneLeaves : before.any KeyPress.leaves = false := by
    rw [List.any_eq_false]
    intro key keyMem
    simpa using List.mem_takeWhile_imp keyMem
  have sameBefore : before.takeWhile (!·.leaves) = before := List.takeWhile_idem
  have drawnEq : drawn = console.frame size :: redrawn size steps := by
    simp only [drawn, framesTimed, play_eq, sameBefore, noneLeaves, steps, if_false,
      Bool.false_eq_true, List.append_nil]
  refine ⟨drawnEq, ?_, ?_, ?_, fun shown => shown.frame_eq_of_newest size⟩
  · rw [drawnEq]
    exact getLast?_frames_pressEach size clocks console before
  · rw [framesTimed, play_eq, drawnEq, List.cons_append]
  · rw [play_eq]

end Console

end PocketShell
