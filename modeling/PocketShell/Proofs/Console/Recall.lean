import PocketShell.Console.Recall

/-!
# Recall over a history that changes

Each call may be given another history than the calls before it, so the position may
be stale by any amount.  Every call still reads the history inside its range, because
it brings the index into range by itself and relies on nothing that was so before.
Over one history, going back reaches the oldest line and going on leaves the history,
each within as many calls as there are lines.
-/

namespace PocketShell

namespace Recall

inductive Call where
  | older (history : List String)
  | newer (history : List String)
  | reset

def perform (position : Recall) : Call → Recall × Option String
  | .older history => position.older history
  | .newer history => position.newer history
  | .reset => (idle, none)

/-- The position after the calls, one after the other. -/
def performAll (position : Recall) (calls : List Call) : Recall :=
  calls.foldl (fun position call => (position.perform call).1) position

/-- A call with the positions around it and the line that it brought back. -/
structure Turn where
  before : Recall
  call : Call
  after : Recall
  line? : Option String

def turns (position : Recall) : List Call → List Turn
  | [] => []
  | call :: rest =>
      let (next, line?) := position.perform call
      ⟨position, call, next, line?⟩ :: next.turns rest

/-- One line back: none without a history, and else the line at an index in range, which is the
last one to begin with and then one less each time, brought back into range. -/
structure GoesBack (history : List String) (before after : Recall) (line? : Option String) :
    Prop where
  none_iff : line? = none ↔ history = []
  stays : history = [] → after = before
  in_range : history ≠ [] → ∃ index, ∃ inside : index < history.length,
    after.index? = some index ∧ line? = some history[index]
  from_idle : history ≠ [] → before.index? = none → after.index? = some (history.length - 1)
  from_index : ∀ index, history ≠ [] → before.index? = some index →
    after.index? = some (min (index - 1) (history.length - 1))

/-- One line on: none while nothing is brought back, an empty line that ends it behind the last
one, and else the line at the next index. -/
structure GoesOn (history : List String) (before after : Recall) (line? : Option String) :
    Prop where
  none_iff : line? = none ↔ before.index? = none
  stays : before.index? = none → after = before
  leaves_iff : ∀ index, before.index? = some index →
    (line? = some "" ∧ after.index? = none ↔ ¬ index + 1 < history.length)
  moves : ∀ index, before.index? = some index → ∀ inside : index + 1 < history.length,
    after.index? = some (index + 1) ∧ line? = some history[index + 1]

namespace Turn

/-- Whether the call did what it should. -/
def Exact (turn : Turn) : Prop :=
  match turn.call with
  | .older history => GoesBack history turn.before turn.after turn.line?
  | .newer history => GoesOn history turn.before turn.after turn.line?
  | .reset => turn.after.index? = none ∧ turn.line? = none

end Turn

section Steps

variable (position : Recall) (history : List String)

theorem goesBack_older :
    GoesBack history position (position.older history).1 (position.older history).2 := by
  by_cases empty : history = []
  · have stays : position.older history = (position, none) :=
      older_of_empty (List.length_eq_zero_iff.mpr empty)
    rw [stays]
    exact ⟨by simp [empty], fun _ => rfl, fun nonempty => absurd empty nonempty,
      fun nonempty => absurd empty nonempty, fun _ nonempty => absurd empty nonempty⟩
  · have inside := olderIndex_lt (List.length_pos_iff.mpr empty) position.index?
    rw [older_of_olderIndex inside rfl]
    refine ⟨by simp [empty], fun isEmpty => absurd isEmpty empty, ?_, ?_, ?_⟩
    · exact fun _ => ⟨_, inside, rfl, rfl⟩
    · intro _ notBrowsing
      change some (olderIndex history.length position.index?) = _
      rw [notBrowsing]
      rfl
    · intro index _ browsing
      change some (olderIndex history.length position.index?) = _
      rw [browsing]
      rfl

theorem goesOn_newer :
    GoesOn history position (position.newer history).1 (position.newer history).2 := by
  cases browsing : position.index? with
  | none =>
      rw [newer_of_idle browsing]
      exact ⟨by simp [browsing], fun _ => rfl, by simp [browsing], by simp [browsing]⟩
  | some index =>
      by_cases inside : index + 1 < history.length
      · rw [newer_of_lt browsing inside]
        refine ⟨by simp [browsing], by simp [browsing], ?_, ?_⟩
        · rintro _ same
          obtain rfl := Option.some.inj (browsing.symm.trans same)
          simp [inside]
        · rintro _ same _
          obtain rfl := Option.some.inj (browsing.symm.trans same)
          exact ⟨rfl, rfl⟩
      · rw [newer_of_length_le browsing (Nat.not_lt.mp inside)]
        refine ⟨by simp [browsing], by simp [browsing], ?_, ?_⟩
        · rintro _ same
          obtain rfl := Option.some.inj (browsing.symm.trans same)
          simp [inside, idle]
        · rintro _ same insideToo
          obtain rfl := Option.some.inj (browsing.symm.trans same)
          exact absurd insideToo inside

theorem exact_perform (call : Call) :
    Turn.Exact ⟨position, call, (position.perform call).1, (position.perform call).2⟩ := by
  cases call with
  | older history => exact position.goesBack_older history
  | newer history => exact position.goesOn_newer history
  | reset => exact ⟨rfl, rfl⟩

theorem exact_of_mem_turns (calls : List Call) : ∀ turn ∈ position.turns calls, turn.Exact := by
  induction calls generalizing position with
  | nil => exact fun _ mem => absurd mem List.not_mem_nil
  | cons call rest ih =>
      rw [turns, List.forall_mem_cons]
      exact ⟨position.exact_perform call, ih _⟩

end Steps

section OneHistory

variable {position : Recall} {history : List String} {index : Nat}

/-- From an index in range, each line back takes one off the index until it is zero. -/
theorem index?_performAll_older (inside : index < history.length)
    (browsing : position.index? = some index) (steps : Nat) :
    (position.performAll (List.replicate steps (.older history))).index? =
      some (index - steps) := by
  induction steps generalizing position index with
  | zero => exact browsing
  | succ steps ih =>
      have nonempty : history ≠ [] := List.ne_nil_of_length_pos (by omega)
      have back := (position.goesBack_older history).from_index index nonempty browsing
      have oneLess : min (index - 1) (history.length - 1) = index - 1 := by omega
      rw [oneLess] at back
      have further := ih (by omega) back
      rwa [Nat.sub_sub, Nat.add_comm 1] at further

theorem index?_performAll_newer_of_idle (notBrowsing : position.index? = none) (steps : Nat) :
    (position.performAll (List.replicate steps (.newer history))).index? = none := by
  induction steps generalizing position with
  | zero => exact notBrowsing
  | succ steps ih =>
      have stays := (position.goesOn_newer history).stays notBrowsing
      exact ih ((congrArg index? stays).trans notBrowsing)

/-- From an index in range, enough lines on to come behind the last one end the browsing. -/
theorem index?_performAll_newer (browsing : position.index? = some index) {steps : Nat}
    (inside : index < history.length) (enough : history.length ≤ index + steps) :
    (position.performAll (List.replicate steps (.newer history))).index? = none := by
  induction steps generalizing position index with
  | zero => omega
  | succ steps ih =>
      have goesOn := position.goesOn_newer history
      by_cases next : index + 1 < history.length
      · exact ih (goesOn.moves index browsing next).1 next (by omega)
      · exact index?_performAll_newer_of_idle ((goesOn.leaves_iff index browsing).mpr next).2 steps

/-- As many lines back as there are lines reach the oldest one, wherever the position was. -/
theorem index?_performAll_older_length (position : Recall) (nonempty : history ≠ []) :
    (position.performAll (List.replicate history.length (.older history))).index? = some 0 := by
  obtain ⟨index, inside, back, _⟩ := (position.goesBack_older history).in_range nonempty
  obtain ⟨steps, lengthEq⟩ : ∃ steps, history.length = steps + 1 :=
    Nat.exists_eq_add_one.mpr (by omega)
  have further := index?_performAll_older inside back steps
  rw [Nat.sub_eq_zero_of_le (by omega)] at further
  rw [lengthEq, List.replicate_succ]
  exact further

end OneHistory

/-- Whatever histories calls are given from a position on, each of them reads in range and does
what it should.  Over one history that is not empty, as many lines back as there are lines reach
the index zero, and from an index in range no more lines on than there are lines end the browsing
for good. -/
theorem calls_exact (position : Recall) :
    (∀ calls, ∀ turn ∈ position.turns calls, turn.Exact) ∧
      ∀ history, history ≠ [] →
        (position.performAll (List.replicate history.length (.older history))).index? = some 0 ∧
        ∀ index < history.length, position.index? = some index →
          ∃ least ≤ history.length, ∀ steps ≥ least,
            (position.performAll (List.replicate steps (.newer history))).index? = none := by
  refine ⟨position.exact_of_mem_turns, ?_⟩
  intro history nonempty
  refine ⟨index?_performAll_older_length position nonempty, ?_⟩
  intro index inside browsing
  refine ⟨history.length - index, Nat.sub_le _ _, ?_⟩
  intro steps enough
  exact index?_performAll_newer browsing inside (by omega)

end Recall

end PocketShell
