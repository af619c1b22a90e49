import PocketShell.Proofs.Console.Ring

/-!
# The slots of a ring

Slots are what a ring keeps, with nothing promised about them: an item that has to
go to a place that there is not is a failure, and so is a head beyond the items when
they are read.  No calls bring slots that were empty at first to fail.  They are
always the slots of the ring with the same calls, and what it holds is the tail of a
queue without bound: the items that were added since the ring was last cleared.
-/

namespace PocketShell

structure Slots (α : Type) where
  capacity : Nat
  items : Array α
  head : Nat

namespace Ring

variable {α : Type}

inductive Call (α : Type) where
  | push (item : α)
  | extend (items : List α)
  | clear

namespace Call

/-- The items that the call adds. -/
def added : Call α → List α
  | .push item => [item]
  | .extend items => items
  | .clear => []

def clears : Call α → Bool
  | .clear => true
  | _ => false

/-- The items that were added since the last call that clears, oldest first. -/
def addedSinceCleared (calls : List (Call α)) : List α :=
  (calls.rtakeWhile (!·.clears)).flatMap added

theorem addedSinceCleared_concat (calls : List (Call α)) (call : Call α) :
    addedSinceCleared (calls ++ [call]) =
      if call.clears then [] else addedSinceCleared calls ++ call.added := by
  rw [addedSinceCleared, List.rtakeWhile_concat]
  cases clears : call.clears with
  | true => rfl
  | false => simp [addedSinceCleared]

end Call

def perform (ring : Ring α) : Call α → Ring α
  | .push item => ring.push item
  | .extend items => ring.extend items
  | .clear => ring.clear

/-- The ring after the calls, one after the other. -/
def performAll (ring : Ring α) (calls : List (Call α)) : Ring α :=
  calls.foldl perform ring

def slots (ring : Ring α) : Slots α :=
  ⟨ring.capacity, ring.items, ring.head⟩

end Ring

namespace Slots

variable {α : Type}

def empty (capacity : Nat) : Slots α :=
  ⟨capacity, #[], 0⟩

/-- Puts the item behind the others while there is room, and else in place of the item at the
head, if one stands there. -/
def push? (slots : Slots α) (item : α) : Option (Slots α) :=
  if slots.items.size < slots.capacity then
    some { slots with items := slots.items.push item }
  else if inside : slots.head < slots.items.size then
    some { slots with
      items := slots.items.set slots.head item inside
      head := (slots.head + 1) % slots.capacity }
  else none

def perform? (slots : Slots α) : Ring.Call α → Option (Slots α)
  | .push item => slots.push? item
  | .extend items => items.foldlM push? slots
  | .clear => some { slots with items := #[], head := 0 }

def performAll? (slots : Slots α) (calls : List (Ring.Call α)) : Option (Slots α) :=
  calls.foldlM perform? slots

/-- The items from the head on and then those before it, if they can be parted there. -/
def toList? (slots : Slots α) : Option (List α) :=
  if slots.head ≤ slots.items.size then
    some (slots.items.toList.drop slots.head ++ slots.items.toList.take slots.head)
  else none

end Slots

namespace Ring

variable {α : Type} (ring : Ring α)

theorem push?_slots (item : α) : ring.slots.push? item = some (ring.push item).slots := by
  by_cases room : ring.items.size < ring.capacity
  · simp [Slots.push?, slots, push, room]
  · have inside : ring.head < ring.items.size := by
      have := ring.head_lt
      omega
    simp [Slots.push?, slots, push, room, inside]

/-- When every step on the slots succeeds like the one on the ring, so do all of them. -/
theorem foldlM_slots {β : Type} {step? : Slots α → β → Option (Slots α)}
    {step : Ring α → β → Ring α}
    (stepSlots : ∀ (ring : Ring α) (value : β),
      step? ring.slots value = some (step ring value).slots) (values : List β) :
    values.foldlM step? ring.slots = some (values.foldl step ring).slots := by
  induction values generalizing ring with
  | nil => rfl
  | cons value rest ih =>
      rw [List.foldlM_cons, stepSlots]
      exact ih (step ring value)

theorem perform?_slots (call : Call α) :
    ring.slots.perform? call = some (ring.perform call).slots := by
  cases call with
  | push item => exact ring.push?_slots item
  | extend items => exact ring.foldlM_slots push?_slots items
  | clear => rfl

theorem performAll?_slots (calls : List (Call α)) :
    ring.slots.performAll? calls = some (ring.performAll calls).slots :=
  ring.foldlM_slots perform?_slots calls

theorem head_le_size : ring.head ≤ ring.size := by
  have headLt := ring.head_lt
  have atZero := ring.head_eq_zero
  rw [size]
  omega

theorem toList?_slots : ring.slots.toList? = some ring.toList :=
  if_pos ring.head_le_size

variable {ring}

@[simp]
theorem capacity_perform (ring : Ring α) (call : Call α) :
    (ring.perform call).capacity = ring.capacity := by
  cases call with
  | push item => exact ring.capacity_push item
  | extend items => exact ring.capacity_extend items
  | clear => rfl

@[simp]
theorem capacity_performAll (ring : Ring α) (calls : List (Call α)) :
    (ring.performAll calls).capacity = ring.capacity := by
  induction calls generalizing ring with
  | nil => rfl
  | cons call rest ih => exact (ih _).trans (ring.capacity_perform call)

theorem HoldsTail.perform {log : List α} (holds : ring.HoldsTail log) (call : Call α) :
    (ring.perform call).HoldsTail (if call.clears then [] else log ++ call.added) := by
  cases call with
  | push item => exact holds.push item
  | extend items => exact holds.extend items
  | clear => exact ring.holdsTail_clear

/-- After any calls a ring that was empty at first holds the tail of what was added since. -/
theorem holdsTail_performAll_empty (capacity : Nat) (positive : 0 < capacity)
    (calls : List (Call α)) :
    ((empty capacity positive).performAll calls).HoldsTail (Call.addedSinceCleared calls) := by
  induction calls using List.reverseRecOn with
  | nil => exact holdsTail_empty capacity positive
  | append_singleton before call ih =>
      rw [performAll, List.foldl_append, Call.addedSinceCleared_concat]
      exact ih.perform call

/-- Calls on empty slots never fail, and they lead to the slots of the ring with the same calls.
There are never more items than the capacity, the head stays below it, and at zero until the ring
is full.  The items, oldest first, are the newest ones of those added since the ring was last
cleared, as many as there is room for. -/
theorem performAll_eq_queue (capacity : Nat) (positive : 0 < capacity) (calls : List (Call α)) :
    let ring := (empty capacity positive).performAll calls
    let added := Call.addedSinceCleared calls
    (Slots.empty capacity).performAll? calls = some ring.slots ∧
      ring.slots.items.size ≤ capacity ∧ ring.slots.head < capacity ∧
      (ring.slots.items.size < capacity → ring.slots.head = 0) ∧
      ring.slots.toList? = some ring.toList ∧
      ring.toList = added.drop (added.length - min capacity added.length) ∧
      ring.size = ring.toList.length ∧ (ring.isEmpty = true ↔ ring.toList = []) := by
  intro ring added
  have capacityEq : ring.capacity = capacity := capacity_performAll _ calls
  have holds : ring.HoldsTail added := holdsTail_performAll_empty capacity positive calls
  have sizeLe := ring.size_le
  have headLt := ring.head_lt
  have atZero := ring.head_eq_zero
  rw [capacityEq] at sizeLe headLt atZero
  refine ⟨performAll?_slots (empty capacity positive) calls, sizeLe, headLt, atZero,
    ring.toList?_slots, ?_, ring.length_toList.symm, ?_⟩
  · have sameStart : added.length - capacity = added.length - min capacity added.length := by
      omega
    rw [holds, capacityEq, List.rtake, sameStart]
  · rw [← List.length_eq_zero_iff, length_toList, isEmpty, size, Array.isEmpty_iff_size_eq_zero]

/-- A ring for two items that is filled and wraps, is cleared while it is wrapped, and wraps
again. -/
theorem performAll_eq_queue_after_wraps :
    let calls : List (Call Nat) := [.extend [1, 2, 3], .clear, .extend [7, 8], .push 9]
    0 < 2 ∧ ((empty 2 (by decide)).performAll calls).toList = [8, 9] := by
  intro calls
  have positive : 0 < 2 := by decide
  obtain ⟨_, _, _, _, _, toListEq, _⟩ := performAll_eq_queue 2 positive calls
  exact ⟨positive, toListEq.trans (by decide)⟩

end Ring

end PocketShell
