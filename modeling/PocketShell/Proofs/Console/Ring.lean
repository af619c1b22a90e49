import PocketShell.Console.Ring
import Mathlib.Data.List.DropRight

/-!
# The tail of a log

A log grows at its end without bound.  A ring holds the tail of a log when its
items are the newest ones of the log, as many as it has room for.  Pushing an
item keeps this for the log with the item at its end, whether or not the ring
has wrapped around, and a cleared ring holds the tail of the empty log.
-/

namespace PocketShell

namespace Ring

variable {α : Type} {ring : Ring α} {log : List α}

/-- Whether the items are the newest ones of the log, as many as there is room for. -/
def HoldsTail (ring : Ring α) (log : List α) : Prop :=
  ring.toList = log.rtake ring.capacity

@[simp]
theorem capacity_push (ring : Ring α) (item : α) : (ring.push item).capacity = ring.capacity := by
  unfold push
  split <;> rfl

@[simp]
theorem capacity_extend (ring : Ring α) (items : List α) :
    (ring.extend items).capacity = ring.capacity := by
  induction items generalizing ring with
  | nil => rfl
  | cons item rest ih =>
      calc
        (ring.extend (item :: rest)).capacity = ((ring.push item).extend rest).capacity := rfl
        _ = (ring.push item).capacity := ih _
        _ = ring.capacity := ring.capacity_push item

@[simp]
theorem capacity_clear (ring : Ring α) : ring.clear.capacity = ring.capacity :=
  rfl

theorem holdsTail_empty (capacity : Nat) (positive : 0 < capacity) :
    (empty capacity positive : Ring α).HoldsTail [] := by
  rw [HoldsTail, toList_empty, List.rtake_nil]

theorem holdsTail_clear (ring : Ring α) : ring.clear.HoldsTail [] :=
  holdsTail_empty ring.capacity ring.capacity_pos

theorem HoldsTail.size_eq (holds : ring.HoldsTail log) :
    ring.size = min log.length ring.capacity := by
  rw [← length_toList, holds, List.rtake, List.length_drop]
  omega

theorem HoldsTail.push (holds : ring.HoldsTail log) (item : α) :
    (ring.push item).HoldsTail (log ++ [item]) := by
  have sizeEq : ring.items.size = min log.length ring.capacity := holds.size_eq
  have capacityPos := ring.capacity_pos
  rw [HoldsTail, capacity_push, List.rtake, List.length_append, List.length_singleton]
  by_cases room : ring.items.size < ring.capacity
  · have whole : log.rtake ring.capacity = log := by
      rw [List.rtake, Nat.sub_eq_zero_of_le (by omega), List.drop_zero]
    rw [toList_push_of_room room, holds, whole, Nat.sub_eq_zero_of_le (by omega), List.drop_zero]
  -- A full ring loses its oldest item, and the tail of the longer log begins one item later.
  · have full : ring.items.size = ring.capacity := by omega
    have longer : log.length + 1 - ring.capacity = log.length - ring.capacity + 1 := by omega
    rw [toList_push_of_full full, holds, List.rtake, List.tail_drop, longer,
      List.drop_append_of_le_length (by omega)]

theorem HoldsTail.extend (holds : ring.HoldsTail log) (items : List α) :
    (ring.extend items).HoldsTail (log ++ items) := by
  induction items generalizing ring log with
  | nil => simpa [Ring.extend] using holds
  | cons item rest ih => simpa [Ring.extend] using ih (holds.push item)

end Ring

end PocketShell
