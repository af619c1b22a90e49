/-!
# Rings

A ring keeps the newest items up to a capacity.  While there is room the items
stand in the order in which they came.  Once it is full, each new item takes the
place of the oldest one, and the oldest of those that are left stands right
after it.  `Ring.toList` gives the items from the oldest to the newest: a push
adds an item at its end, and drops the first one if there was no room.
-/

namespace PocketShell

/-- The newest items up to a capacity. -/
structure Ring (α : Type) where
  capacity : Nat
  items : Array α
  /-- Where the oldest item stands. -/
  head : Nat
  capacity_pos : 0 < capacity
  size_le : items.size ≤ capacity
  head_lt : head < capacity
  head_eq_zero : items.size < capacity → head = 0

namespace Ring

variable {α : Type}

def empty (capacity : Nat) (positive : 0 < capacity) : Ring α where
  capacity := capacity
  items := #[]
  head := 0
  capacity_pos := positive
  size_le := Nat.zero_le _
  head_lt := positive
  head_eq_zero := fun _ => rfl

/-- The ring without items, if the capacity leaves room for any. -/
def ofCapacity? (capacity : Nat) : Option (Ring α) :=
  if positive : 0 < capacity then some (empty capacity positive) else none

/-- Why there is no ring without room for an item. -/
def noCapacityMessage : String :=
  "RingBuffer capacity must be greater than 0"

/-- The items, oldest first. -/
def toList (ring : Ring α) : List α :=
  ring.items.toList.drop ring.head ++ ring.items.toList.take ring.head

def size (ring : Ring α) : Nat :=
  ring.items.size

def isEmpty (ring : Ring α) : Bool :=
  ring.items.isEmpty

def oldest? (ring : Ring α) : Option α :=
  ring.items[ring.head]?

/-- The ring with one more item, in place of the oldest one if there is no room. -/
def push (ring : Ring α) (item : α) : Ring α :=
  if room : ring.items.size < ring.capacity then
    { ring with
      items := ring.items.push item
      size_le := by simpa using Nat.succ_le_of_lt room
      head_eq_zero := fun _ => ring.head_eq_zero room }
  else
    have full : ring.items.size = ring.capacity :=
      Nat.le_antisymm ring.size_le (Nat.le_of_not_lt room)
    { ring with
      items := ring.items.set ring.head item (full ▸ ring.head_lt)
      head := (ring.head + 1) % ring.capacity
      size_le := by simpa using ring.size_le
      head_lt := Nat.mod_lt _ ring.capacity_pos
      head_eq_zero := fun stillRoom => absurd (by simpa using stillRoom) room }

/-- The ring with more items, the first of them pushed first. -/
def extend (ring : Ring α) (items : List α) : Ring α :=
  items.foldl push ring

def clear (ring : Ring α) : Ring α :=
  empty ring.capacity ring.capacity_pos

@[simp]
theorem toList_empty (capacity : Nat) (positive : 0 < capacity) :
    (empty capacity positive : Ring α).toList = [] :=
  rfl

@[simp]
theorem length_toList (ring : Ring α) : ring.toList.length = ring.size := by
  have headLe : ring.head ≤ ring.items.size := by
    have := ring.head_lt
    by_cases room : ring.items.size < ring.capacity
    · simp [ring.head_eq_zero room]
    · omega
  simp only [toList, size, List.length_append, List.length_drop, List.length_take,
    Array.length_toList]
  omega

theorem toList_push_of_room {ring : Ring α} (room : ring.items.size < ring.capacity)
    (item : α) : (ring.push item).toList = ring.toList ++ [item] := by
  simp [push, room, toList, ring.head_eq_zero room]

theorem toList_push_of_full {ring : Ring α} (full : ring.items.size = ring.capacity)
    (item : α) : (ring.push item).toList = ring.toList.tail ++ [item] := by
  have noRoom : ¬ ring.items.size < ring.capacity := by omega
  have inside : ring.head < ring.items.toList.length := by
    simpa [full] using ring.head_lt
  have pushed : (ring.push item).toList =
      (ring.items.toList.set ring.head item).drop ((ring.head + 1) % ring.capacity) ++
        (ring.items.toList.set ring.head item).take ((ring.head + 1) % ring.capacity) := by
    simp [push, noRoom, toList]
  have withoutOldest : ring.toList.tail =
      ring.items.toList.drop (ring.head + 1) ++ ring.items.toList.take ring.head := by
    rw [toList, List.drop_eq_getElem_cons inside]
    rfl
  have newest : (ring.items.toList.set ring.head item).take (ring.head + 1) =
      ring.items.toList.take ring.head ++ [item] := by
    rw [List.take_add_one]
    simp [List.take_set_of_le, List.getElem?_set_self inside]
  have headLt := ring.head_lt
  rw [pushed, withoutOldest]
  by_cases wraps : ring.head + 1 = ring.capacity
  · have length : ring.items.toList.length = ring.head + 1 := by simp [full, wraps]
    rw [wraps, Nat.mod_self, ← wraps, List.drop_eq_nil_of_le (Nat.le_of_eq length)]
    have whole : (ring.items.toList.set ring.head item).take (ring.head + 1) =
        ring.items.toList.set ring.head item :=
      List.take_of_length_le (by simp [full, wraps])
    simpa [whole] using newest
  · rw [Nat.mod_eq_of_lt (by omega), newest, List.drop_set_of_lt (by omega)]
    simp

end Ring

end PocketShell
