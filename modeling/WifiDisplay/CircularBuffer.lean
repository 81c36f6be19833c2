import WifiDisplay.Basic

/-! `circular_buffer`: a deque whose capacity only `push_back` looks at. -/

namespace WifiDisplay

structure CircularBuffer (α : Type) where
  capacity : Nat := 0
  items : List α := []
  deriving DecidableEq, Repr

namespace CircularBuffer

variable {α : Type} (b : CircularBuffer α)

def size : Nat := b.items.length

def clear : CircularBuffer α := { b with items := [] }

def popFront : CircularBuffer α := { b with items := b.items.drop 1 }

/-- A full buffer loses its first element without a word to the caller. -/
def pushBack (item : α) : CircularBuffer α :=
  { b with items := (if b.size ≥ b.capacity then b.items.drop 1 else b.items) ++ [item] }

def setCapacity (capacity : Nat) : CircularBuffer α := { b with capacity }

@[simp] theorem items_clear : b.clear.items = [] := rfl

@[simp] theorem items_popFront : b.popFront.items = b.items.drop 1 := rfl

@[simp] theorem items_setCapacity (capacity : Nat) : (b.setCapacity capacity).items = b.items := rfl

@[simp] theorem capacity_setCapacity (capacity : Nat) : (b.setCapacity capacity).capacity = capacity := rfl

@[simp] theorem capacity_popFront : b.popFront.capacity = b.capacity := rfl

@[simp] theorem capacity_clear : b.clear.capacity = b.capacity := rfl

theorem items_pushBack {item : α} (h : b.size < b.capacity) :
    (b.pushBack item).items = b.items ++ [item] := by
  simp [pushBack, Nat.not_le.mpr h]

end CircularBuffer

end WifiDisplay
