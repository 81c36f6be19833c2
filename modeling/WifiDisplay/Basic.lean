import Mathlib.Data.BitVec

/-! Bytes and the faults at which a C++ function stops being defined. -/

namespace WifiDisplay

abbrev Byte := BitVec 8

inductive Fault where
  | nullPointer
  | outOfBounds
  | emptyContainer
  deriving DecidableEq, Repr

theorem bind_eq_ok {ε α β : Type} {x : Except ε α} {f : α → Except ε β} {b : β} :
    x >>= f = .ok b ↔ ∃ a, x = .ok a ∧ f a = .ok b := by
  cases x with
  | error e => simp [bind, Except.bind]
  | ok a => simp [bind, Except.bind]

end WifiDisplay
