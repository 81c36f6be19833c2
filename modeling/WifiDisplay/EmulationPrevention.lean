import Mathlib.Data.List.Infix
import WifiDisplay.Basic

/-! Emulation prevention bytes: a 3 behind two zeros, which keeps start codes out of the bytes
that it is put into. -/

namespace EmulationPrevention

open WifiDisplay (Byte)

/-- Removes the bytes behind `a` and `b`. -/
def removeFrom (a b : Byte) : List Byte → List Byte
  | [] => []
  | c :: bytes =>
    if a = 0 ∧ b = 0 ∧ c = 3 then removeFrom b c bytes else c :: removeFrom b c bytes

/-- Every 3 that follows two zeros is removed. -/
def remove (bytes : List Byte) : List Byte := removeFrom 0xFF 0xFF bytes

/-- Inserts the bytes behind `a` and `b`. -/
def insertFrom (a b : Byte) : List Byte → List Byte
  | [] => if a = 0 ∧ b = 0 then [3] else []
  | c :: bytes =>
    if a = 0 ∧ b = 0 ∧ c ≤ 3 then 3 :: c :: insertFrom 3 c bytes else c :: insertFrom b c bytes

/-- A 3 is inserted where two zeros are followed by a byte up to 3 or by nothing. -/
def insert (bytes : List Byte) : List Byte := insertFrom 0xFF 0xFF bytes

theorem removeFrom_insertFrom (a b : Byte) (bytes : List Byte) :
    removeFrom a b (insertFrom a b bytes) = bytes := by
  induction bytes generalizing a b with
  | nil =>
    rw [insertFrom]
    split
    · rename_i h
      rw [removeFrom, if_pos ⟨h.1, h.2, rfl⟩, removeFrom]
    · rfl
  | cons c bytes ih =>
    rw [insertFrom]
    split
    · rename_i h
      have hthree : ¬ ((b = 0 ∧ (3 : Byte) = 0) ∧ c = 3) := by simp
      rw [removeFrom, if_pos ⟨h.1, h.2.1, rfl⟩, removeFrom, if_neg (by tauto), ih]
    · rename_i h
      rw [removeFrom, if_neg, ih]
      rintro ⟨ha, hb, rfl⟩
      exact h ⟨ha, hb, by decide⟩

theorem remove_insert (bytes : List Byte) : remove (insert bytes) = bytes :=
  removeFrom_insertFrom _ _ bytes

end EmulationPrevention
