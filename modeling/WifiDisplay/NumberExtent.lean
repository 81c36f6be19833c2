import Mathlib.Data.Finset.Card
import Mathlib.Order.Interval.Finset.Nat

/-! Lists of natural numbers by their extent: from the lowest to the highest, which of
the numbers in between are missing and how many stand there again. -/

namespace NumberExtent

def highest (l : List ℕ) : ℕ := l.foldl max 0

def lowest (l : List ℕ) : ℕ := l.tail.foldl min (l.headD 0)

/-- How many numbers between the lowest and the highest are not in the list. -/
def missing (l : List ℕ) : ℕ := (Finset.Icc (lowest l) (highest l) \ l.toFinset).card

/-- How many entries repeat a number. -/
def repeated (l : List ℕ) : ℕ := l.length - l.toFinset.card

variable {l : List ℕ} {x y : ℕ}

@[simp]
theorem highest_snoc (l : List ℕ) (x : ℕ) : highest (l ++ [x]) = max (highest l) x := by
  simp [highest, List.foldl_append]

@[simp]
theorem lowest_singleton (x : ℕ) : lowest [x] = x := rfl

theorem lowest_snoc (h : l ≠ []) (x : ℕ) : lowest (l ++ [x]) = min (lowest l) x := by
  cases l with
  | nil => exact absurd rfl h
  | cons y l => simp [lowest, List.foldl_append]

theorem lowest_le_highest (l : List ℕ) : lowest l ≤ highest l := by
  induction l using List.reverseRecOn with
  | nil => exact le_rfl
  | append_singleton l x ih =>
    rcases eq_or_ne l [] with rfl | h
    · simp [highest]
    · rw [lowest_snoc h, highest_snoc]
      omega

theorem mem_extent (h : x ∈ l) : lowest l ≤ x ∧ x ≤ highest l := by
  induction l using List.reverseRecOn with
  | nil => cases h
  | append_singleton l y ih =>
    rcases eq_or_ne l [] with rfl | hne
    · obtain rfl : x = y := by simpa using h
      simp [highest]
    · rw [lowest_snoc hne, highest_snoc]
      rcases List.mem_append.mp h with hx | hx
      · have hextent := ih hx
        omega
      · obtain rfl := List.mem_singleton.mp hx
        omega

theorem highest_mem (h : l ≠ []) : highest l ∈ l := by
  induction l using List.reverseRecOn with
  | nil => exact absurd rfl h
  | append_singleton l x ih =>
    rw [highest_snoc]
    rcases eq_or_ne l [] with rfl | hne
    · simp [highest]
    · rcases Nat.le_total (highest l) x with hle | hle
      · simp [Nat.max_eq_right hle]
      · rw [Nat.max_eq_left hle]
        exact List.mem_append_left _ (ih hne)

/-- What the extent holds more than the list is missing, up to repetitions. -/
theorem extent_add_repeated (l : List ℕ) :
    highest l - lowest l + 1 + repeated l = missing l + l.length := by
  have hsubset : l.toFinset ⊆ Finset.Icc (lowest l) (highest l) := by
    intro x hx
    exact Finset.mem_Icc.mpr (mem_extent (List.mem_toFinset.mp hx))
  have hcard := Finset.card_sdiff_add_card_eq_card hsubset
  have hicc := Nat.card_Icc (lowest l) (highest l)
  have hlow := lowest_le_highest l
  have hlength := List.toFinset_card_le l
  simp only [missing, repeated]
  omega

theorem repeated_of_nodup (h : l.Nodup) : repeated l = 0 := by
  rw [repeated, List.toFinset_card_of_nodup h, Nat.sub_self]

/-! A gap-free list. -/

theorem highest_range' (start count : ℕ) : highest (List.range' start (count + 1)) = start + count := by
  induction count with
  | zero => simp [highest]
  | succ count ih =>
    rw [List.range'_concat, highest_snoc, ih]
    omega

theorem lowest_range' (start count : ℕ) : lowest (List.range' start (count + 1)) = start := by
  induction count with
  | zero => simp
  | succ count ih =>
    rw [List.range'_concat, lowest_snoc (by simp), ih]
    omega

theorem missing_range' (start count : ℕ) : missing (List.range' start (count + 1)) = 0 := by
  have h := extent_add_repeated (List.range' start (count + 1))
  rw [highest_range', lowest_range', repeated_of_nodup List.nodup_range', List.length_range'] at h
  omega

end NumberExtent
