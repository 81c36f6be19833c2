import Mathlib.Algebra.Order.Ring.Nat
import Mathlib.Data.Fintype.BigOperators
import Mathlib.Data.Nat.Init

/-! How many of finitely many threads stand at a place; and the unbroken stretches of one entry in a list,
and how many groups of a given size they hold. -/

namespace Tally

variable {ι α : Type*} {p : α → Bool} {f : ι → α}

/-- A thread that stands at a place came there or was there. -/
theorem of_update [DecidableEq ι] {i j : ι} {a : α} (h : p (Function.update f i a j) = true) :
    p a = true ∨ p (f j) = true := by
  by_cases hji : j = i
  · rw [hji, Function.update_self] at h
    exact Or.inl h
  · rw [Function.update_of_ne hji] at h
    exact Or.inr h

/-- A place stays taken, unless the thread that moves leaves it. -/
theorem exists_update [DecidableEq ι] {i : ι} {a : α} (h : ∃ j, p (f j) = true)
    (hi : p (f i) = true → p a = true) : ∃ j, p (Function.update f i a j) = true := by
  obtain ⟨j, hj⟩ := h
  refine ⟨j, ?_⟩
  by_cases hji : j = i
  · subst hji
    rw [Function.update_self]
    exact hi hj
  · rw [Function.update_of_ne hji]
    exact hj

variable [Fintype ι]

def tally (p : α → Bool) (f : ι → α) : Nat := ∑ i, (p (f i)).toNat

theorem tally_eq_zero : tally p f = 0 ↔ ∀ i, p (f i) = false := by
  simp [tally]

variable [DecidableEq ι]

/-- A thread that moves is taken from the one place and counted at the other. -/
theorem tally_update (i : ι) (a : α) :
    tally p (Function.update f i a) + (p (f i)).toNat = tally p f + (p a).toNat := by
  have hrest : ∑ j ∈ Finset.univ.erase i, (p (Function.update f i a j)).toNat =
      ∑ j ∈ Finset.univ.erase i, (p (f j)).toNat := by
    apply Finset.sum_congr rfl
    intro j hj
    rw [Function.update_of_ne (Finset.ne_of_mem_erase hj)]
  have hmove := Finset.add_sum_erase Finset.univ
    (fun j => (p (Function.update f i a j)).toNat) (Finset.mem_univ i)
  have hstay := Finset.add_sum_erase Finset.univ (fun j => (p (f j)).toNat) (Finset.mem_univ i)
  simp only [Function.update_self] at hmove
  simp only [tally]
  omega

theorem tally_update_of_eq {i : ι} {a : α} (h : p a = p (f i)) :
    tally p (Function.update f i a) = tally p f := by
  have hcount := tally_update (p := p) (f := f) i a
  rw [h] at hcount
  omega

end Tally

namespace Streaks

variable {α : Type*} [DecidableEq α] {a b : α} {size len : Nat} {l : List α}

/-- The length of the stretch of `a` at the end; `len` entries stand before the list. -/
def streakFrom (a : α) (len : Nat) (l : List α) : Nat :=
  l.foldl (fun n b => if b = a then n + 1 else 0) len

def streak (a : α) (l : List α) : Nat := streakFrom a 0 l

/-- The groups of `size` in the maximal stretches of `a`, the first of which goes on from `len`
entries. -/
def groupsFrom (size : Nat) (a : α) : Nat → List α → Nat
  | len, [] => len / size
  | len, b :: l => if b = a then groupsFrom size a (len + 1) l else len / size + groupsFrom size a 0 l

def groups (size : Nat) (a : α) (l : List α) : Nat := groupsFrom size a 0 l

theorem streakFrom_cons : streakFrom a len (b :: l) = streakFrom a (if b = a then len + 1 else 0) l := rfl

theorem groupsFrom_append_self : groupsFrom size a len (l ++ [a]) =
    groupsFrom size a len l + if size ∣ streakFrom a len l + 1 then 1 else 0 := by
  induction l generalizing len with
  | nil =>
    by_cases hd : size ∣ len + 1
    · simp [groupsFrom, streakFrom, hd, Nat.succ_div_of_dvd hd]
    · simp [groupsFrom, streakFrom, hd, Nat.succ_div_of_not_dvd hd]
  | cons b l ih =>
    rw [List.cons_append, groupsFrom, groupsFrom, streakFrom_cons]
    by_cases hb : b = a
    · rw [if_pos hb, if_pos hb, if_pos hb, ih]
    · rw [if_neg hb, if_neg hb, if_neg hb, ih, Nat.add_assoc]

theorem groupsFrom_append_ne (hb : b ≠ a) : groupsFrom size a len (l ++ [b]) = groupsFrom size a len l := by
  induction l generalizing len with
  | nil => simp [groupsFrom, hb]
  | cons c l ih => simp [groupsFrom, ih]

@[simp] theorem streak_nil : streak a [] = 0 := rfl

@[simp] theorem groups_nil : groups size a [] = 0 := Nat.zero_div size

@[simp] theorem streak_append_self : streak a (l ++ [a]) = streak a l + 1 := by
  simp [streak, streakFrom]

theorem streak_append_ne (hb : b ≠ a) : streak a (l ++ [b]) = 0 := by
  simp [streak, streakFrom, hb]

theorem groups_append_self :
    groups size a (l ++ [a]) = groups size a l + if size ∣ streak a l + 1 then 1 else 0 :=
  groupsFrom_append_self

theorem groups_append_ne (hb : b ≠ a) : groups size a (l ++ [b]) = groups size a l :=
  groupsFrom_append_ne hb

end Streaks
