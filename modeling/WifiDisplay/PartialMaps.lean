import Mathlib.Logic.Function.Basic

/-! Maps with entries at some keys, as functions and as lists: where an entry comes from after one of
them has been set, and what a lookup finds. -/

namespace PartialMap

variable {κ α : Type*} [DecidableEq κ] {f : κ → Option α} {k k' : κ} {a a' : α}

theorem eq_some_of_update {v : Option α} (h : Function.update f k v k' = some a) :
    k' = k ∧ v = some a ∨ k' ≠ k ∧ f k' = some a := by
  by_cases hk : k' = k
  · rw [hk, Function.update_self] at h
    exact Or.inl ⟨hk, h⟩
  · rw [Function.update_of_ne hk] at h
    exact Or.inr ⟨hk, h⟩

theorem eq_some_of_insert (h : Function.update f k (some a) k' = some a') :
    k' = k ∧ a' = a ∨ k' ≠ k ∧ f k' = some a' := by
  rcases eq_some_of_update h with ⟨hk, hv⟩ | hold
  · exact Or.inl ⟨hk, (Option.some.inj hv).symm⟩
  · exact Or.inr hold

theorem eq_some_of_erase (h : Function.update f k none k' = some a) : k' ≠ k ∧ f k' = some a := by
  rcases eq_some_of_update h with ⟨-, hv⟩ | hold
  · cases hv
  · exact hold

variable {l : List (κ × α)}

theorem mem_of_find? (h : (l.find? (·.1 = k)).map (·.2) = some a) : (k, a) ∈ l := by
  obtain ⟨⟨k', a'⟩, hfind, rfl⟩ := Option.map_eq_some_iff.mp h
  obtain rfl : k' = k := by simpa using List.find?_some hfind
  exact List.mem_of_find?_eq_some hfind

theorem find?_eq_none : (l.find? (·.1 = k)).map (·.2) = none ↔ k ∉ l.map (·.1) := by
  rw [Option.map_eq_none_iff, List.find?_eq_none]
  constructor
  · intro h hmem
    obtain ⟨entry, hentry, rfl⟩ := List.mem_map.mp hmem
    exact h entry hentry (by simp)
  · intro h entry hentry hk
    exact h (List.mem_map.mpr ⟨entry, hentry, by simpa using hk⟩)

end PartialMap
