import Mathlib.Data.List.Basic
import Mathlib.Data.List.Flatten

/-! Lists of values of a fixed width, and their change of byte order. -/

namespace ByteOrder

variable {α : Type*} {width : Nat} {l l' : List α}

/-- Every value is turned around as a whole. An incomplete one at the end is left out. -/
def reverseChunks (width : Nat) (l : List α) : List α :=
  (List.range (l.length / width)).flatMap fun k => ((l.drop (k * width)).take width).reverse

@[simp] theorem reverseChunks_nil : reverseChunks width ([] : List α) = [] := by
  rw [reverseChunks, List.length_nil, Nat.zero_div]
  rfl

theorem reverseChunks_append (h : width ∣ l.length) :
    reverseChunks width (l ++ l') = reverseChunks width l ++ reverseChunks width l' := by
  obtain ⟨n, hn⟩ := h
  rcases Nat.eq_zero_or_pos width with rfl | hwidth
  · simp [reverseChunks]
  have hchunks : (l ++ l').length / width = n + l'.length / width := by
    rw [List.length_append, hn, Nat.mul_add_div hwidth]
  have hfirst : l.length / width = n := by rw [hn, Nat.mul_div_cancel_left n hwidth]
  rw [reverseChunks, hchunks, List.range_add, List.flatMap_append, List.flatMap_map, reverseChunks, hfirst]
  congr 1
  · -- a chunk of the first list ends within it
    refine List.flatMap_congr fun k hk => ?_
    have hle : k * width + width ≤ l.length := by
      rw [hn, ← Nat.succ_mul, Nat.mul_comm width]
      exact Nat.mul_le_mul_right width (List.mem_range.mp hk)
    rw [List.drop_append_of_le_length (by omega), List.take_append_of_le_length (by rw [List.length_drop]; omega)]
  · refine List.flatMap_congr fun k _ => ?_
    have hdrop : (l ++ l').drop ((n + k) * width) = l'.drop (k * width) := by
      rw [Nat.add_mul, Nat.mul_comm n, ← hn, List.drop_append]
      simp
    rw [hdrop]

theorem reverseChunks_self (h : l.length = width) : reverseChunks width l = l.reverse := by
  subst h
  cases l with
  | nil => simp
  | cons a l =>
    rw [reverseChunks, Nat.div_self (by simp)]
    simp

theorem length_reverseChunks (h : width ∣ l.length) : (reverseChunks width l).length = l.length := by
  obtain ⟨n, hn⟩ := h
  induction n generalizing l with
  | zero =>
    obtain rfl := List.length_eq_zero_iff.mp hn
    simp
  | succ n ih =>
    have htake : (l.take width).length = width := by rw [List.length_take, hn, Nat.mul_succ]; omega
    have hdrop : (l.drop width).length = width * n := by rw [List.length_drop, hn, Nat.mul_succ]; omega
    rw [← List.take_append_drop width l, reverseChunks_append ⟨1, by rw [htake, Nat.mul_one]⟩,
      reverseChunks_self htake, List.length_append, ih hdrop, List.length_reverse, List.length_append]

end ByteOrder
