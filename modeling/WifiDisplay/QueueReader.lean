import Mathlib.Data.List.Basic
import Mathlib.Data.List.Pairwise
import Mathlib.Data.List.Perm.Subperm
import Mathlib.Data.List.Sort

/-! Positions in a queue whose head leaves and that is joined at its end: those of the elements that satisfy
a predicate, and that of a reader, whose index moves to the back. What it has been handed lies behind the
index, and so does what it has passed. -/

namespace QueuePositions

variable {α : Type*} {p : α → Bool} {l : List α}

/-- What is left of a list of positions when the head leaves the queue. -/
def popped (ks : List Nat) : List Nat :=
  (if ks.head? = some 0 then ks.tail else ks).map (· - 1)

theorem findIdxs_tail (p : α → Bool) (l : List α) :
    (l.drop 1).findIdxs p = popped (l.findIdxs p) := by
  have hback (ks : List Nat) : (ks.map (· + 1)).map (· - 1) = ks := by
    rw [List.map_map]
    exact List.map_id ks
  cases l with
  | nil => simp [popped]
  | cons x l =>
    rw [List.findIdxs_cons, Nat.zero_add, List.findIdxs_start (s := 1)]
    by_cases hx : p x
    · rw [if_pos hx, popped, if_pos (by simp), List.tail_cons, hback]
      rfl
    · have hhead : (List.map (· + 1) (List.findIdxs p l)).head? ≠ some 0 := by
        cases List.findIdxs p l <;> simp
      simp only [hx, Bool.false_eq_true, if_false, popped, if_neg hhead, hback]
      rfl

theorem sorted_of_suffix {ks : List Nat} (h : ks <:+ l.findIdxs p) : ks.Pairwise (· < ·) :=
  List.Pairwise.sublist h.sublist List.pairwise_findIdxs

theorem lt_of_suffix {ks : List Nat} (h : ks <:+ l.findIdxs p) {k : Nat} (hk : k ∈ ks) :
    ∃ hlt : k < l.length, p l[k] :=
  List.mem_findIdxs_iff_exists_getElem_pos.mp (h.subset hk)

theorem eq_of_suffix_zero {ks : List Nat} (h : ks <:+ l.findIdxs p) (h0 : ks.head? = some 0) :
    ks = l.findIdxs p := by
  obtain ⟨front, hfront⟩ := h
  have hsorted : (front ++ ks).Pairwise (· < ·) := by rw [hfront]; exact List.pairwise_findIdxs
  cases front with
  | nil => exact hfront
  | cons k front =>
    have hlt := (List.pairwise_append.mp hsorted).2.2 k (by simp) 0 (List.mem_of_mem_head? h0)
    omega

theorem popped_suffix {ks : List Nat} (h : ks <:+ l.findIdxs p) :
    popped ks <:+ (l.drop 1).findIdxs p := by
  rw [findIdxs_tail]
  by_cases h0 : ks.head? = some 0
  · have heq := eq_of_suffix_zero h h0
    exact heq ▸ List.suffix_rfl
  · obtain ⟨front, hfront⟩ := h
    have hks : popped ks = ks.map (· - 1) := by rw [popped, if_neg h0]
    rw [hks, ← hfront, popped]
    apply List.IsSuffix.map
    by_cases hf : (front ++ ks).head? = some 0
    · cases front with
      | nil => exact absurd hf h0
      | cons k front =>
        rw [if_pos hf]
        exact List.suffix_append front ks
    · rw [if_neg hf]
      exact List.suffix_append _ _

theorem suffix_concat {ks : List Nat} {x : α} (h : ks <:+ l.findIdxs p) :
    (if p x then ks ++ [l.length] else ks) <:+ (l ++ [x]).findIdxs p := by
  obtain ⟨front, hfront⟩ := h
  rw [List.findIdxs_append, ← hfront]
  by_cases hx : p x
  · exact ⟨front, by simp [hx]⟩
  · exact ⟨front, by simp [hx]⟩

theorem getLast_suffix {ks : List Nat} {k : Nat} (h : ks.getLast? = some k) : [k] <:+ ks := by
  obtain ⟨front, hfront⟩ := List.getLast?_eq_some_iff.mp h
  exact ⟨front, hfront.symm⟩

/-- The position of the last element that satisfies the predicate. -/
def lastIdx (p : α → Bool) (l : List α) : Option Nat := (l.findIdxs p).getLast?

theorem lastIdx_concat (x : α) :
    lastIdx p (l ++ [x]) = if p x then some l.length else lastIdx p l := by
  by_cases hx : p x <;> simp [lastIdx, hx]

theorem lastIdx_eq_none : lastIdx p l = none ↔ ∀ x ∈ l, p x = false := by
  simp [lastIdx, List.findIdxs_eq_nil_iff]

theorem lastIdx_lt {i : Nat} (h : lastIdx p l = some i) : ∃ hlt : i < l.length, p l[i] :=
  List.mem_findIdxs_iff_exists_getElem_pos.mp (List.mem_of_getLast? h)

theorem le_lastIdx {i : Nat} (hi : i < l.length) (hp : p l[i]) :
    ∃ k, lastIdx p l = some k ∧ i ≤ k := by
  have hmem : i ∈ l.findIdxs p := List.mem_findIdxs_iff_exists_getElem_pos.mpr ⟨hi, hp⟩
  have hne : l.findIdxs p ≠ [] := List.ne_nil_of_mem hmem
  refine ⟨(l.findIdxs p).getLast hne, List.getLast?_eq_some_getLast hne, ?_⟩
  have hsorted : (l.findIdxs p).Pairwise (· < ·) := List.pairwise_findIdxs
  rw [← List.dropLast_append_getLast hne, List.pairwise_append] at hsorted
  rw [← List.dropLast_append_getLast hne, List.mem_append, List.mem_singleton] at hmem
  rcases hmem with hmem | hmem
  · exact Nat.le_of_lt (hsorted.2.2 i hmem _ (by simp))
  · exact Nat.le_of_eq hmem

theorem lastIdx_drop {n i : Nat} (h : lastIdx p l = some i) (hn : n ≤ i) :
    lastIdx p (l.drop n) = some (i - n) := by
  obtain ⟨hlt, hp⟩ := lastIdx_lt h
  have hlt' : i - n < (l.drop n).length := by rw [List.length_drop]; omega
  have hget : (l.drop n)[i - n] = l[i] := by simp [Nat.add_sub_cancel' hn]
  obtain ⟨k, hk, hle⟩ := le_lastIdx hlt' (by rw [hget]; exact hp)
  obtain ⟨hklt, hkp⟩ := lastIdx_lt hk
  rw [List.length_drop] at hklt
  have hnk : n + k < l.length := by omega
  obtain ⟨k', hk', hle'⟩ := le_lastIdx hnk (by simpa using hkp)
  have hik : k' = i := Option.some_inj.mp (hk'.symm.trans h)
  rw [hk]
  congr 1
  omega

theorem lastIdx_drop_none {n : Nat} (h : lastIdx p l = none) : lastIdx p (l.drop n) = none :=
  lastIdx_eq_none.mpr fun x hx => lastIdx_eq_none.mp h x (List.mem_of_mem_drop hx)

end QueuePositions

namespace QueueReader

variable {α : Type*} {seq : α → Nat} {wanted marked marked' : α → Prop} {handed : List Nat}
  {passed passed' : Nat → Prop} {items items' : List α} {i j k : Nat}

/-- What was handed out comes before the item at the index, or it is that item and is
marked; the wanted items before the index, from the first one handed out on, were passed. -/
structure Behind (seq : α → Nat) (wanted marked : α → Prop) (handed : List Nat)
    (passed : Nat → Prop) (items : List α) (i : Nat) : Prop where
  order : ∀ d, items[i]? = some d → ∀ q ∈ handed, q < seq d ∨ q = seq d ∧ marked d
  left : ∀ p < i, ∀ e, items[p]? = some e → wanted e → ∀ q ∈ handed, q ≤ seq e → passed (seq e)

theorem lt_of_increasing (hinc : (items.map seq).Pairwise (· < ·)) {d e : α} (hij : i < j)
    (hd : items[i]? = some d) (he : items[j]? = some e) : seq d < seq e := by
  have hpair := List.pairwise_iff_getElem.mp (List.pairwise_map.mp hinc)
  obtain ⟨hi, rfl⟩ := List.getElem?_eq_some_iff.mp hd
  obtain ⟨hj, rfl⟩ := List.getElem?_eq_some_iff.mp he
  exact hpair i j hi hj hij

namespace Behind

theorem of_nil : Behind seq wanted marked [] passed items i :=
  ⟨fun _ _ _ hq => absurd hq List.not_mem_nil, fun _ _ _ _ _ _ hq => absurd hq List.not_mem_nil⟩

theorem imp (h : Behind seq wanted marked handed passed items i)
    (hpassed : ∀ q, passed q → passed' q) : Behind seq wanted marked handed passed' items i :=
  ⟨h.order, fun p hp e he hw q hq hle => hpassed _ (h.left p hp e he hw q hq hle)⟩

/-- The items stay in their places, and no mark is taken off. -/
theorem change (h : Behind seq wanted marked handed passed items i)
    (hitems : ∀ (p : Nat) (e' : α), items'[p]? = some e' → ∃ e : α, items[p]? = some e ∧ seq e' = seq e ∧
      (wanted e' → wanted e) ∧ (marked e → marked' e')) :
    Behind seq wanted marked' handed passed items' i := by
  constructor
  · intro d' hd' q hq
    obtain ⟨d, hd, hseq, -, hmark⟩ := hitems i d' hd'
    rw [hseq]
    exact (h.order d hd q hq).imp_right fun heq => ⟨heq.1, hmark heq.2⟩
  · intro p hp e' he' hw q hq hle
    obtain ⟨e, he, hseq, hwanted, -⟩ := hitems p e' he'
    rw [hseq] at hle ⊢
    exact h.left p hp e he (hwanted hw) q hq hle

/-- Heads leave; the index stays at its item, or at the first one that is left. -/
theorem drop (h : Behind seq wanted marked handed passed items i)
    (hinc : (items.map seq).Pairwise (· < ·)) (k : Nat) :
    Behind seq wanted marked handed passed (items.drop k) (i - k) := by
  constructor
  · intro d hd q hq
    rw [List.getElem?_drop] at hd
    rcases Nat.lt_or_ge i k with hlt | hge
    · have hk : k + (i - k) = k := by omega
      rw [hk] at hd
      have hlen := (List.getElem?_eq_some_iff.mp hd).1
      have hold := List.getElem?_eq_getElem (Nat.lt_trans hlt hlen)
      have hnext := lt_of_increasing hinc hlt hold hd
      left
      rcases h.order _ hold q hq with hq | hq <;> omega
    · rw [Nat.add_sub_cancel' hge] at hd
      exact h.order d hd q hq
  · intro p hp e he hw q hq hle
    rw [List.getElem?_drop] at he
    exact h.left (k + p) (by omega) e he hw q hq hle

theorem append (h : Behind seq wanted marked handed passed items i) (hi : i ≤ items.length)
    {new : α} (hnew : ∀ q ∈ handed, q < seq new) :
    Behind seq wanted marked handed passed (items ++ [new]) i := by
  constructor
  · intro d hd q hq
    rcases Nat.lt_or_eq_of_le hi with hlt | rfl
    · rw [List.getElem?_append_left hlt] at hd
      exact h.order d hd q hq
    · rw [List.getElem?_append_right (Nat.le_refl _), Nat.sub_self] at hd
      cases hd
      exact Or.inl (hnew q hq)
  · intro p hp e he hw q hq hle
    rw [List.getElem?_append_left (Nat.lt_of_lt_of_le hp hi)] at he
    exact h.left p hp e he hw q hq hle

/-- The index moves on, over items that were passed. -/
theorem advance (h : Behind seq wanted marked handed passed items i)
    (hinc : (items.map seq).Pairwise (· < ·)) (hij : i ≤ j)
    (hover : ∀ p, i ≤ p → p < j → ∀ e, items[p]? = some e → wanted e → passed (seq e)) :
    Behind seq wanted marked handed passed items j := by
  constructor
  · intro d hd q hq
    rcases Nat.lt_or_eq_of_le hij with hlt | rfl
    · have hlen := (List.getElem?_eq_some_iff.mp hd).1
      have hold := List.getElem?_eq_getElem (Nat.lt_trans hlt hlen)
      have hnext := lt_of_increasing hinc hlt hold hd
      left
      rcases h.order _ hold q hq with hq | hq <;> omega
    · exact h.order d hd q hq
  · intro p hp e he hw q hq hle
    rcases Nat.lt_or_ge p i with hlt | hge
    · exact h.left p hlt e he hw q hq hle
    · exact hover p hge hp e he hw

/-- The item at the index is handed out and marked. -/
theorem hand (h : Behind seq wanted marked handed passed items i)
    (hinc : (items.map seq).Pairwise (· < ·)) {d : α} (hd : items[i]? = some d) (hmark : marked d) :
    Behind seq wanted marked (handed ++ [seq d]) passed items i := by
  constructor
  · intro d' hd' q hq
    cases hd.symm.trans hd'
    rcases List.mem_append.mp hq with hq | hq
    · exact h.order d hd q hq
    · exact Or.inr ⟨List.mem_singleton.mp hq, hmark⟩
  · intro p hp e he hw q hq hle
    rcases List.mem_append.mp hq with hq | hq
    · exact h.left p hp e he hw q hq hle
    · have hbefore := lt_of_increasing hinc hp he hd
      rw [List.mem_singleton.mp hq] at hle
      omega

/-- A reader starts at a new item, and none that it wants stands before it. -/
theorem start {new : α} (hnone : ∀ e ∈ items, ¬ wanted e) (hnew : ∀ q ∈ handed, q < seq new) :
    Behind seq wanted marked handed passed (items ++ [new]) items.length := by
  constructor
  · intro d hd q hq
    rw [List.getElem?_append_right (Nat.le_refl _), Nat.sub_self] at hd
    cases hd
    exact Or.inl (hnew q hq)
  · intro p hp e he hw q hq hle
    rw [List.getElem?_append_left hp] at he
    exact absurd hw (hnone e (List.mem_of_getElem? he))

/-- What is handed out next comes after all that was handed out. -/
theorem handed_lt (h : Behind seq wanted marked handed passed items i) {d : α}
    (hd : items[i]? = some d) (hmark : ¬ marked d) : ∀ q ∈ handed, q < seq d :=
  fun q hq => (h.order d hd q hq).resolve_right fun heq => hmark heq.2

/-- A wanted item that was not passed is still to come. -/
theorem ahead (h : Behind seq wanted marked handed passed items i)
    (hinc : (items.map seq).Pairwise (· < ·)) {p q : Nat} {e : α} (he : items[p]? = some e)
    (hw : wanted e) (hmark : ¬ marked e) (hq : q ∈ handed) (hle : q ≤ seq e)
    (hno : ¬ passed (seq e)) : i ≤ p ∧ ∀ q ∈ handed, q < seq e := by
  have hip : i ≤ p := by
    by_contra hlt
    exact hno (h.left p (Nat.not_le.mp hlt) e he hw q hq hle)
  refine ⟨hip, fun q hq => ?_⟩
  rcases Nat.lt_or_eq_of_le hip with hlt | rfl
  · have hlen := (List.getElem?_eq_some_iff.mp he).1
    have hold := List.getElem?_eq_getElem (Nat.lt_trans hlt hlen)
    have hnext := lt_of_increasing hinc hlt hold he
    rcases h.order _ hold q hq with hq | hq <;> omega
  · exact h.handed_lt he hmark q hq

end Behind

/-- An increasing list whose elements all occur in another one is a subsequence of it. -/
theorem sublist_of_increasing (seq : α → Nat) {l l' : List α} (hl : (l.map seq).Pairwise (· < ·))
    (hl' : (l'.map seq).Pairwise (· < ·)) (hsub : l ⊆ l') : l.Sublist l' := by
  have hl := List.pairwise_map.mp hl
  have hl' := List.pairwise_map.mp hl'
  have hnodup : l.Nodup := by
    apply hl.imp
    rintro a _ hlt rfl
    exact Nat.lt_irrefl _ hlt
  have : Std.Antisymm fun a b : α => seq a < seq b :=
    ⟨fun a b hab hba => absurd hab (Nat.lt_asymm hba)⟩
  exact List.sublist_of_subperm_of_pairwise (hnodup.subperm hsub) hl hl'

end QueueReader
