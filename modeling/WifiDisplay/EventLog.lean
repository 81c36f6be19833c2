import Mathlib.Data.List.Chain
import Mathlib.Data.List.Infix

/-! Logs of events, and what each event needs to find in the log before it. -/

namespace EventLog

variable {ε : Type*}

/-- Every event meets its condition on the log before it. -/
def Guarded (P : List ε → ε → Prop) (log : List ε) : Prop :=
  ∀ n, ∀ h : n < log.length, P (log.take n) log[n]

instance (P : List ε → ε → Prop) [∀ l e, Decidable (P l e)] (log : List ε) :
    Decidable (Guarded P log) := inferInstanceAs (Decidable (∀ n, ∀ _ : n < log.length, _))

variable {P : List ε → ε → Prop} {log : List ε}

theorem guarded_nil : Guarded P [] := fun _ h => absurd h (Nat.not_lt_zero _)

theorem guarded_snoc {e : ε} : Guarded P (log ++ [e]) ↔ Guarded P log ∧ P log e := by
  constructor
  · intro h
    constructor
    · intro n hn
      have hlt : n < (log ++ [e]).length := by simp; omega
      have hP := h n hlt
      rwa [List.take_append_of_le_length (by omega), List.getElem_append_left hn] at hP
    · have hP := h log.length (by simp)
      simpa using hP
  · rintro ⟨hlog, he⟩ n hn
    by_cases hlt : n < log.length
    · rw [List.take_append_of_le_length (by omega), List.getElem_append_left hlt]
      exact hlog n hlt
    · have heq : n = log.length := by
        rw [List.length_append, List.length_singleton] at hn
        omega
      subst heq
      simpa using he

theorem Guarded.append {new : List ε} (h : Guarded P log) (hnew : ∀ e ∈ new, ∀ l, P l e) :
    Guarded P (log ++ new) := by
  induction new using List.reverseRecOn with
  | nil => rwa [List.append_nil]
  | append_singleton new e ih =>
    rw [← List.append_assoc, guarded_snoc]
    exact ⟨ih fun e' he' => hnew e' (List.mem_append_left _ he'),
      hnew e (List.mem_append_right _ (List.mem_singleton_self e)) _⟩

/-- Events that need no more than what the log holds already. -/
theorem Guarded.append_behind {new : List ε} (h : Guarded P log) (hnew : ∀ e ∈ new, ∀ l, P (log ++ l) e) :
    Guarded P (log ++ new) := by
  induction new using List.reverseRecOn with
  | nil => rwa [List.append_nil]
  | append_singleton new e ih =>
    rw [← List.append_assoc, guarded_snoc]
    exact ⟨ih fun e' he' => hnew e' (List.mem_append_left _ he'),
      hnew e (List.mem_append_right _ (List.mem_singleton_self e)) new⟩

theorem Guarded.prefix {later : List ε} (h : Guarded P (log ++ later)) : Guarded P log := by
  induction later using List.reverseRecOn with
  | nil => simpa using h
  | append_singleton later e ih =>
    rw [← List.append_assoc, guarded_snoc] at h
    exact ih h.1

/-- What an event of the log found before it. -/
theorem Guarded.before (h : Guarded P log) {l l' : List ε} {e : ε} (hlog : log = l ++ e :: l') :
    P l e := by
  have hP := h l.length (by simp [hlog])
  simpa [hlog] using hP

theorem sublist_snoc {stones : List ε} (h : stones.Sublist log) (e : ε) :
    (stones ++ [e]).Sublist (log ++ [e]) := h.append (List.Sublist.refl [e])

theorem sublist_later {stones : List ε} (h : stones.Sublist log) (e : ε) :
    stones.Sublist (log ++ [e]) := h.trans (List.sublist_append_left log [e])

/-- Where each stone needs the one before it, all before it lie behind one another in the log. -/
theorem Guarded.chain {stones : List ε} {R : ε → ε → Prop} (hstones : stones.IsChain R)
    (hR : ∀ s t l, R s t → P l t → s ∈ l) (h : Guarded P log) {k : ℕ} (hk : k < stones.length)
    (hmem : stones[k] ∈ log) : (stones.take (k + 1)).Sublist log := by
  induction log using List.reverseRecOn generalizing k with
  | nil => exact absurd hmem List.not_mem_nil
  | append_singleton log e ih =>
    obtain ⟨hlog, he⟩ := guarded_snoc.mp h
    rcases List.mem_append.mp hmem with hbefore | hlast
    · exact sublist_later (ih hlog hk hbefore) e
    · have hlast := List.mem_singleton.mp hlast
      rw [List.take_succ_eq_append_getElem hk, hlast]
      apply sublist_snoc
      cases k with
      | zero => exact List.nil_sublist _
      | succ k =>
        rw [← hlast] at he
        have hnext : R stones[k] stones[k + 1] := List.isChain_iff_getElem.mp hstones k (by omega)
        exact ih hlog (by omega) (hR _ _ _ hnext he)

end EventLog
