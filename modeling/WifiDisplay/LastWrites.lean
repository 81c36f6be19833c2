import Mathlib.Data.List.AList
import Mathlib.Data.List.Induction

/-! Loops that put an entry into a map for each item of a list, or skip the item, or fail: what is found
under a key afterwards comes from the last item for it. -/

namespace LastWrites

variable {ι κ β ε σ : Type*}

/-- The last item of a list for a key. -/
def lastFor [DecidableEq κ] (key : ι → Option κ) (k : κ) (items : List ι) : Option ι :=
  items.reverse.find? fun i => key i = some k

section Last

variable [DecidableEq κ] {key : ι → Option κ} {k : κ} {items : List ι} {i : ι}

@[simp] theorem lastFor_nil : lastFor key k [] = none := rfl

theorem lastFor_concat_self (h : key i = some k) : lastFor key k (items ++ [i]) = some i := by
  simp [lastFor, h]

theorem lastFor_concat_of_ne (h : key i ≠ some k) :
    lastFor key k (items ++ [i]) = lastFor key k items := by
  simp [lastFor, h]

end Last

theorem map_ok_iff {α β : Type*} {x : Except ε α} {f : α → β} {b : β} :
    x.map f = .ok b ↔ ∃ a, x = .ok a ∧ f a = b := by
  cases x with
  | error e => exact ⟨nofun, fun ⟨_, h, _⟩ => nomatch h⟩
  | ok a => simp [Except.map]

/-- A loop over items whose steps may fail. -/
theorem foldlM_concat_ok {step : σ → ι → Except ε σ} {s r : σ} {items : List ι} {i : ι} :
    (items ++ [i]).foldlM step s = .ok r ↔ ∃ s', items.foldlM step s = .ok s' ∧ step s' i = .ok r := by
  rw [List.foldlM_append]
  cases items.foldlM step s with
  | error e => exact ⟨nofun, fun ⟨_, h, _⟩ => nomatch h⟩
  | ok s' =>
    show List.foldlM step s' [i] = .ok r ↔ _
    rw [List.foldlM_cons]
    cases hstep : step s' i with
    | error e =>
      refine ⟨nofun, ?_⟩
      rintro ⟨s'', h, hr⟩
      cases h
      rw [hstep] at hr
      exact hr
    | ok r' =>
      constructor
      · intro h
        cases h
        exact ⟨s', rfl, hstep⟩
      · rintro ⟨s'', h, hr⟩
        cases h
        rw [hstep] at hr
        cases hr
        rfl

/-- What every step keeps, the loop keeps. -/
theorem foldlM_keeps {step : σ → ι → Except ε σ} {I : σ → Prop} {items : List ι}
    (hstep : ∀ s r i, I s → step s i = .ok r → I r) {s r : σ} (hs : I s)
    (h : items.foldlM step s = .ok r) : I r := by
  induction items using List.reverseRecOn generalizing r with
  | nil =>
    cases h
    exact hs
  | append_singleton items i ih =>
    obtain ⟨s', hinit, hlast⟩ := foldlM_concat_ok.mp h
    exact hstep s' r i (ih hinit) hlast

/-- The loop fails at no item if no step does. -/
theorem foldlM_isOk {step : σ → ι → Except ε σ} {items : List ι}
    (hstep : ∀ i ∈ items, ∀ s, ∃ r, step s i = .ok r) (s : σ) : ∃ r, items.foldlM step s = .ok r := by
  induction items using List.reverseRecOn with
  | nil => exact ⟨s, rfl⟩
  | append_singleton items i ih =>
    obtain ⟨s', hinit⟩ := ih fun j hj => hstep j (List.mem_append_left _ hj)
    obtain ⟨r, hr⟩ := hstep i (by simp) s'
    exact ⟨r, foldlM_concat_ok.mpr ⟨s', hinit, hr⟩⟩

variable [DecidableEq κ]

/-- The entries of the items, one after the other. -/
def insertAll (entry : ι → Except ε (Option (κ × β))) (items : List ι) (m : AList fun _ : κ => β) :
    Except ε (AList fun _ : κ => β) :=
  items.foldlM (fun m i => (entry i).map fun e => (e.map fun e => m.insert e.1 e.2).getD m) m

variable {entry : ι → Except ε (Option (κ × β))} {items : List ι} {m r : AList fun _ : κ => β} {i : ι}

theorem insertAll_concat (h : insertAll entry (items ++ [i]) m = .ok r) :
    ∃ m' e, insertAll entry items m = .ok m' ∧ entry i = .ok e ∧
      r = (e.map fun e => m'.insert e.1 e.2).getD m' := by
  obtain ⟨m', hinit, hlast⟩ := foldlM_concat_ok.mp h
  obtain ⟨e, hentry, rfl⟩ := map_ok_iff.mp hlast
  exact ⟨m', e, hinit, hentry, rfl⟩

theorem insertAll_append (items' : List ι) :
    insertAll entry (items ++ items') m = (insertAll entry items m).bind (insertAll entry items') := by
  rw [insertAll, List.foldlM_append]
  rfl

variable {key : ι → Option κ} {k : κ}

/-- Under a key stands the entry of the last item for it. -/
theorem lookup_of_last (hkey : ∀ i e, entry i = .ok e → e.map Prod.fst = key i)
    (h : insertAll entry items m = .ok r) (hlast : lastFor key k items = some i) :
    ∃ b, entry i = .ok (some (k, b)) ∧ r.lookup k = some b := by
  induction items using List.reverseRecOn generalizing r with
  | nil => cases hlast
  | append_singleton items j ih =>
    obtain ⟨m', e, hinit, hentry, rfl⟩ := insertAll_concat h
    by_cases hj : key j = some k
    · rw [lastFor_concat_self hj] at hlast
      cases hlast
      have he := hkey i e hentry
      rw [hj] at he
      obtain ⟨⟨k', b⟩, rfl, rfl⟩ := Option.map_eq_some_iff.mp he
      exact ⟨b, hentry, AList.lookup_insert _⟩
    · rw [lastFor_concat_of_ne hj] at hlast
      obtain ⟨b, hb, hlookup⟩ := ih hinit hlast
      refine ⟨b, hb, ?_⟩
      cases e with
      | none => exact hlookup
      | some e =>
        have hne : k ≠ e.1 := by
          rintro rfl
          exact hj (hkey j (some e) hentry).symm
        rw [← hlookup]
        exact AList.lookup_insert_ne hne

/-- A key without an item keeps what it had. -/
theorem lookup_of_no_last (hkey : ∀ i e, entry i = .ok e → e.map Prod.fst = key i)
    (h : insertAll entry items m = .ok r) (hlast : lastFor key k items = none) :
    r.lookup k = m.lookup k := by
  induction items using List.reverseRecOn generalizing r with
  | nil =>
    cases h
    rfl
  | append_singleton items j ih =>
    obtain ⟨m', e, hinit, hentry, rfl⟩ := insertAll_concat h
    by_cases hj : key j = some k
    · rw [lastFor_concat_self hj] at hlast
      cases hlast
    · rw [lastFor_concat_of_ne hj] at hlast
      rw [← ih hinit hlast]
      cases e with
      | none => rfl
      | some e =>
        have hne : k ≠ e.1 := by
          rintro rfl
          exact hj (hkey j (some e) hentry).symm
        exact AList.lookup_insert_ne hne

end LastWrites
