import Mathlib.Data.List.Induction

/-! Runs of a machine that may fault, all of whose steps meet a condition on the state
before them. -/

/-- The states reached from `init` by steps that all meet `ok` and do not fault. -/
inductive GuardedRun {σ κ ε : Type*} (step : σ → κ → Except ε σ) (ok : σ → κ → Prop) (init : σ) :
    List κ → σ → Prop where
  | nil : GuardedRun step ok init [] init
  | snoc {calls : List κ} {s s' : σ} {call : κ} (run : GuardedRun step ok init calls s)
      (hok : ok s call) (hstep : step s call = .ok s') : GuardedRun step ok init (calls ++ [call]) s'

namespace GuardedRun

variable {σ κ ε : Type*} {step : σ → κ → Except ε σ} {ok ok' : σ → κ → Prop} {init s : σ}
  {calls : List κ}

theorem invariant {I : σ → Prop} (hinit : I init)
    (hstep : ∀ s call s', I s → ok s call → step s call = .ok s' → I s')
    (run : GuardedRun step ok init calls s) : I s := by
  induction run with
  | nil => exact hinit
  | snoc _ hok hs ih => exact hstep _ _ _ ih hok hs

theorem imp (h : ∀ s call, ok s call → ok' s call) (run : GuardedRun step ok init calls s) :
    GuardedRun step ok' init calls s := by
  induction run with
  | nil => exact nil
  | snoc _ hok hs ih => exact ih.snoc (h _ _ hok) hs

theorem imp_of_invariant {I : σ → Prop} (hinit : I init)
    (hstep : ∀ s call s', I s → step s call = .ok s' → I s')
    (h : ∀ s call, I s → ok s call → ok' s call) (run : GuardedRun step ok init calls s) :
    GuardedRun step ok' init calls s := by
  induction run with
  | nil => exact nil
  | snoc run hok hs ih =>
    exact ih.snoc (h _ _ (run.invariant hinit fun s call s' hI _ => hstep s call s' hI) hok) hs

/-- Runs the calls as long as the condition is met. -/
def check (step : σ → κ → Except ε σ) (ok : σ → κ → Prop) [∀ s call, Decidable (ok s call)]
    (init : σ) (calls : List κ) : Option σ :=
  calls.foldlM (fun s call => if ok s call then (step s call).toOption else none) init

theorem of_check [∀ s call, Decidable (ok s call)] (h : check step ok init calls = some s) :
    GuardedRun step ok init calls s := by
  induction calls using List.reverseRecOn generalizing s with
  | nil =>
    cases h
    exact nil
  | append_singleton calls call ih =>
    rw [check, List.foldlM_append] at h
    obtain ⟨s', hs', h⟩ := Option.bind_eq_some_iff.mp h
    rw [List.foldlM_cons] at h
    obtain ⟨s'', hstep, h⟩ := Option.bind_eq_some_iff.mp h
    cases h
    by_cases hok : ok s' call
    · rw [if_pos hok] at hstep
      cases hres : step s' call with
      | error e => simp [hres, Except.toOption] at hstep
      | ok s₁ =>
        rw [hres] at hstep
        cases hstep
        exact (ih hs').snoc hok hres
    · rw [if_neg hok] at hstep
      cases hstep

end GuardedRun

/-- Every call meets the condition in the state that the calls before it leave. -/
def AllMeet {σ κ : Type*} (f : σ → κ → σ) (ok : σ → κ → Prop) : σ → List κ → Prop
  | _, [] => True
  | s, call :: calls => ok s call ∧ AllMeet f ok (f s call) calls

namespace AllMeet

variable {σ κ : Type*} {f : σ → κ → σ} {ok : σ → κ → Prop}

instance decidable [∀ s call, Decidable (ok s call)] :
    ∀ (s : σ) (calls : List κ), Decidable (AllMeet f ok s calls)
  | _, [] => .isTrue trivial
  | s, call :: calls =>
    haveI := decidable (f s call) calls
    inferInstanceAs (Decidable (ok s call ∧ AllMeet f ok (f s call) calls))

theorem invariant {I : σ → Prop} (hstep : ∀ s call, I s → ok s call → I (f s call)) {s : σ}
    {calls : List κ} (hI : I s) (h : AllMeet f ok s calls) : I (calls.foldl f s) := by
  induction calls generalizing s with
  | nil => exact hI
  | cons call calls ih => exact ih (hstep s call hI h.1) h.2

theorem imp {ok' : σ → κ → Prop} (h : ∀ s call, ok s call → ok' s call) {s : σ} {calls : List κ}
    (hmeet : AllMeet f ok s calls) : AllMeet f ok' s calls := by
  induction calls generalizing s with
  | nil => exact hmeet
  | cons call calls ih => exact ⟨h s call hmeet.1, ih hmeet.2⟩

theorem of_forall (h : ∀ s call, ok s call) {s : σ} {calls : List κ} : AllMeet f ok s calls := by
  induction calls generalizing s with
  | nil => trivial
  | cons call calls ih => exact ⟨h s call, ih⟩

/-- A property that a step keeps exactly when it meets the condition. -/
theorem foldl_iff {I P : σ → Prop} (hI : ∀ s call, I s → I (f s call))
    (hP : ∀ s call, I s → (P (f s call) ↔ P s ∧ ok s call)) {s : σ} (hs : I s) {calls : List κ} :
    P (calls.foldl f s) ↔ P s ∧ AllMeet f ok s calls := by
  induction calls generalizing s with
  | nil => simp [AllMeet]
  | cons call calls ih =>
    rw [List.foldl_cons, ih (hI s call hs), hP s call hs, AllMeet, and_assoc]

/-- A property that holds all the time exactly when every step that finds it meets the condition. -/
theorem forall_take_iff {I P : σ → Prop} (hI : ∀ s call, I s → I (f s call))
    (hP : ∀ s call, I s → P s → (P (f s call) ↔ ok s call)) {s : σ} (hs : I s) (hPs : P s)
    {calls : List κ} : (∀ k, P ((calls.take k).foldl f s)) ↔ AllMeet f ok s calls := by
  induction calls generalizing s with
  | nil => simpa [AllMeet] using hPs
  | cons call calls ih =>
    rw [AllMeet]
    constructor
    · intro hall
      have hstep : P (f s call) := hall 1
      exact ⟨(hP s call hs hPs).mp hstep, (ih (hI s call hs) hstep).mp fun k => hall (k + 1)⟩
    · rintro ⟨hok, hmeet⟩ k
      have hstep := (hP s call hs hPs).mpr hok
      cases k with
      | zero => exact hPs
      | succ k => exact (ih (hI s call hs) hstep).mpr hmeet k

/-- Two conditions that agree as long as they are met. -/
theorem congr {I : σ → Prop} {given ok' : σ → κ → Prop}
    (hstep : ∀ s call, I s → given s call → (ok s call ↔ ok' s call) ∧ (ok s call → I (f s call)))
    {s : σ} (hs : I s) {calls : List κ} (hgiven : AllMeet f given s calls) :
    AllMeet f ok s calls ↔ AllMeet f ok' s calls := by
  induction calls generalizing s with
  | nil => exact Iff.rfl
  | cons call calls ih =>
    obtain ⟨hiff, hnext⟩ := hstep s call hs hgiven.1
    rw [AllMeet, AllMeet, ← hiff]
    exact and_congr_right fun hok => ih (hnext hok) hgiven.2

end AllMeet
