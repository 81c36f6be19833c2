import WifiDisplay.DispatcherLocks
import Mathlib.Data.Fin.VecNotation
import Mathlib.Tactic.FinCases

/-! Deadlocks between threads that use one `BufferDispatcher`. `AttachReceiver`
takes `bufferMutex_` under `notifyMutex_`, every other operation nests them the
other way round. -/

namespace WifiDisplay

open LockSystem

namespace DispatcherLocks

open DispatcherMutex

/-- Holds `notifyMutex_` and asks for `bufferMutex_`. -/
def Reversing (t : Thread DispatcherMutex) : Prop :=
  t.Holds notifyMutex ∧ ∃ m w, t.todo = .acquire bufferMutex m :: w

/-- Holds `bufferMutex_` and asks for `notifyMutex_`. -/
def Nesting (t : Thread DispatcherMutex) : Prop :=
  t.Holds bufferMutex ∧ ∃ m w, t.todo = .acquire notifyMutex m :: w

/-- The next operation of thread `i` does not open the section in which
`AttachReceiver` holds both locks while another thread is nesting them, and
does not open a nested section while another thread is in that one. -/
def Separated {ι : Type*} (s : State ι DispatcherMutex) (i : ι) : Prop :=
  (∀ m m' w, (s i).todo = .acquire notifyMutex m :: .acquire bufferMutex m' :: w →
    ∀ j, j ≠ i → ¬ Nesting (s j)) ∧
  (∀ m m' w, (s i).todo = .acquire bufferMutex m :: .acquire notifyMutex m' :: w →
    ∀ j, j ≠ i → ¬ Reversing (s j))

def lockRank : DispatcherMutex → Nat
  | bufferMutex => 0
  | notifyMutex => 1

theorem lockRank_le (l : DispatcherMutex) : lockRank l ≤ 1 := by cases l <;> decide

variable {ι : Type*}

theorem notify_exclusive {h : List (DispatcherMutex × Mode)} {m : Mode}
    (hp : Permitted policy h) (hm : (notifyMutex, m) ∈ h) : m = .exclusive := by
  induction h with
  | nil => simp at hm
  | cons p h ih =>
    obtain ⟨l, m'⟩ := p
    rcases List.mem_cons.mp hm with he | hm
    · obtain ⟨rfl, rfl⟩ := Prod.mk.inj he
      exact hp.1.2 (Or.inl rfl)
    · exact ih hp.2 hm

theorem not_holds_of_wait {t : Thread DispatcherMutex} {l : DispatcherMutex} {m : Mode}
    {w : List (Action DispatcherMutex)} (hw : WellNested policy t.held t.todo)
    (ht : t.todo = .acquire l m :: w) : ¬ t.Holds l := by
  rintro ⟨m', hm⟩
  rw [ht] at hw
  exact hw.1.1 _ hm rfl

theorem Reversing.exclusive {t : Thread DispatcherMutex} {m : Mode}
    {w : List (Action DispatcherMutex)} (hw : WellNested policy t.held t.todo)
    (hn : t.Holds notifyMutex) (ht : t.todo = .acquire bufferMutex m :: w) :
    m = .exclusive := by
  obtain ⟨m', hm⟩ := hn
  rw [ht] at hw
  exact hw.1.2 (Or.inr (List.ne_nil_of_mem hm))

/-- A thread in the reversed section and one in a nested section block each other. -/
theorem deadlocked_of_reversing_nesting {s : State ι DispatcherMutex} (hs : Sound policy s)
    {i j : ι} (hij : i ≠ j) (hi : Reversing (s i)) (hj : Nesting (s j)) : Deadlocked s := by
  obtain ⟨hiN, m, w, hiw⟩ := hi
  obtain ⟨⟨mj, hjB⟩, m', w', hjw⟩ := hj
  have hm : m = .exclusive := Reversing.exclusive (hs.wellNested i) hiN hiw
  obtain ⟨mi, hiN⟩ := hiN
  have hmi : mi = .exclusive := notify_exclusive (hs.permitted i) hiN
  refine ⟨{i, j}, ⟨i, by simp⟩, ?_⟩
  rintro k (rfl | hk)
  · exact ⟨j, by simp, hij.symm, bufferMutex, m, mj, w, hiw, hjB, Or.inl hm⟩
  · obtain rfl : k = j := hk
    exact ⟨i, by simp, hij, notifyMutex, m', mi, w', hjw, hiN, Or.inr hmi⟩

/-- Conversely a deadlock contains one thread of each kind. -/
theorem Deadlocked.exists_reversing_nesting {s : State ι DispatcherMutex}
    (hs : Sound policy s) (h : Deadlocked s) :
    ∃ i j, i ≠ j ∧ Reversing (s i) ∧ Nesting (s j) := by
  obtain ⟨i, j, hij, l, l', hl, hwait, hrank, k, l'', hwait'⟩ :=
    h.exists_inversion lockRank 1 lockRank_le
  obtain ⟨m, m', w, hiw, hj, -⟩ := hwait
  obtain ⟨m₁, m₁', w', hjw, -, -⟩ := hwait'
  have hne : l ≠ l' := fun he => not_holds_of_wait (hs.wellNested i) hiw (he ▸ hl)
  have hne' : l'' ≠ l' := by
    rintro rfl
    exact not_holds_of_wait (hs.wellNested j) hjw ⟨m', hj⟩
  refine ⟨i, j, hij, ?_⟩
  cases l <;> cases l' <;> cases l'' <;> simp_all [lockRank]
  exact ⟨⟨hl, m, w, hiw⟩, ⟨m', hj⟩, m₁, w', hjw⟩

/-- No thread is in the reversed section while another is in a nested one. -/
def Apart (s : State ι DispatcherMutex) : Prop :=
  ∀ i j, i ≠ j → Reversing (s i) → ¬ Nesting (s j)

variable [DecidableEq ι]

theorem Reversing.of_step {s s' : State ι DispatcherMutex} {i j : ι} (hs : Sound policy s)
    (h : Step operations i s s') (hr : Reversing (s' i)) (hij : i ≠ j) (hn : (s j).Holds bufferMutex) :
    ∃ m m' w, (s i).todo = .acquire notifyMutex m :: .acquire bufferMutex m' :: w := by
  obtain ⟨⟨mN, hN⟩, mB, w', hw'⟩ := hr
  have hwn := hs.wellNested i
  have hp := hs.permitted i
  cases h with
  | start hi hw => simp at hN
  | @acquire l m h w hi hg =>
    simp only [Function.update_self] at hN hw'
    cases l with
    | notifyMutex => exact ⟨m, mB, w', by rw [hi, hw']⟩
    | bufferMutex =>
      rw [hi, hw'] at hwn
      exact absurd rfl (hwn.2.1.1 _ List.mem_cons_self)
  | @release l m h w hi =>
    simp only [Function.update_self] at hN hw'
    rw [hi] at hp
    cases l with
    | notifyMutex => exact absurd rfl (hp.1.1 _ hN)
    | bufferMutex =>
      obtain ⟨mj, hj⟩ := hn
      have hm : m = .exclusive := hp.1.2 (Or.inr (List.ne_nil_of_mem hN))
      exact absurd (Or.inl hm) (hs.compatible i j _ m mj hij (by simp [hi]) hj)

theorem Nesting.of_step {s s' : State ι DispatcherMutex} {i j : ι} (hs : Sound policy s)
    (h : Step operations i s s') (hn : Nesting (s' i)) (hij : i ≠ j) (hr : (s j).Holds notifyMutex) :
    ∃ m m' w, (s i).todo = .acquire bufferMutex m :: .acquire notifyMutex m' :: w := by
  obtain ⟨⟨mB, hB⟩, mN, w', hw'⟩ := hn
  have hwn := hs.wellNested i
  have hp := hs.permitted i
  cases h with
  | start hi hw => simp at hB
  | @acquire l m h w hi hg =>
    simp only [Function.update_self] at hB hw'
    cases l with
    | bufferMutex => exact ⟨m, mN, w', by rw [hi, hw']⟩
    | notifyMutex =>
      rw [hi, hw'] at hwn
      exact absurd rfl (hwn.2.1.1 _ List.mem_cons_self)
  | @release l m h w hi =>
    simp only [Function.update_self] at hB hw'
    rw [hi] at hp
    cases l with
    | bufferMutex => exact absurd rfl (hp.1.1 _ hB)
    | notifyMutex =>
      obtain ⟨mj, hj⟩ := hr
      have hm : m = .exclusive := hp.1.2 (Or.inl rfl)
      exact absurd (Or.inl hm) (hs.compatible i j _ m mj hij (by simp [hi]) hj)

omit [DecidableEq ι] in
theorem Apart.idle : Apart (fun _ : ι => Thread.idle) := by
  intro i j _ hr
  obtain ⟨⟨m, hm⟩, -⟩ := hr
  simp [Thread.idle] at hm

theorem Step.other {s s' : State ι DispatcherMutex} {i j : ι}
    (h : Step operations i s s') (hj : j ≠ i) : s' j = s j := by
  cases h <;> simp [hj]

theorem Apart.step {s s' : State ι DispatcherMutex} {a : ι} (hs : Sound policy s)
    (hsep : Separated s a) (h : Step operations a s s') (ha : Apart s) : Apart s' := by
  intro i j hij hr hn
  by_cases hia : i = a
  · subst hia
    have hj := Step.other h hij.symm
    rw [hj] at hn
    obtain ⟨m, m', w, hw⟩ := Reversing.of_step hs h hr hij hn.1
    exact hsep.1 m m' w hw j hij.symm hn
  · rw [Step.other h hia] at hr
    by_cases hja : j = a
    · subst hja
      obtain ⟨m, m', w, hw⟩ := Nesting.of_step hs h hn (Ne.symm hia) hr.1
      exact hsep.2 m m' w hw i hia hr
    · rw [Step.other h hja] at hn
      exact ha i j hij hr hn

theorem Step.deadlocked {s s' : State ι DispatcherMutex} {a : ι} (hs : Sound policy s)
    (h : Step operations a s s') (hsep : ¬ Separated s a) : Deadlocked s' := by
  have hs' : Sound policy s' := hs.step runs_operations h
  simp only [Separated, not_and_or, not_forall, not_not] at hsep
  rcases hsep with ⟨m, m', w, hw, j, hj, hn⟩ | ⟨m, m', w, hw, j, hj, hr⟩
  · have hj' := Step.other h hj
    have hr : Reversing (s' a) := by
      cases h <;> simp_all [Reversing, Thread.Holds, Thread.idle]
    exact deadlocked_of_reversing_nesting hs' hj.symm hr (hj'.symm ▸ hn)
  · have hj' := Step.other h hj
    have hn : Nesting (s' a) := by
      cases h <;> simp_all [Nesting, Thread.Holds, Thread.idle]
    exact deadlocked_of_reversing_nesting hs' hj (hj'.symm ▸ hr) hn

/-- A run of any threads stays free of deadlocks exactly when each of its steps
keeps the two kinds of sections apart. -/
theorem deadlock_free_iff_separated (σ : Nat → State ι DispatcherMutex) (actor : Nat → ι)
    (n : Nat) (hidle : σ 0 = fun _ => .idle)
    (hstep : ∀ k < n, Step operations (actor k) (σ k) (σ (k + 1))) :
    (∀ k ≤ n, ¬ Deadlocked (σ k)) ↔ ∀ k < n, Separated (σ k) (actor k) := by
  have hsound : ∀ k ≤ n, Sound policy (σ k) := by
    intro k
    induction k with
    | zero => exact fun _ => hidle ▸ Sound.idle
    | succ k ih => exact fun hk => (ih (by omega)).step runs_operations (hstep k (by omega))
  constructor
  · intro hfree k hk
    by_contra hsep
    exact hfree (k + 1) hk (Step.deadlocked (hsound k (by omega)) (hstep k hk) hsep)
  · intro hsep
    have hapart : ∀ k ≤ n, Apart (σ k) := by
      intro k
      induction k with
      | zero => exact fun _ => hidle ▸ Apart.idle
      | succ k ih =>
        exact fun hk => (ih (by omega)).step (hsound k (by omega)) (hsep k hk) (hstep k hk)
    intro k hk hdead
    obtain ⟨i, j, hij, hr, hn⟩ := Deadlocked.exists_reversing_nesting (hsound k hk) hdead
    exact hapart k hk i j hij hr hn

/-! The first run that is not separated: one thread attaches a receiver while
another flushes the buffer. -/

def attachPath : List (Action DispatcherMutex) :=
  [.acquire notifyMutex .exclusive, .release notifyMutex,
    .acquire notifyMutex .exclusive, .acquire bufferMutex .exclusive,
    .release bufferMutex, .release notifyMutex]

def flushPath : List (Action DispatcherMutex) :=
  [.acquire bufferMutex .exclusive, .acquire notifyMutex .exclusive,
    .release notifyMutex, .release bufferMutex]

theorem mem_lockNotify : [.acquire notifyMutex .exclusive, .release notifyMutex] ∈ lockNotify 1 :=
  mem_guarded.mpr ⟨[], rfl, rfl⟩

theorem attachPath_mem_attachReceiver : attachPath ∈ attachReceiver := by
  have hbuffer : [.acquire bufferMutex .exclusive, .release bufferMutex] ∈ uniqueLockBuffer 1 :=
    mem_guarded.mpr ⟨[], rfl, rfl⟩
  have hbody : [.acquire bufferMutex .exclusive, .release bufferMutex] ∈
      (1 + uniqueLockBuffer 1 : Paths) := (Language.mem_add _ _ _).mpr (Or.inr hbuffer)
  have hsection : attachPath.drop 2 ∈ lockNotify (1 + uniqueLockBuffer 1) :=
    mem_guarded.mpr ⟨_, hbody, rfl⟩
  have hrest : attachPath.drop 2 ∈ (1 + lockNotify (1 + uniqueLockBuffer 1) : Paths) :=
    (Language.mem_add _ _ _).mpr (Or.inr hsection)
  exact (Language.mem_add _ _ _).mpr (Or.inr (Language.append_mem_mul mem_lockNotify hrest))

theorem attachPath_mem : attachPath ∈ operations :=
  Or.inl (Or.inl (Or.inl (Or.inl (Or.inl attachPath_mem_attachReceiver))))

theorem flushPath_mem : flushPath ∈ operations :=
  Or.inr (mem_guarded.mpr ⟨_, mem_lockNotify, rfl⟩)

/-- After each operation of the run: the attaching thread `0` has taken
`notifyMutex_` for the second time, then thread `1` takes `bufferMutex_`. -/
def attachFlushRun : Nat → State (Fin 2) DispatcherMutex
  | 0 => ![⟨[], []⟩, ⟨[], []⟩]
  | 1 => ![⟨[], attachPath⟩, ⟨[], []⟩]
  | 2 => ![⟨[(notifyMutex, .exclusive)], attachPath.drop 1⟩, ⟨[], []⟩]
  | 3 => ![⟨[], attachPath.drop 2⟩, ⟨[], []⟩]
  | 4 => ![⟨[(notifyMutex, .exclusive)], attachPath.drop 3⟩, ⟨[], []⟩]
  | 5 => ![⟨[(notifyMutex, .exclusive)], attachPath.drop 3⟩, ⟨[], flushPath⟩]
  | _ => ![⟨[(notifyMutex, .exclusive)], attachPath.drop 3⟩,
      ⟨[(bufferMutex, .exclusive)], flushPath.drop 1⟩]

def attachFlushActor : Nat → Fin 2
  | 0 | 1 | 2 | 3 => 0
  | _ => 1

theorem update_pair_zero (a b c : Thread DispatcherMutex) :
    Function.update ![a, b] 0 c = ![c, b] := by
  funext i; fin_cases i <;> rfl

theorem update_pair_one (a b c : Thread DispatcherMutex) :
    Function.update ![a, b] 1 c = ![a, c] := by
  funext i; fin_cases i <;> rfl

theorem step_left {a b c : Thread DispatcherMutex}
    (h : Step operations 0 ![a, b] (Function.update ![a, b] 0 c)) : Step operations 0 ![a, b] ![c, b] := by
  rwa [update_pair_zero] at h

theorem step_right {a b c : Thread DispatcherMutex}
    (h : Step operations 1 ![a, b] (Function.update ![a, b] 1 c)) : Step operations 1 ![a, b] ![a, c] := by
  rwa [update_pair_one] at h

theorem grantable_pair {a b : Thread DispatcherMutex} {l : DispatcherMutex} (m : Mode)
    (ha : ∀ m', (l, m') ∉ a.held) (hb : ∀ m', (l, m') ∉ b.held) : Grantable ![a, b] l m := by
  intro j m' h
  fin_cases j
  · exact absurd h (ha m')
  · exact absurd h (hb m')

theorem attachFlushRun_step (k : Nat) (hk : k < 6) :
    Step operations (attachFlushActor k) (attachFlushRun k) (attachFlushRun (k + 1)) := by
  match k, hk with
  | 0, _ => exact step_left (.start rfl attachPath_mem)
  | 1, _ => exact step_left (.acquire rfl (grantable_pair _ (by simp) (by simp)))
  | 2, _ => exact step_left (.release rfl)
  | 3, _ => exact step_left (.acquire rfl (grantable_pair _ (by simp) (by simp)))
  | 4, _ => exact step_right (.start rfl flushPath_mem)
  | 5, _ => exact step_right (.acquire rfl (grantable_pair _ (by simp) (by simp)))
  | k + 6, hk => omega

theorem attachReceiver_flushBuffer_deadlock :
    ¬ ∀ (σ : Nat → State (Fin 2) DispatcherMutex) (actor : Nat → Fin 2) (n : Nat),
      (σ 0 = fun _ => .idle) → (∀ k < n, Step operations (actor k) (σ k) (σ (k + 1))) →
      ∀ k ≤ n, ¬ Deadlocked (σ k) := by
  intro h
  have hidle : attachFlushRun 0 = fun _ => .idle := by
    funext i; fin_cases i <;> rfl
  have hfree := h attachFlushRun attachFlushActor 6 hidle attachFlushRun_step
  apply hfree 6 (by omega)
  refine ⟨Set.univ, ⟨0, trivial⟩, fun i _ => ?_⟩
  fin_cases i
  · exact ⟨1, trivial, by decide, bufferMutex, .exclusive, .exclusive, _, rfl,
      by simp [attachFlushRun], Or.inl rfl⟩
  · exact ⟨0, trivial, by decide, notifyMutex, .exclusive, .exclusive, _, rfl,
      by simp [attachFlushRun], Or.inl rfl⟩

/-- Thread `1` flushes while thread `0` has `notifyMutex_` alone, and the section with both locks comes
behind the flush. -/
def attachAroundFlushRun : Nat → State (Fin 2) DispatcherMutex
  | 0 => ![⟨[], []⟩, ⟨[], []⟩]
  | 1 => ![⟨[], attachPath⟩, ⟨[], []⟩]
  | 2 => ![⟨[], attachPath⟩, ⟨[], flushPath⟩]
  | 3 => ![⟨[(notifyMutex, .exclusive)], attachPath.drop 1⟩, ⟨[], flushPath⟩]
  | 4 => ![⟨[(notifyMutex, .exclusive)], attachPath.drop 1⟩,
      ⟨[(bufferMutex, .exclusive)], flushPath.drop 1⟩]
  | 5 => ![⟨[], attachPath.drop 2⟩, ⟨[(bufferMutex, .exclusive)], flushPath.drop 1⟩]
  | 6 => ![⟨[], attachPath.drop 2⟩,
      ⟨[(notifyMutex, .exclusive), (bufferMutex, .exclusive)], flushPath.drop 2⟩]
  | 7 => ![⟨[], attachPath.drop 2⟩, ⟨[(bufferMutex, .exclusive)], flushPath.drop 3⟩]
  | 8 => ![⟨[], attachPath.drop 2⟩, ⟨[], []⟩]
  | 9 => ![⟨[(notifyMutex, .exclusive)], attachPath.drop 3⟩, ⟨[], []⟩]
  | 10 => ![⟨[(bufferMutex, .exclusive), (notifyMutex, .exclusive)], attachPath.drop 4⟩, ⟨[], []⟩]
  | 11 => ![⟨[(notifyMutex, .exclusive)], attachPath.drop 5⟩, ⟨[], []⟩]
  | _ => ![⟨[], []⟩, ⟨[], []⟩]

def attachAroundFlushActor : Nat → Fin 2
  | 1 | 3 | 5 | 6 | 7 => 1
  | _ => 0

theorem attachAroundFlushRun_step (k : Nat) (hk : k < 12) : Step operations (attachAroundFlushActor k)
    (attachAroundFlushRun k) (attachAroundFlushRun (k + 1)) := by
  match k, hk with
  | 0, _ => exact step_left (.start rfl attachPath_mem)
  | 1, _ => exact step_right (.start rfl flushPath_mem)
  | 2, _ => exact step_left (.acquire rfl (grantable_pair _ (by simp) (by simp)))
  | 3, _ => exact step_right (.acquire rfl (grantable_pair _ (by simp) (by simp)))
  | 4, _ => exact step_left (.release rfl)
  | 5, _ => exact step_right (.acquire rfl (grantable_pair _ (by simp) (by simp)))
  | 6, _ => exact step_right (.release rfl)
  | 7, _ => exact step_right (.release rfl)
  | 8, _ => exact step_left (.acquire rfl (grantable_pair _ (by simp) (by simp)))
  | 9, _ => exact step_left (.acquire rfl (grantable_pair _ (by simp) (by simp)))
  | 10, _ => exact step_left (.release rfl)
  | 11, _ => exact step_left (.release rfl)
  | k + 12, hk => omega

theorem attachAroundFlushRun_separated (k : Nat) (hk : k < 12) :
    Separated (attachAroundFlushRun k) (attachAroundFlushActor k) := by
  match k, hk with
  | 0, _ | 1, _ | 2, _ | 3, _ | 4, _ | 5, _ | 6, _ | 7, _ | 8, _ | 9, _ | 10, _ | 11, _ =>
    simp [Separated, Nesting, Reversing, Thread.Holds, attachAroundFlushRun, attachAroundFlushActor,
      attachPath, flushPath]
  | k + 12, hk => omega

/-- Two threads that keep the sections apart come to the end of their programs. -/
theorem attachAroundFlushRun_free :
    attachAroundFlushRun 12 = (fun _ => .idle) ∧ ∀ k ≤ 12, ¬ Deadlocked (attachAroundFlushRun k) := by
  have hidle : attachAroundFlushRun 0 = fun _ => .idle := by
    funext i; fin_cases i <;> rfl
  exact ⟨hidle, (deadlock_free_iff_separated attachAroundFlushRun attachAroundFlushActor 12 hidle
    attachAroundFlushRun_step).mpr attachAroundFlushRun_separated⟩

end DispatcherLocks

end WifiDisplay
