import Mathlib.Computability.Language

/-! Threads that run programs of lock operations, one operation at a time in
any interleaving. A program is a word over the operations; the programs a
thread may run form a language. -/

namespace LockSystem

open Computability

inductive Mode where
  | shared
  | exclusive
  deriving DecidableEq, Repr

inductive Action (L : Type*) where
  | acquire (l : L) (m : Mode)
  | release (l : L)
  deriving DecidableEq, Repr

/-- The locks a thread holds, last one first, and what is left of its program. -/
structure Thread (L : Type*) where
  held : List (L × Mode)
  todo : List (Action L)
  deriving DecidableEq, Repr

def Thread.idle {L : Type*} : Thread L := ⟨[], []⟩

abbrev State (ι L : Type*) := ι → Thread L

variable {ι L : Type*}

def Thread.Holds (t : Thread L) (l : L) : Prop := ∃ m, (l, m) ∈ t.held

/-- Two holdings of one lock that exclude each other. -/
def Conflict (m m' : Mode) : Prop := m = .exclusive ∨ m' = .exclusive

def Grantable (s : State ι L) (l : L) (m : Mode) : Prop :=
  ∀ j m', (l, m') ∈ (s j).held → ¬ Conflict m m'

variable [DecidableEq ι]

/-- Thread `i` starts a program of the language or performs its next operation. -/
inductive Step (programs : Language (Action L)) (i : ι) (s : State ι L) : State ι L → Prop where
  | start {w : List (Action L)} : s i = .idle → w ∈ programs →
      Step programs i s (Function.update s i ⟨[], w⟩)
  | acquire {l : L} {m : Mode} {h : List (L × Mode)} {w : List (Action L)} :
      s i = ⟨h, .acquire l m :: w⟩ → Grantable s l m →
      Step programs i s (Function.update s i ⟨(l, m) :: h, w⟩)
  | release {l : L} {m : Mode} {h : List (L × Mode)} {w : List (Action L)} :
      s i = ⟨(l, m) :: h, .release l :: w⟩ →
      Step programs i s (Function.update s i ⟨h, w⟩)

/-- Thread `i` wants a lock that thread `j` holds in a way that excludes it. -/
def WaitsOn (s : State ι L) (i j : ι) (l : L) : Prop :=
  ∃ m m' w, (s i).todo = .acquire l m :: w ∧ (l, m') ∈ (s j).held ∧ Conflict m m'

/-- Some threads each wait for a lock that another of them holds. -/
def Deadlocked (s : State ι L) : Prop :=
  ∃ S : Set ι, S.Nonempty ∧ ∀ i ∈ S, ∃ j ∈ S, j ≠ i ∧ ∃ l, WaitsOn s i j l

omit [DecidableEq ι] in
/-- Whatever order the locks are given, a deadlock contains a thread that
holds one lock and waits for another that does not come after it. -/
theorem Deadlocked.exists_inversion {s : State ι L} (h : Deadlocked s) (rank : L → Nat)
    (bound : Nat) (hbound : ∀ l, rank l ≤ bound) :
    ∃ i j, i ≠ j ∧ ∃ l l', (s i).Holds l ∧ WaitsOn s i j l' ∧ rank l' ≤ rank l ∧
      ∃ k l'', WaitsOn s j k l'' := by
  obtain ⟨S, ⟨i₀, hi₀⟩, hS⟩ := h
  by_contra hno
  -- without an inversion the waits climb the order past every bound
  have climb : ∀ n, ∃ i ∈ S, ∃ j ∈ S, ∃ l, WaitsOn s i j l ∧ n ≤ rank l := by
    intro n
    induction n with
    | zero =>
      obtain ⟨j, hj, -, l, hw⟩ := hS i₀ hi₀
      exact ⟨i₀, hi₀, j, hj, l, hw, Nat.zero_le _⟩
    | succ n ih =>
      obtain ⟨i, -, j, hj, l, ⟨m, m', w, -, hheld, -⟩, hn⟩ := ih
      obtain ⟨k, hk, hkj, l', hw'⟩ := hS j hj
      obtain ⟨k', -, -, l'', hw''⟩ := hS k hk
      have hlt : rank l < rank l' := by
        by_contra hle
        exact hno ⟨j, k, hkj.symm, l, l', ⟨m', hheld⟩, hw', by omega, k', l'', hw''⟩
      exact ⟨j, hj, k, hk, l', hw', by omega⟩
  obtain ⟨i, -, j, -, l, -, hn⟩ := climb (bound + 1)
  have := hbound l
  omega

/-! A policy says which lock may be taken in which mode while which others are
held. Under it a program is well nested when locks are released in the
opposite order and none is left. -/

variable (permit : List (L × Mode) → L → Mode → Prop)

def WellNested : List (L × Mode) → List (Action L) → Prop
  | h, [] => h = []
  | h, .acquire l m :: w => permit h l m ∧ WellNested ((l, m) :: h) w
  | h, .release l :: w => ∃ m h', h = (l, m) :: h' ∧ WellNested h' w

/-- Holdings that were taken under the policy. -/
def Permitted : List (L × Mode) → Prop
  | [] => True
  | (l, m) :: h => permit h l m ∧ Permitted h

/-- Programs that, started while the locks of one of the given contexts are
held, leave these locks as they were. -/
def RunsIn (contexts : Set (List (L × Mode))) (A : Language (Action L)) : Prop :=
  ∀ w ∈ A, ∀ h ∈ contexts, ∀ v, WellNested permit h v → WellNested permit h (w ++ v)

/-- A scope that holds a lock while the programs of its body run. -/
def guarded (l : L) (m : Mode) (body : Language (Action L)) : Language (Action L) :=
  {[.acquire l m]} * body * {[.release l]}

omit [DecidableEq ι]

variable {permit} {contexts : Set (List (L × Mode))} {A B : Language (Action L)}

theorem mem_guarded {l : L} {m : Mode} {w : List (Action L)} :
    w ∈ guarded l m A ↔ ∃ u ∈ A, w = .acquire l m :: (u ++ [.release l]) := by
  constructor
  · intro hw
    obtain ⟨x, hx, y, hy, rfl⟩ := Language.mem_mul.mp hw
    obtain ⟨a, ha, u, hu, rfl⟩ := Language.mem_mul.mp hx
    obtain rfl : a = [.acquire l m] := ha
    obtain rfl : y = [.release l] := hy
    exact ⟨u, hu, by simp⟩
  · rintro ⟨u, hu, rfl⟩
    have h := Language.append_mem_mul (l := {[Action.acquire l m]}) rfl hu
    exact Language.append_mem_mul h rfl

theorem RunsIn.one : RunsIn permit contexts 1 := by
  intro w hw h _ v hv
  obtain rfl := (Language.mem_one w).mp hw
  exact hv

theorem RunsIn.add (hA : RunsIn permit contexts A) (hB : RunsIn permit contexts B) :
    RunsIn permit contexts (A + B) := by
  intro w hw
  rcases (Language.mem_add A B w).mp hw with hw | hw
  · exact hA w hw
  · exact hB w hw

theorem RunsIn.mul (hA : RunsIn permit contexts A) (hB : RunsIn permit contexts B) :
    RunsIn permit contexts (A * B) := by
  intro w hw h hh v hv
  obtain ⟨a, ha, b, hb, rfl⟩ := Language.mem_mul.mp hw
  rw [List.append_assoc]
  exact hA a ha h hh _ (hB b hb h hh v hv)

theorem RunsIn.kstar (hA : RunsIn permit contexts A) : RunsIn permit contexts A∗ := by
  intro w hw h hh v hv
  obtain ⟨ws, rfl, hws⟩ := Language.mem_kstar.mp hw
  clear hw
  induction ws with
  | nil => exact hv
  | cons a ws ih =>
    rw [List.flatten_cons, List.append_assoc]
    exact hA a (hws a (by simp)) h hh _ (ih fun b hb => hws b (by simp [hb]))

theorem RunsIn.guarded {l : L} {m : Mode} (hp : ∀ h ∈ contexts, permit h l m)
    (hA : RunsIn permit {h | ∃ t ∈ contexts, h = (l, m) :: t} A) :
    RunsIn permit contexts (guarded l m A) := by
  intro w hw h hh v hv
  obtain ⟨u, hu, rfl⟩ := mem_guarded.mp hw
  have hin : WellNested permit ((l, m) :: h) (u ++ (.release l :: v)) :=
    hA u hu _ ⟨h, hh, rfl⟩ _ ⟨m, h, rfl, hv⟩
  refine ⟨hp h hh, ?_⟩
  simpa using hin

theorem RunsIn.mono {contexts' : Set (List (L × Mode))} (h : contexts' ⊆ contexts)
    (hA : RunsIn permit contexts A) : RunsIn permit contexts' A :=
  fun w hw t ht => hA w hw t (h ht)

theorem RunsIn.wellNested (hA : RunsIn permit {[]} A) {w : List (Action L)} (hw : w ∈ A) :
    WellNested permit [] w := by
  simpa using hA w hw [] rfl [] rfl

variable (permit) in
/-- Every thread took its locks under the policy and follows it to its end, and
no lock has two holders that exclude each other. -/
structure Sound (s : State ι L) : Prop where
  permitted : ∀ i, Permitted permit (s i).held
  wellNested : ∀ i, WellNested permit (s i).held (s i).todo
  compatible : ∀ i j l m m', i ≠ j → (l, m) ∈ (s i).held → (l, m') ∈ (s j).held → ¬ Conflict m m'

theorem Sound.idle : Sound permit (fun _ : ι => (Thread.idle : Thread L)) where
  permitted _ := trivial
  wellNested _ := rfl
  compatible i j l m m' _ h := by simp [Thread.idle] at h

theorem Conflict.symm {m m' : Mode} (h : Conflict m m') : Conflict m' m := Or.symm h

variable [DecidableEq ι]

theorem Sound.update {s : State ι L} (hs : Sound permit s) {i : ι} {t : Thread L}
    (hp : Permitted permit t.held) (hw : WellNested permit t.held t.todo)
    (hc : ∀ l m, (l, m) ∈ t.held → ∀ j m', j ≠ i → (l, m') ∈ (s j).held → ¬ Conflict m m') :
    Sound permit (Function.update s i t) where
  permitted j := by
    by_cases hj : j = i
    · subst hj; simpa using hp
    · simpa [hj] using hs.permitted j
  wellNested j := by
    by_cases hj : j = i
    · subst hj; simpa using hw
    · simpa [hj] using hs.wellNested j
  compatible j k l m m' hjk hj hk := by
    by_cases hji : j = i
    · subst hji
      have hkj : k ≠ j := fun h => hjk h.symm
      simp only [Function.update_self] at hj
      simp only [Function.update_of_ne hkj] at hk
      exact hc l m hj k m' hkj hk
    · simp only [Function.update_of_ne hji] at hj
      by_cases hki : k = i
      · subst hki
        simp only [Function.update_self] at hk
        exact fun h => hc l m' hk j m hji hj h.symm
      · simp only [Function.update_of_ne hki] at hk
        exact hs.compatible j k l m m' hjk hj hk

theorem Sound.step {programs : Language (Action L)} (hprog : RunsIn permit {[]} programs)
    {s s' : State ι L} {i : ι} (hs : Sound permit s) (h : Step programs i s s') :
    Sound permit s' := by
  cases h with
  | start hi hw =>
    exact hs.update trivial (hprog.wellNested hw) (by simp)
  | @acquire l m h w hi hg =>
    have hwn := hs.wellNested i
    rw [hi] at hwn
    refine hs.update ⟨hwn.1, by simpa [hi] using hs.permitted i⟩ hwn.2 ?_
    intro l' m₁ hmem j m' hj hheld
    rcases List.mem_cons.mp hmem with he | hmem
    · obtain ⟨rfl, rfl⟩ := Prod.mk.inj he
      exact hg j m' hheld
    · exact hs.compatible i j l' m₁ m' (Ne.symm hj) (by simpa [hi] using hmem) hheld
  | @release l m h w hi =>
    have hwn := hs.wellNested i
    have hp := hs.permitted i
    rw [hi] at hwn hp
    obtain ⟨m₁, h', he, hwn⟩ := hwn
    obtain ⟨-, rfl⟩ := List.cons.inj he
    refine hs.update hp.2 hwn ?_
    intro l' m₂ hmem j m' hj hheld
    exact hs.compatible i j l' m₂ m' (Ne.symm hj) (by simp [hi, hmem]) hheld

end LockSystem
