import Mathlib.Logic.Function.Basic
import Mathlib.Logic.Relation

/-! Threads that run programs of operations on mutexes, condition variables and the flags that the
variables stand for, one operation at a time in any interleaving. A thread that waits holds the mutex
that guards the flag; whether one does that sets it is up to its program. -/

namespace ConditionVariables

/-- `wait c` is the loop that waits at `c` until its flag is set. -/
inductive Action (μ κ : Type*) where
  | lock (m : μ)
  | unlock (m : μ)
  | wait (c : κ)
  | set (c : κ)
  | reset (c : κ)
  | notifyOne (c : κ)
  | notifyAll (c : κ)
  deriving DecidableEq, Repr

/-- Within `wait`, the flag has been found clear, the thread sleeps, or it has been woken. -/
inductive Phase where
  | running
  | tested
  | blocked
  | woken
  deriving DecidableEq, Repr

structure Thread (μ κ : Type*) where
  todo : List (Action μ κ)
  phase : Phase := .running
  deriving DecidableEq

def Thread.idle {μ κ : Type*} : Thread μ κ := ⟨[], .running⟩

structure State (τ μ κ : Type*) where
  flags : κ → Bool := fun _ => false
  owner : μ → Option τ := fun _ => none
  threads : τ → Thread μ κ := fun _ => .idle

variable {τ μ κ : Type*} [DecidableEq τ] [DecidableEq μ] [DecidableEq κ]

namespace State

variable (s : State τ μ κ)

def move (i : τ) (t : Thread μ κ) : State τ μ κ :=
  { s with threads := Function.update s.threads i t }

def give (m : μ) (i : Option τ) : State τ μ κ := { s with owner := Function.update s.owner m i }

def put (c : κ) (b : Bool) : State τ μ κ := { s with flags := Function.update s.flags c b }

def wake (c : κ) : State τ μ κ :=
  { s with threads := fun j => if (s.threads j).todo.head? = some (.wait c) ∧
      (s.threads j).phase = .blocked then { s.threads j with phase := .woken } else s.threads j }

def BlockedAt (c : κ) (i : τ) : Prop := ∃ w, s.threads i = ⟨.wait c :: w, .blocked⟩

def TestedAt (c : κ) (i : τ) : Prop := ∃ w, s.threads i = ⟨.wait c :: w, .tested⟩

end State

/-- Thread `i` begins a program or performs its next operation. A wake-up may be spurious. -/
inductive Step (guard : κ → μ) (programs : τ → Set (List (Action μ κ))) (i : τ) (s : State τ μ κ) :
    State τ μ κ → Prop where
  | call {w} : s.threads i = .idle → w ∈ programs i → Step guard programs i s (s.move i ⟨w, .running⟩)
  | lock {m w} : s.threads i = ⟨.lock m :: w, .running⟩ → s.owner m = none →
      Step guard programs i s ((s.give m (some i)).move i ⟨w, .running⟩)
  | unlock {m w} : s.threads i = ⟨.unlock m :: w, .running⟩ → s.owner m = some i →
      Step guard programs i s ((s.give m none).move i ⟨w, .running⟩)
  | pass {c w} : s.threads i = ⟨.wait c :: w, .running⟩ → s.flags c = true →
      Step guard programs i s (s.move i ⟨w, .running⟩)
  | test {c w} : s.threads i = ⟨.wait c :: w, .running⟩ → s.flags c = false →
      Step guard programs i s (s.move i ⟨.wait c :: w, .tested⟩)
  | block {c w} : s.threads i = ⟨.wait c :: w, .tested⟩ →
      Step guard programs i s ((s.give (guard c) none).move i ⟨.wait c :: w, .blocked⟩)
  | wake {c w} : s.threads i = ⟨.wait c :: w, .blocked⟩ →
      Step guard programs i s (s.move i ⟨.wait c :: w, .woken⟩)
  | relock {c w} : s.threads i = ⟨.wait c :: w, .woken⟩ → s.owner (guard c) = none →
      Step guard programs i s ((s.give (guard c) (some i)).move i ⟨.wait c :: w, .running⟩)
  | set {c w} : s.threads i = ⟨.set c :: w, .running⟩ →
      Step guard programs i s ((s.put c true).move i ⟨w, .running⟩)
  | reset {c w} : s.threads i = ⟨.reset c :: w, .running⟩ →
      Step guard programs i s ((s.put c false).move i ⟨w, .running⟩)
  | notifyOne {c w j v} : s.threads i = ⟨.notifyOne c :: w, .running⟩ →
      s.threads j = ⟨.wait c :: v, .blocked⟩ →
      Step guard programs i s ((s.move j ⟨.wait c :: v, .woken⟩).move i ⟨w, .running⟩)
  | notifyNone {c w} : s.threads i = ⟨.notifyOne c :: w, .running⟩ → (∀ j, ¬ s.BlockedAt c j) →
      Step guard programs i s (s.move i ⟨w, .running⟩)
  | notifyAll {c w} : s.threads i = ⟨.notifyAll c :: w, .running⟩ →
      Step guard programs i s ((s.wake c).move i ⟨w, .running⟩)

/-- The program notifies `c` before it waits itself. -/
def Announces (c : κ) : List (Action μ κ) → Prop
  | [] => False
  | .wait _ :: _ => False
  | .notifyOne c' :: w => c' = c ∨ Announces c w
  | .notifyAll c' :: w => c' = c ∨ Announces c w
  | _ :: w => Announces c w

/-- What the program sets, it notifies. -/
def WellAnnounced : List (Action μ κ) → Prop
  | [] => True
  | .set c :: w => Announces c w ∧ WellAnnounced w
  | _ :: w => WellAnnounced w

/-- The flag is set, nobody is about to notify, and a thread sleeps. -/
def SleepsThrough (s : State τ μ κ) (c : κ) : Prop :=
  s.flags c = true ∧ (∀ i, ¬ Announces c (s.threads i).todo) ∧ ∃ i, s.BlockedAt c i

/-- With the next operation of `i`, which is before `w`, the last notification of a set flag is given. -/
def LastNotice (s : State τ μ κ) (i : τ) (c : κ) (w : List (Action μ κ)) : Prop :=
  s.flags c = true ∧ ¬ Announces c w ∧ ∀ j ≠ i, ¬ Announces c (s.threads j).todo

/-- The last notification is not given while a thread is between its test and its sleep, nor to one
thread where several sleep. -/
structure Heard (s : State τ μ κ) (i : τ) : Prop where
  one : ∀ c w, s.threads i = ⟨.notifyOne c :: w, .running⟩ → LastNotice s i c w →
    (∀ j, ¬ s.TestedAt c j) ∧ ∀ j k, s.BlockedAt c j → s.BlockedAt c k → j = k
  all : ∀ c w, s.threads i = ⟨.notifyAll c :: w, .running⟩ → LastNotice s i c w →
    ∀ j, ¬ s.TestedAt c j

/-- The states reached by steps of threads that meet a condition. -/
def Reaches (guard : κ → μ) (programs : τ → Set (List (Action μ κ))) (ok : State τ μ κ → τ → Prop) :
    State τ μ κ → State τ μ κ → Prop :=
  Relation.ReflTransGen fun s s' => ∃ i, ok s i ∧ Step guard programs i s s'

/-- A set flag is still to be notified, or nobody has missed it. -/
structure Sound (s : State τ μ κ) : Prop where
  wellAnnounced : ∀ i, WellAnnounced (s.threads i).todo
  heard : ∀ c, s.flags c = true → (∃ i, Announces c (s.threads i).todo) ∨
    ∀ i, ¬ s.TestedAt c i ∧ ¬ s.BlockedAt c i

variable {guard : κ → μ} {programs : τ → Set (List (Action μ κ))} {s s' : State τ μ κ} {i : τ} {c : κ}

/-! What a step does to the thread that takes it, and to the others. -/

omit [DecidableEq τ] [DecidableEq μ] [DecidableEq κ] in
theorem State.TestedAt.of_eq {j : τ} (h : s'.TestedAt c j) (heq : s'.threads j = s.threads j) :
    s.TestedAt c j := by
  obtain ⟨w, hw⟩ := h
  exact ⟨w, heq.symm.trans hw⟩

omit [DecidableEq τ] [DecidableEq μ] [DecidableEq κ] in
theorem State.BlockedAt.of_eq {j : τ} (h : s'.BlockedAt c j) (heq : s'.threads j = s.threads j) :
    s.BlockedAt c j := by
  obtain ⟨w, hw⟩ := h
  exact ⟨w, heq.symm.trans hw⟩

omit [DecidableEq μ] [DecidableEq κ] in
/-- A thread that does not give a notification, and goes to sleep only where the flag is clear. -/
theorem Sound.move (hs : Sound s) {t : Thread μ κ}
    (hthreads : s'.threads = Function.update s.threads i t) (hwell : WellAnnounced t.todo)
    (hheard : ∀ c, s'.flags c = true → Announces c t.todo ∨ s.flags c = true ∧
      (Announces c (s.threads i).todo → Announces c t.todo) ∧
      ∀ w, t = ⟨.wait c :: w, .tested⟩ ∨ t = ⟨.wait c :: w, .blocked⟩ → s.TestedAt c i) : Sound s' := by
  have hself : s'.threads i = t := by rw [hthreads, Function.update_self]
  have hother {j : τ} (hj : j ≠ i) : s'.threads j = s.threads j := by
    rw [hthreads, Function.update_of_ne hj]
  refine ⟨fun j => ?_, fun c hc => ?_⟩
  · by_cases hj : j = i
    · rw [hj, hself]
      exact hwell
    · rw [hother hj]
      exact hs.wellAnnounced j
  · rcases hheard c hc with hann | ⟨hc', hann, hwait⟩
    · exact .inl ⟨i, hself.symm ▸ hann⟩
    rcases hs.heard c hc' with ⟨j, hj⟩ | hnone
    · by_cases hji : j = i
      · subst hji
        exact .inl ⟨j, hself.symm ▸ hann hj⟩
      · exact .inl ⟨j, (hother hji).symm ▸ hj⟩
    · refine .inr fun j => ⟨fun htested => ?_, fun hblocked => ?_⟩
      · by_cases hji : j = i
        · subst hji
          obtain ⟨w, hw⟩ := htested
          exact (hnone j).1 (hwait w (.inl (hself.symm.trans hw)))
        · exact (hnone j).1 (htested.of_eq (hother hji))
      · by_cases hji : j = i
        · subst hji
          obtain ⟨w, hw⟩ := hblocked
          exact (hnone j).1 (hwait w (.inr (hself.symm.trans hw)))
        · exact (hnone j).2 (hblocked.of_eq (hother hji))

omit [DecidableEq τ] [DecidableEq μ] [DecidableEq κ] in
theorem not_waiting_of_others {w : List (Action μ κ)} (hi : s.threads i = ⟨w, .running⟩)
    (hothers : ∀ j ≠ i, ¬ (s.TestedAt c j ∨ s.BlockedAt c j)) (j : τ) :
    ¬ s.TestedAt c j ∧ ¬ s.BlockedAt c j := by
  by_cases hj : j = i
  · subst hj
    refine ⟨fun ⟨v, hv⟩ => ?_, fun ⟨v, hv⟩ => ?_⟩ <;> rw [hi] at hv <;> cases hv
  · exact not_or.mp (hothers j hj)

omit [DecidableEq μ] [DecidableEq κ] in
/-- A notification that wakes some of the other threads. -/
theorem Sound.notify (hs : Sound s) {w : List (Action μ κ)}
    (hi : s.threads i = ⟨.notifyOne c :: w, .running⟩ ∨ s.threads i = ⟨.notifyAll c :: w, .running⟩)
    (hflags : s'.flags = s.flags) (hi' : s'.threads i = ⟨w, .running⟩)
    (hothers : ∀ j ≠ i, (s'.threads j).todo = (s.threads j).todo ∧
      (s'.threads j = s.threads j ∨ (s'.threads j).phase = .woken))
    (hlast : LastNotice s i c w → ∀ j, ¬ s'.TestedAt c j ∧ ¬ s'.BlockedAt c j) : Sound s' := by
  have hwell : WellAnnounced w := by
    have h := hs.wellAnnounced i
    rcases hi with hi | hi <;> rw [hi] at h <;> exact h
  have hann {c' : κ} (hne : c ≠ c') (h : Announces c' (s.threads i).todo) : Announces c' w := by
    rcases hi with hi | hi <;> rw [hi] at h <;> exact h.resolve_left hne
  have hwaits (c' : κ) (j : τ) (h : s'.TestedAt c' j ∨ s'.BlockedAt c' j) :
      s.TestedAt c' j ∨ s.BlockedAt c' j := by
    have hphase : (s'.threads j).phase ≠ .running ∧ (s'.threads j).phase ≠ .woken := by
      rcases h with ⟨v, hv⟩ | ⟨v, hv⟩ <;> rw [hv] <;> exact ⟨nofun, nofun⟩
    have hj : j ≠ i := by
      rintro rfl
      exact hphase.1 (by rw [hi'])
    rcases (hothers j hj).2 with heq | hwoken
    · exact h.imp (·.of_eq heq) (·.of_eq heq)
    · exact absurd hwoken hphase.2
  refine ⟨fun j => ?_, fun c' hc' => ?_⟩
  · by_cases hj : j = i
    · rw [hj, hi']
      exact hwell
    · rw [(hothers j hj).1]
      exact hs.wellAnnounced j
  · rw [hflags] at hc'
    by_cases hother : ∃ j ≠ i, Announces c' (s.threads j).todo
    · obtain ⟨j, hj, hannounces⟩ := hother
      exact .inl ⟨j, (hothers j hj).1.symm ▸ hannounces⟩
    by_cases hw : Announces c' w
    · exact .inl ⟨i, by rw [hi']; exact hw⟩
    refine .inr ?_
    by_cases hne : c = c'
    · subst hne
      exact hlast ⟨hc', hw, fun j hj h => hother ⟨j, hj, h⟩⟩
    rcases hs.heard c' hc' with ⟨j, hj⟩ | hnone
    · by_cases hji : j = i
      · subst hji
        exact absurd (hann hne hj) hw
      · exact absurd ⟨j, hji, hj⟩ hother
    · intro j
      refine ⟨fun h => ?_, fun h => ?_⟩
      · exact (hwaits c' j (.inl h)).elim (hnone j).1 (hnone j).2
      · exact (hwaits c' j (.inr h)).elim (hnone j).1 (hnone j).2

omit [DecidableEq μ] [DecidableEq κ] in
/-- An operation after which the thread neither waits nor has more flags set. -/
theorem Sound.run (hs : Sound s) {todo w : List (Action μ κ)} {phase : Phase}
    (hi : s.threads i = ⟨todo, phase⟩) (hthreads : s'.threads = Function.update s.threads i ⟨w, .running⟩)
    (hwell : WellAnnounced todo → WellAnnounced w) (hann : ∀ c, Announces c todo → Announces c w)
    (hflags : ∀ c, s'.flags c = true → s.flags c = true) : Sound s' := by
  have hwellTodo := hs.wellAnnounced i
  rw [hi] at hwellTodo
  refine hs.move hthreads (hwell hwellTodo) fun c hc => .inr ⟨hflags c hc, ?_, ?_⟩
  · rw [hi]
    exact hann c
  · rintro v (h | h) <;> cases h

omit [DecidableEq μ] [DecidableEq κ] in
/-- A change within `wait`. -/
theorem Sound.wait (hs : Sound s) {w : List (Action μ κ)} {phase phase' : Phase}
    (hi : s.threads i = ⟨.wait c :: w, phase⟩) (hflags : s'.flags = s.flags)
    (hthreads : s'.threads = Function.update s.threads i ⟨.wait c :: w, phase'⟩)
    (hphase : s.flags c = true → phase' = .tested ∨ phase' = .blocked → phase = .tested) : Sound s' := by
  have hwell := hs.wellAnnounced i
  rw [hi] at hwell
  refine hs.move hthreads hwell fun c' hc' => .inr ⟨hflags ▸ hc', ?_, ?_⟩
  · rw [hi]
    exact id
  · rw [hflags] at hc'
    rintro v (h | h) <;> cases h
    · exact ⟨w, by rw [hi, hphase hc' (.inl rfl)]⟩
    · exact ⟨w, by rw [hi, hphase hc' (.inr rfl)]⟩

theorem Sound.step (hprograms : ∀ i, ∀ w ∈ programs i, WellAnnounced w) (hs : Sound s)
    (hheard : Heard s i) (h : Step guard programs i s s') : Sound s' := by
  cases h with
  | call hi hw => exact hs.run hi rfl (fun _ => hprograms i _ hw) (fun _ => False.elim) fun _ => id
  | lock hi _ => exact hs.run hi rfl id (fun _ => id) fun _ => id
  | unlock hi _ => exact hs.run hi rfl id (fun _ => id) fun _ => id
  | pass hi _ => exact hs.run hi rfl id (fun _ => False.elim) fun _ => id
  | relock hi _ => exact hs.run hi rfl id (fun _ => False.elim) fun _ => id
  | test hi hclear =>
    exact hs.wait hi rfl rfl fun hset => absurd (hclear.symm.trans hset) Bool.false_ne_true
  | block hi => exact hs.wait hi rfl rfl fun _ _ => rfl
  | wake hi =>
    refine hs.wait hi rfl rfl fun _ h => ?_
    rcases h with h | h <;> cases h
  | @set c w hi =>
    have hwell := hs.wellAnnounced i
    rw [hi] at hwell
    refine hs.move rfl hwell.2 fun c' hc' => ?_
    by_cases hne : c' = c
    · exact .inl (hne ▸ hwell.1)
    · refine .inr ⟨(Function.update_of_ne hne _ _).symm.trans hc', ?_, ?_⟩
      · rw [hi]
        exact id
      · rintro v (h | h) <;> cases h
  | @reset c w hi =>
    refine hs.run hi rfl id (fun _ => id) fun c' hc' => ?_
    by_cases hne : c' = c
    · subst hne
      exact absurd ((Function.update_self ..).symm.trans hc') Bool.false_ne_true
    · exact (Function.update_of_ne hne _ _).symm.trans hc'
  | @notifyOne c w j v hi hj =>
    have hthread (k : τ) (hk : k ≠ i) : ((s.move j ⟨.wait c :: v, .woken⟩).move i ⟨w, .running⟩).threads k =
        Function.update s.threads j ⟨.wait c :: v, .woken⟩ k := Function.update_of_ne hk _ _
    refine hs.notify (.inl hi) rfl (Function.update_self ..) (fun k hk => ?_) fun hlast => ?_
    · rw [hthread k hk]
      by_cases hkj : k = j
      · subst hkj
        rw [Function.update_self, hj]
        exact ⟨rfl, .inr rfl⟩
      · rw [Function.update_of_ne hkj]
        exact ⟨rfl, .inl rfl⟩
    · obtain ⟨htested, hblocked⟩ := hheard.one c w hi hlast
      refine not_waiting_of_others (Function.update_self ..) fun k hk hwaits => ?_
      rw [State.TestedAt, State.BlockedAt, hthread k hk] at hwaits
      by_cases hkj : k = j
      · subst hkj
        rw [Function.update_self] at hwaits
        rcases hwaits with ⟨_, h⟩ | ⟨_, h⟩ <;> cases h
      · rw [Function.update_of_ne hkj] at hwaits
        rcases hwaits with h | h
        · exact htested k h
        · exact hkj (hblocked k j h ⟨v, hj⟩)
  | @notifyNone c w hi hnone =>
    have hthread (k : τ) (hk : k ≠ i) : (s.move i ⟨w, .running⟩).threads k = s.threads k :=
      Function.update_of_ne hk _ _
    refine hs.notify (.inl hi) rfl (Function.update_self ..) (fun k hk => ?_) fun hlast => ?_
    · rw [hthread k hk]
      exact ⟨rfl, .inl rfl⟩
    · refine not_waiting_of_others (Function.update_self ..) fun k hk hwaits => ?_
      rw [State.TestedAt, State.BlockedAt, hthread k hk] at hwaits
      rcases hwaits with h | h
      · exact (hheard.one c w hi hlast).1 k h
      · exact hnone k h
  | @notifyAll c w hi =>
    have hthread (k : τ) (hk : k ≠ i) : ((s.wake c).move i ⟨w, .running⟩).threads k = (s.wake c).threads k :=
      Function.update_of_ne hk _ _
    refine hs.notify (.inr hi) rfl (Function.update_self ..) (fun k hk => ?_) fun hlast => ?_
    · rw [hthread k hk, State.wake]
      dsimp only
      split
      · exact ⟨rfl, .inr rfl⟩
      · exact ⟨rfl, .inl rfl⟩
    · refine not_waiting_of_others (Function.update_self ..) fun k hk hwaits => ?_
      rw [State.TestedAt, State.BlockedAt, hthread k hk, State.wake] at hwaits
      dsimp only at hwaits
      split at hwaits
      · rcases hwaits with ⟨_, h⟩ | ⟨_, h⟩ <;> cases congrArg Thread.phase h
      · rename_i hawake
        rcases hwaits with h | ⟨v, hv⟩
        · exact hheard.all c w hi hlast k h
        · rw [hv] at hawake
          exact hawake ⟨rfl, rfl⟩

omit [DecidableEq τ] [DecidableEq μ] [DecidableEq κ] in
theorem sound_init : Sound ({} : State τ μ κ) where
  wellAnnounced _ := trivial
  heard _ h := absurd h Bool.false_ne_true

omit [DecidableEq τ] [DecidableEq μ] [DecidableEq κ] in
theorem Sound.not_sleepsThrough (hs : Sound s) : ¬ SleepsThrough s c := by
  rintro ⟨hset, hnone, i, hi⟩
  rcases hs.heard c hset with ⟨j, hj⟩ | hawake
  · exact hnone j hj
  · exact (hawake i).2 hi

/-- The run lemma for threads that notify what they set. -/
theorem Reaches.sound (hprograms : ∀ i, ∀ w ∈ programs i, WellAnnounced w)
    (h : Reaches guard programs Heard {} s) : Sound s := by
  induction h with
  | refl => exact sound_init
  | tail _ hstep ih =>
    obtain ⟨i, hheard, hstep⟩ := hstep
    exact ih.step hprograms hheard hstep

omit [DecidableEq τ] [DecidableEq μ] [DecidableEq κ] in
/-- A thread that is not about to notify. -/
theorem heard_of_quiet {t : Thread μ κ} (hi : s.threads i = t)
    (hquiet : ∀ c w, t ≠ ⟨.notifyOne c :: w, .running⟩ ∧ t ≠ ⟨.notifyAll c :: w, .running⟩) : Heard s i where
  one c w h := absurd (hi.symm.trans h) (hquiet c w).1
  all c w h := absurd (hi.symm.trans h) (hquiet c w).2

end ConditionVariables
