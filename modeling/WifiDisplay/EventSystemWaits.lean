import WifiDisplay.EventSystem

/-! The waits of the event system, and what pays for each of them: a state in which every
wait is paid for is not stuck. -/

namespace WifiDisplay

namespace EventSystem

open Tally

namespace Worker

variable {E L : Type}

/-- Its handler waits for room, or for `mutex_` while the event thread waits for room with it. -/
def stays (roomWait : Bool) : Worker E L → Bool
  | .handler (.roomWait _) => true
  | .handler (.pushEvent _) => roomWait
  | _ => false

theorem stays_false {w : Worker E L} {roomWait : Bool} (h : w.stays roomWait = false) :
    w.stays false = false := by
  cases w with
  | handler c => cases c <;> simp_all [stays]
  | _ => rfl

end Worker

namespace EventManager

variable {n : Nat} {P E L : Type} {m m' : EventManager n P E L}

section Frames

variable (m) (c : Caller E L) (x : Client n P) (i : Fin n) (w : Worker E L)

/-- A caller is a worker only inside its handler. -/
theorem workers_of_caller {c₀ : Caller E L} (h : m.caller (.inl i) = some c₀) :
    m.workers i = .handler c₀ := by
  cases hw : m.workers i <;> simp_all [caller, Worker.caller]

@[simp] theorem isRunning_setWorker : (m.setWorker i w).isRunning = m.isRunning := rfl
@[simp] theorem events_setWorker : (m.setWorker i w).events = m.events := rfl
@[simp] theorem tasks_setWorker : (m.setWorker i w).tasks = m.tasks := rfl
@[simp] theorem eventThread_setWorker : (m.setWorker i w).eventThread = m.eventThread := rfl
@[simp] theorem stopper_setWorker : (m.setWorker i w).stopper = m.stopper := rfl
@[simp] theorem workers_setWorker : (m.setWorker i w).workers = Function.update m.workers i w := rfl

variable [DecidableEq P]

@[simp] theorem isRunning_setCaller : (m.setCaller c x).isRunning = m.isRunning := by cases x <;> rfl
@[simp] theorem events_setCaller : (m.setCaller c x).events = m.events := by cases x <;> rfl
@[simp] theorem tasks_setCaller : (m.setCaller c x).tasks = m.tasks := by cases x <;> rfl
@[simp] theorem eventThread_setCaller : (m.setCaller c x).eventThread = m.eventThread := by cases x <;> rfl
@[simp] theorem stopper_setCaller : (m.setCaller c x).stopper = m.stopper := by cases x <;> rfl

@[simp]
theorem caller_setWorker : (m.setWorker i w).caller = Function.update m.caller (.inl i) w.caller := by
  funext y
  cases y with
  | inl j =>
    by_cases hj : j = i
    · subst hj
      simp [caller]
    · simp [caller, hj]
  | inr p => simp [caller, setWorker]

@[simp]
theorem caller_setCaller : (m.setCaller c x).caller = Function.update m.caller x (some c) := by
  cases x with
  | inl i => exact caller_setWorker m i (.handler c)
  | inr p =>
    funext y
    cases y with
    | inl j => simp [caller, setCaller]
    | inr q =>
      by_cases hq : q = p
      · subst hq
        simp [caller, setCaller]
      · simp [caller, setCaller, hq]

theorem waitsRoom_setWorker {p : Pusher n P} (hw : Caller.atRoomWait w.caller = false)
    (h : (m.setWorker i w).waitsRoom p = true) : m.waitsRoom p = true := by
  cases p with
  | eventThread => exact h
  | client y =>
    by_cases hy : y = .inl i
    · subst hy
      simp [waitsRoom, hw] at h
    · simpa [waitsRoom, hy] using h

theorem waitsRoom_setCaller {p : Pusher n P} (h : (m.setCaller c x).waitsRoom p = true) :
    p = .client x ∧ Caller.atRoomWait (some c) = true ∨ m.waitsRoom p = true := by
  cases p with
  | eventThread => exact Or.inr (by simpa [waitsRoom] using h)
  | client y =>
    by_cases hy : y = x
    · subst hy
      exact Or.inl ⟨rfl, by simpa [waitsRoom] using h⟩
    · exact Or.inr (by simpa [waitsRoom, hy] using h)

theorem workers_setCaller (j : Fin n) :
    x = .inl j ∧ (m.setCaller c x).workers j = .handler c ∨
      x ≠ .inl j ∧ (m.setCaller c x).workers j = m.workers j := by
  cases x with
  | inl i =>
    by_cases hj : j = i
    · subst hj
      exact Or.inl ⟨rfl, by simp [setCaller]⟩
    · exact Or.inr ⟨by simpa using Ne.symm hj, by simp [setCaller, hj]⟩
  | inr p => exact Or.inr ⟨by simp, rfl⟩

end Frames

variable [Fintype P]

def tops (m : EventManager n P E L) : Nat := tally Worker.atTop m.workers

/-- How many threads are at `PushTask` and have not found it full. -/
def entering (m : EventManager n P E L) : Nat :=
  tally Caller.atPushTask m.caller + m.eventThread.atDispatch.toNat

/-- Waits and signals: a wait for an event finds no event, a wait for a task finds no more
tasks than workers that will take one, a wait for room finds the pool full but for the
threads that are about to fill it and the signals that are owed; one worker is not blocked. -/
structure Sound (m : EventManager n P E L) (owed : Nat) : Prop where
  eventWait : m.eventThread.atEventWait = true → m.events = [] ∧ m.isRunning = true
  body : m.eventThread.atBody = true → m.isRunning = true ∨ m.events ≠ []
  taskWait : ∀ i, (m.workers i).atTaskWait = true → m.isRunning = true ∧ m.tasks.length ≤ m.tops
  room : ∀ p, m.waitsRoom p = true → m.isRunning = true ∧ n ≤ m.tasks.length + m.entering + owed
  workerDone : ∀ i, (m.workers i).isDone = true → m.isRunning = false
  eventDone : m.eventThread.isDone = true → m.isRunning = false
  stopper : m.isRunning = true ↔ m.stopper = .notCalled
  free : m.isRunning = true → ∃ i, (m.workers i).stays m.eventThread.atRoomWait = false

/-- The step blocks no last worker; `Stop` leaves no wait behind, and no `PushTask` after it
finds the pool full. -/
def Unblocking (m : EventManager n P E L) : Act n P E → Prop
  | .call (.inl i) (.pushEvent _) => m.eventThread.atRoomWait = true →
      ∃ j, j ≠ i ∧ (m.workers j).stays true = false
  | .pushTask x _ => m.isOverload = true → m.isRunning = true ∧
      ∃ i, x ≠ .inl i ∧ (m.workers i).stays m.eventThread.atRoomWait = false
  | .dispatchTask _ => m.isOverload = true → m.isRunning = true ∧
      ∃ i, (m.workers i).stays true = false
  | .stop => m.eventThread.atEventWait = false ∧ (m.eventThread.atBody = true → m.events ≠ []) ∧
      m.roomFree
  | _ => True

omit [Fintype P] in
theorem exists_notifyTask (m : EventManager n P E L) : ∃ woken m', m.notifyTask woken = .ok m' := by
  by_cases h : ∃ i, (m.workers i).atTaskWait = true
  · obtain ⟨i, hi⟩ := h
    exact ⟨some i, _, by rw [notifyTask, if_pos hi]⟩
  · exact ⟨none, m, by rw [notifyTask, if_neg h]⟩

variable [DecidableEq P]

theorem exists_notifyRoom (m : EventManager n P E L) : ∃ woken m', m.notifyRoom woken = .ok m' := by
  by_cases h : ∃ p, m.waitsRoom p = true
  · obtain ⟨p, hp⟩ := h
    exact ⟨some p, _, by rw [notifyRoom, if_pos hp]⟩
  · have hfree : m.roomFree := by
      refine ⟨?_, fun x => ?_⟩
      · exact Bool.eq_false_iff.mpr fun hp => h ⟨_, hp⟩
      · exact Bool.eq_false_iff.mpr fun hp => h ⟨_, hp⟩
    exact ⟨none, m, by rw [notifyRoom, if_pos hfree]⟩

namespace Stuck

variable {listeners : E → List L}

theorem not_atTop (hm : m.Stuck listeners) (i : Fin n) : (m.workers i).atTop = false := by
  cases hw : m.workers i with
  | top =>
    cases hrun : m.isRunning with
    | false =>
      have hstep := hm.blocked (.taskMainWorker i none) not_false
      simp [step, taskMainWorker, hw, hrun] at hstep
    | true =>
      cases htasks : m.tasks with
      | nil =>
        have hstep := hm.blocked (.taskMainWorker i none) not_false
        simp [step, taskMainWorker, hw, hrun, htasks] at hstep
      | cons task tasks =>
        obtain ⟨woken, m', hok⟩ :=
          exists_notifyRoom ({ m with tasks }.setWorker i (.handler .outside))
        have hstep := hm.blocked (.taskMainWorker i woken) not_false
        simp only [step, taskMainWorker, hw, htasks, if_pos hrun, hok] at hstep
        cases hstep
  | _ => rfl

theorem eventThread (hm : m.Stuck listeners) :
    m.eventThread.atRoomWait = true ∨ m.eventThread.atEventWait = true ∨ m.eventThread.isDone = true := by
  have hprocess := hm.blocked .processEvent not_false
  cases he : m.eventThread with
  | start => simp [step, processEvent, he] at hprocess
  | loop => simp [step, processEvent, he] at hprocess
  | body => cases hevents : m.events <;> simp [step, processEvent, he, hevents] at hprocess
  | dispatch task rest =>
    by_cases hfull : m.isOverload = true
    · have hstep := hm.blocked (.dispatchTask none) not_false
      simp [step, dispatchTask, he, hfull] at hstep
    · obtain ⟨woken, m', hok⟩ := exists_notifyTask
        { m with eventThread := .next rest, tasks := m.tasks ++ [task] }
      have hstep := hm.blocked (.dispatchTask woken) not_false
      simp [step, dispatchTask, emplaceTask, he, hfull, hok] at hstep
  | roomWait task rest => exact Or.inl rfl
  | eventWait => exact Or.inr (Or.inl rfl)
  | done => exact Or.inr (Or.inr rfl)

/-- A caller inside waits for room, or for the mutex of the event thread. -/
theorem caller (hm : m.Stuck listeners) {x : Client n P} {c : Caller E L} (hx : m.caller x = some c) :
    c = .outside ∨ Caller.atRoomWait (some c) = true ∨
      (∃ event, c = .pushEvent event) ∧ m.eventThread.atRoomWait = true := by
  cases c with
  | outside => exact Or.inl rfl
  | roomWait task => exact Or.inr (Or.inl rfl)
  | pushEvent event =>
    have hstep := hm.blocked (.pushEvent x) not_false
    have hevent := hm.eventThread
    cases he : m.eventThread <;>
      simp_all [step, EventThread.holdsMutex, EventThread.atRoomWait, EventThread.atEventWait,
        EventThread.isDone]
  | pushTask task =>
    by_cases hfull : m.isOverload = true
    · have hstep := hm.blocked (.pushTask x none) not_false
      simp [step, pushTask, hx, hfull] at hstep
    · obtain ⟨woken, m', hok⟩ := exists_notifyTask
        { m.setCaller .futureWait x with tasks := (m.setCaller .futureWait x).tasks ++ [task] }
      have hstep := hm.blocked (.pushTask x woken) not_false
      rw [step, pushTask, hx] at hstep
      simp only [hfull, emplaceTask, hok] at hstep
      cases hstep
  | futureWait =>
    have hstep := hm.blocked (.futureOver x) not_false
    simp [step, hx] at hstep

/-- Every worker waits for a task or is blocked in its handler. -/
theorem worker (hm : m.Stuck listeners) (i : Fin n) :
    (m.workers i).atTaskWait = true ∨ (m.workers i).isDone = true ∨
      (m.workers i).stays m.eventThread.atRoomWait = true := by
  cases hw : m.workers i with
  | top =>
    have htop := hm.not_atTop i
    rw [hw] at htop
    cases htop
  | taskWait => exact Or.inl rfl
  | done => exact Or.inr (Or.inl rfl)
  | handler c =>
    refine Or.inr (Or.inr ?_)
    have hx : m.caller (.inl i) = some c := by simp [EventManager.caller, hw, Worker.caller]
    rcases hm.caller hx with rfl | hroom | ⟨⟨event, rfl⟩, hevent⟩
    · have hstep := hm.blocked (.handlerReturn i) not_false
      simp [step, hw] at hstep
    · cases c <;> simp_all [Caller.atRoomWait, Worker.stays]
    · exact hevent

end Stuck

omit [DecidableEq P] in
theorem Sound.not_waitsRoom (hm : m.Sound 0) (hrun : m.isRunning = false) (p : Pusher n P) :
    m.waitsRoom p = false := by
  apply Bool.eq_false_iff.mpr
  intro hp
  rw [(hm.room p hp).1] at hrun
  cases hrun

/-- A running system that is stuck would have no task, no room waiter and no event. -/
theorem Sound.not_pending {listeners : E → List L} (hm : m.Sound 0) (hstuck : m.Stuck listeners)
    (hrun : m.isRunning = true) : ¬ m.Pending := by
  obtain ⟨i, hi⟩ := hm.free hrun
  have hwait : (m.workers i).atTaskWait = true := by
    rcases hstuck.worker i with hwait | hdone | hstays
    · exact hwait
    · rw [hm.workerDone i hdone] at hrun
      cases hrun
    · rw [hi] at hstays
      cases hstays
  have htops : m.tops = 0 := tally_eq_zero.mpr hstuck.not_atTop
  have htasks : m.tasks.length = 0 := by
    have hle := (hm.taskWait i hwait).2
    omega
  have hentering : m.entering = 0 := by
    have hclients : tally Caller.atPushTask m.caller = 0 := by
      apply tally_eq_zero.mpr
      intro x
      cases hx : m.caller x with
      | none => rfl
      | some c =>
        rcases hstuck.caller hx with rfl | hroom | ⟨⟨event, rfl⟩, -⟩
        · rfl
        · cases c <;> simp_all [Caller.atRoomWait, Caller.atPushTask]
        · rfl
    have hevent := hstuck.eventThread
    cases he : m.eventThread <;>
      simp_all [entering, EventThread.atDispatch, EventThread.atRoomWait, EventThread.atEventWait,
        EventThread.isDone]
  have hevents : m.events = [] := by
    rcases hstuck.eventThread with hroom | hevent | hdone
    · have hle := (hm.room .eventThread hroom).2
      have hpos := i.isLt
      omega
    · exact (hm.eventWait hevent).1
    · rw [hm.eventDone hdone] at hrun
      cases hrun
  have hstopper := hm.stopper.mp hrun
  simp [Pending, hevents, List.length_eq_zero_iff.mp htasks, hstopper]

/-- A system that was stopped comes to its end. -/
theorem Sound.finished {listeners : E → List L} (hm : m.Sound 0) (hstuck : m.Stuck listeners)
    (hrun : m.isRunning = false) : m.Finished := by
  have hroom := hm.not_waitsRoom hrun
  have hdone : m.eventThread.isDone = true := by
    rcases hstuck.eventThread with hwait | hwait | hdone
    · have := hroom .eventThread
      rw [waitsRoom, hwait] at this
      cases this
    · rw [(hm.eventWait hwait).2] at hrun
      cases hrun
    · exact hdone
  have hnotRoom : m.eventThread.atRoomWait = false := hroom .eventThread
  have houtside : ∀ x c, m.caller x = some c → c = .outside := by
    intro x c hx
    rcases hstuck.caller hx with rfl | hwait | ⟨-, hwait⟩
    · rfl
    · have := hroom (.client x)
      rw [waitsRoom, hx, hwait] at this
      cases this
    · rw [hnotRoom] at hwait
      cases hwait
  have hworkers : ∀ i, (m.workers i).isDone = true := by
    intro i
    rcases hstuck.worker i with hwait | hdone | hstays
    · rw [(hm.taskWait i hwait).1] at hrun
      cases hrun
    · exact hdone
    · cases hw : m.workers i with
      | handler c =>
        obtain rfl := houtside (.inl i) c (by simp [caller, hw, Worker.caller])
        rw [hw] at hstays
        cases hstays
      | _ => simp_all [Worker.stays]
  refine ⟨hworkers, hdone, fun p => houtside (.inr p) _ rfl, ?_⟩
  have hjoin := hstuck.blocked .join not_false
  cases hstop : m.stopper with
  | notCalled => exact Or.inl rfl
  | returned => exact Or.inr rfl
  | joinWorkers => simp [step, join, hstop, hworkers] at hjoin
  | joinEventThread => simp [step, join, hstop, hdone] at hjoin

theorem Sound.not_stuck {listeners : E → List L} (hm : m.Sound 0) : ¬ m.Stuck listeners := by
  intro hstuck
  cases hrun : m.isRunning with
  | true => exact hm.not_pending hstuck hrun hstuck.pending
  | false => exact hstuck.unfinished (hm.finished hstuck hrun)

end EventManager

end EventSystem

end WifiDisplay
