import WifiDisplay.EventSystemWaits

/-! Every step of the event system keeps its waits paid for, unless it blocks the last worker
or is a `Stop` that leaves a wait behind. -/

namespace WifiDisplay

namespace EventSystem

open Tally

namespace EventManager

variable {n : Nat} {P E L : Type} {m m' : EventManager n P E L} [Fintype P] [DecidableEq P]

omit [Fintype P] [DecidableEq P] in
theorem tops_setWorker (m : EventManager n P E L) (i : Fin n) (w : Worker E L) :
    (m.setWorker i w).tops + (m.workers i).atTop.toNat = m.tops + w.atTop.toNat :=
  tally_update i w

theorem entering_setWorker (m : EventManager n P E L) (i : Fin n) (w : Worker E L) :
    (m.setWorker i w).entering + (Caller.atPushTask (m.workers i).caller).toNat =
      m.entering + (Caller.atPushTask w.caller).toNat := by
  have hcount := tally_update (p := Caller.atPushTask) (f := m.caller) (.inl i) w.caller
  simp only [entering, caller_setWorker, eventThread_setWorker]
  have hi : m.caller (.inl i) = (m.workers i).caller := rfl
  rw [hi] at hcount
  omega

theorem entering_setCaller (m : EventManager n P E L) (c : Caller E L) (x : Client n P) :
    (m.setCaller c x).entering + (Caller.atPushTask (m.caller x)).toNat =
      m.entering + (Caller.atPushTask (some c)).toNat := by
  have hcount := tally_update (p := Caller.atPushTask) (f := m.caller) x (some c)
  simp only [entering, caller_setCaller, eventThread_setCaller]
  omega

omit [Fintype P] in
theorem tops_setCaller {c c₀ : Caller E L} {x : Client n P} (hx : m.caller x = some c₀) :
    (m.setCaller c x).tops = m.tops := by
  cases x with
  | inl i =>
    have hw := workers_of_caller m i hx
    have hcount := tops_setWorker m i (.handler c)
    rw [hw] at hcount
    exact hcount
  | inr p => rfl

/-- A client moves; it may go on to wait for room when there is none. -/
theorem Sound.setCaller {owed owed' : Nat} (hm : m.Sound owed) {c c₀ : Caller E L} {x : Client n P}
    (hx : m.caller x = some c₀)
    (howed : owed + (Caller.atPushTask (some c₀)).toNat ≤
      owed' + (Caller.atPushTask (some c)).toNat ∨ n ≤ m.tasks.length)
    (hroom : Caller.atRoomWait (some c) = true → m.isRunning = true ∧ n ≤ m.tasks.length)
    (hfree : m.isRunning = true →
      ∃ i, ((m.setCaller c x).workers i).stays m.eventThread.atRoomWait = false) :
    (m.setCaller c x).Sound owed' where
  eventWait := by simpa using hm.eventWait
  body := by simpa using hm.body
  taskWait := by
    intro i hi
    rw [tops_setCaller hx, isRunning_setCaller, tasks_setCaller]
    rcases workers_setCaller m c x i with ⟨-, hw⟩ | ⟨-, hw⟩
    · rw [hw] at hi
      cases hi
    · rw [hw] at hi
      exact hm.taskWait i hi
  room := by
    intro p hp
    have hcount := entering_setCaller m c x
    rw [hx] at hcount
    simp only [isRunning_setCaller, tasks_setCaller]
    rcases waitsRoom_setCaller m c x hp with ⟨-, hwait⟩ | hp
    · obtain ⟨hrun, hfull⟩ := hroom hwait
      exact ⟨hrun, by omega⟩
    · obtain ⟨hrun, hle⟩ := hm.room p hp
      exact ⟨hrun, by omega⟩
  workerDone := by
    intro i hi
    rw [isRunning_setCaller]
    rcases workers_setCaller m c x i with ⟨-, hw⟩ | ⟨-, hw⟩
    · rw [hw] at hi
      cases hi
    · rw [hw] at hi
      exact hm.workerDone i hi
  eventDone := by simpa using hm.eventDone
  stopper := by simpa using hm.stopper
  free := by simpa using hfree

/-- A client that is not blocked where it moves leaves a worker that is not. -/
theorem Sound.free_setCaller {owed : Nat} (hm : m.Sound owed) {c : Caller E L} (x : Client n P)
    (hc : ∀ roomWait, (Worker.handler c).stays roomWait = false) (hrun : m.isRunning = true) :
    ∃ i, ((m.setCaller c x).workers i).stays m.eventThread.atRoomWait = false := by
  obtain ⟨i, hi⟩ := hm.free hrun
  refine ⟨i, ?_⟩
  rcases workers_setCaller m c x i with ⟨-, hw⟩ | ⟨-, hw⟩
  · rw [hw]
    exact hc _
  · rw [hw]
    exact hi

/-- A worker moves, outside the calls of a handler, and tasks come or go. -/
theorem Sound.setWorker {owed owed' : Nat} (hm : m.Sound owed) {i : Fin n} {w : Worker E L}
    (tasks : List (L × E)) (howed : m.tasks.length + owed ≤ tasks.length + owed')
    (hfrom : Caller.atPushTask (m.workers i).caller = false)
    (hto : Caller.atRoomWait w.caller = false) (hstays : ∀ roomWait, w.stays roomWait = false)
    (htasks : tasks.length + (m.workers i).atTop.toNat ≤ m.tasks.length + w.atTop.toNat ∨
      tasks = [] ∨ m.isRunning = false)
    (hsleep : w.atTaskWait = true → m.isRunning = true ∧ tasks = [])
    (hdone : w.isDone = true → m.isRunning = false) :
    ({ m with tasks }.setWorker i w).Sound owed' where
  eventWait := hm.eventWait
  body := hm.body
  taskWait := by
    intro j hj
    have htops : ({ m with tasks }.setWorker i w).tops + (m.workers i).atTop.toNat =
        m.tops + w.atTop.toNat := tops_setWorker { m with tasks } i w
    simp only [workers_setWorker, isRunning_setWorker, tasks_setWorker] at hj ⊢
    by_cases hji : j = i
    · subst hji
      rw [Function.update_self] at hj
      obtain ⟨hrun, rfl⟩ := hsleep hj
      exact ⟨hrun, Nat.zero_le _⟩
    · rw [Function.update_of_ne hji] at hj
      obtain ⟨hrun, hle⟩ := hm.taskWait j hj
      refine ⟨hrun, ?_⟩
      rcases htasks with htasks | rfl | hstopped
      · omega
      · exact Nat.zero_le _
      · rw [hrun] at hstopped
        cases hstopped
  room := by
    intro p hp
    obtain ⟨hrun, hle⟩ := hm.room p (waitsRoom_setWorker { m with tasks } i w hto hp)
    have hcount : ({ m with tasks }.setWorker i w).entering + (Caller.atPushTask (m.workers i).caller).toNat =
        m.entering + (Caller.atPushTask w.caller).toNat := entering_setWorker { m with tasks } i w
    rw [hfrom] at hcount
    simp only [isRunning_setWorker, tasks_setWorker, Bool.toNat_false] at hcount ⊢
    exact ⟨hrun, by omega⟩
  workerDone := by
    intro j hj
    simp only [workers_setWorker, isRunning_setWorker] at hj ⊢
    by_cases hji : j = i
    · subst hji
      rw [Function.update_self] at hj
      exact hdone hj
    · rw [Function.update_of_ne hji] at hj
      exact hm.workerDone j hj
  eventDone := hm.eventDone
  stopper := hm.stopper
  free := by
    intro hrun
    obtain ⟨j, hj⟩ := hm.free hrun
    refine ⟨j, ?_⟩
    simp only [workers_setWorker, eventThread_setWorker]
    by_cases hji : j = i
    · subst hji
      rw [Function.update_self]
      exact hstays _
    · rw [Function.update_of_ne hji]
      exact hj

/-- `acceptNewTask_` signals the room that the last task has left. -/
theorem Sound.emplaceTask (hm : m.Sound 1) {task : L × E} {woken : Option (Fin n)}
    (hstep : m.emplaceTask task woken = .ok m') : m'.Sound 0 := by
  rw [EventManager.emplaceTask] at hstep
  cases woken with
  | some i =>
    rw [notifyTask] at hstep
    split at hstep
    · rename_i hwait
      cases hstep
      have hi : m.workers i = .taskWait := by
        have : (m.workers i).atTaskWait = true := hwait
        cases hw : m.workers i <;> simp_all [Worker.atTaskWait]
      apply hm.setWorker (m.tasks ++ [task])
      · simp
      · rw [hi]
        rfl
      · rfl
      · exact fun _ => rfl
      · left
        simp [hi, Worker.atTop]
      · exact Bool.noConfusion
      · exact Bool.noConfusion
    · cases hstep
  | none =>
    rw [notifyTask] at hstep
    split at hstep
    · cases hstep
    · rename_i hnone
      cases hstep
      refine ⟨hm.eventWait, hm.body, fun i hi => absurd ⟨i, hi⟩ hnone, fun p hp => ?_, hm.workerDone,
        hm.eventDone, hm.stopper, hm.free⟩
      obtain ⟨hrun, hle⟩ := hm.room p hp
      refine ⟨hrun, ?_⟩
      have hentering : { m with tasks := m.tasks ++ [task] }.entering = m.entering := rfl
      simp only [hentering, List.length_append, List.length_singleton]
      omega

omit [DecidableEq P] in
/-- The event thread moves, and events come or go. -/
theorem Sound.setEventThread {owed owed' : Nat} (hm : m.Sound owed) {e : EventThread E L}
    (events : List E) (howed : owed + m.eventThread.atDispatch.toNat ≤ owed' + e.atDispatch.toNat ∨
      n ≤ m.tasks.length)
    (hwait : e.atEventWait = true → events = [] ∧ m.isRunning = true)
    (hbody : e.atBody = true → m.isRunning = true ∨ events ≠ [])
    (hroom : e.atRoomWait = true → m.isRunning = true ∧ n ≤ m.tasks.length ∧
      ∃ i, (m.workers i).stays true = false)
    (hdone : e.isDone = true → m.isRunning = false) :
    { m with events, eventThread := e }.Sound owed' where
  eventWait := hwait
  body := hbody
  taskWait := hm.taskWait
  room := by
    intro p hp
    show m.isRunning = true ∧
      n ≤ m.tasks.length + (tally Caller.atPushTask m.caller + e.atDispatch.toNat) + owed'
    cases p with
    | eventThread =>
      obtain ⟨hrun, hle, -⟩ := hroom hp
      exact ⟨hrun, by omega⟩
    | client x =>
      obtain ⟨hrun, hle⟩ := hm.room (.client x) hp
      rw [entering] at hle
      refine ⟨hrun, ?_⟩
      rcases howed with howed | hfull
      · omega
      · omega
  workerDone := hm.workerDone
  eventDone := hdone
  stopper := hm.stopper
  free := by
    intro hrun
    show ∃ i, (m.workers i).stays e.atRoomWait = false
    cases he : e.atRoomWait with
    | false =>
      obtain ⟨i, hi⟩ := hm.free hrun
      exact ⟨i, Worker.stays_false hi⟩
    | true => exact (hroom he).2.2

/-- A signal of `acceptNewTask_` is taken by a thread that waits, if there is one. -/
theorem Sound.notifyRoom (hm : m.Sound 1) {woken : Option (Pusher n P)}
    (hstep : m.notifyRoom woken = .ok m') : m'.Sound 0 := by
  cases woken with
  | none =>
    rw [EventManager.notifyRoom] at hstep
    split at hstep
    · rename_i hfree
      cases hstep
      refine ⟨hm.eventWait, hm.body, hm.taskWait, fun p hp => ?_, hm.workerDone, hm.eventDone,
        hm.stopper, hm.free⟩
      cases p with
      | eventThread =>
        rw [hfree.1] at hp
        cases hp
      | client x =>
        rw [hfree.2 x] at hp
        cases hp
    · cases hstep
  | some p =>
    rw [EventManager.notifyRoom] at hstep
    split at hstep
    · rename_i hp
      cases hstep
      cases p with
      | eventThread =>
        cases he : m.eventThread with
        | roomWait task rest =>
          simp only [wake, he]
          apply hm.setEventThread m.events
          · left
            simp [he, EventThread.atDispatch]
          · exact Bool.noConfusion
          · exact Bool.noConfusion
          · exact Bool.noConfusion
          · exact Bool.noConfusion
        | _ => simp [waitsRoom, he, EventThread.atRoomWait] at hp
      | client x =>
        cases hx : m.caller x with
        | none => simp [waitsRoom, hx, Caller.atRoomWait] at hp
        | some c =>
          cases c with
          | roomWait task =>
            simp only [wake, hx]
            exact hm.setCaller hx (.inl (by simp [Caller.atPushTask])) Bool.noConfusion
              (hm.free_setCaller x fun _ => rfl)
          | _ => simp [waitsRoom, hx, Caller.atRoomWait] at hp
    · cases hstep

omit [DecidableEq P] in
/-- The event thread goes on to the next listener. -/
theorem Sound.next {owed owed' : Nat} (hm : m.Sound owed) (events : List E) {tasks : List (L × E)}
    (howed : owed + m.eventThread.atDispatch.toNat ≤ owed') :
    { m with events, eventThread := .next tasks }.Sound owed' := by
  cases tasks with
  | nil =>
    apply hm.setEventThread events
    · exact Or.inl (Nat.le_add_right_of_le howed)
    all_goals exact Bool.noConfusion
  | cons task rest =>
    apply hm.setEventThread events
    · exact Or.inl (Nat.le_add_right_of_le howed)
    all_goals exact Bool.noConfusion

omit [DecidableEq P] in
theorem Sound.processEvent (hm : m.Sound 0) {listeners : E → List L}
    (hstep : m.processEvent listeners = .ok m') : m'.Sound 0 := by
  rw [EventManager.processEvent] at hstep
  split at hstep
  · rename_i he
    cases hstep
    apply hm.setEventThread m.events
    · left
      simp [he, EventThread.atDispatch]
    all_goals exact Bool.noConfusion
  · rename_i he
    cases hstep
    cases hrun : m.isRunning with
    | true =>
      rw [← hrun]
      apply hm.setEventThread m.events
      · left
        simp [he, hrun, EventThread.atDispatch]
      · simp [hrun, EventThread.atEventWait]
      · exact fun _ => Or.inl hrun
      · simp [hrun, EventThread.atRoomWait]
      · simp [hrun, EventThread.isDone]
    | false =>
      rw [← hrun]
      apply hm.setEventThread m.events
      · left
        simp [he, hrun, EventThread.atDispatch]
      · simp [hrun, EventThread.atEventWait]
      · simp [hrun, EventThread.atBody]
      · simp [hrun, EventThread.atRoomWait]
      · exact fun _ => hrun
  · rename_i he
    split at hstep
    · rename_i hevents
      cases hstep
      have hrun : m.isRunning = true := by
        rcases hm.body (by rw [he]; rfl) with hrun | hne
        · exact hrun
        · exact absurd hevents hne
      apply hm.setEventThread m.events
      · left
        simp [he, EventThread.atDispatch]
      · exact fun _ => ⟨hevents, hrun⟩
      all_goals exact Bool.noConfusion
    · cases hstep
      exact hm.next _ (by simp [he, EventThread.atDispatch])
  · cases hstep

theorem Sound.dispatchTask (hm : m.Sound 0) {woken : Option (Fin n)}
    (hok : m.Unblocking (.dispatchTask woken)) (hstep : m.dispatchTask woken = .ok m') :
    m'.Sound 0 := by
  rw [EventManager.dispatchTask] at hstep
  split at hstep
  · rename_i task rest he
    split at hstep
    · rename_i hfull
      cases hstep
      obtain ⟨hrun, hfree⟩ := hok hfull
      simp only [isOverload, Bool.and_eq_true, decide_eq_true_eq] at hfull
      apply hm.setEventThread m.events
      · exact Or.inr hfull.2
      · exact Bool.noConfusion
      · exact Bool.noConfusion
      · exact fun _ => ⟨hrun, hfull.2, hfree⟩
      · exact Bool.noConfusion
    · exact (hm.next m.events (by simp [he, EventThread.atDispatch])).emplaceTask hstep
  · cases hstep

theorem Sound.pushTask (hm : m.Sound 0) {x : Client n P} {woken : Option (Fin n)}
    (hok : m.Unblocking (.pushTask x woken)) (hstep : m.pushTask x woken = .ok m') :
    m'.Sound 0 := by
  rw [EventManager.pushTask] at hstep
  split at hstep
  · rename_i task hx
    split at hstep
    · rename_i hfull
      cases hstep
      obtain ⟨hrun, i, hxi, hi⟩ := hok hfull
      simp only [isOverload, Bool.and_eq_true, decide_eq_true_eq] at hfull
      refine hm.setCaller hx (.inr hfull.2) (fun _ => ⟨hrun, hfull.2⟩) fun _ => ⟨i, ?_⟩
      rcases workers_setCaller m (.roomWait task) x i with ⟨hxi', -⟩ | ⟨-, hw⟩
      · exact absurd hxi' hxi
      · rw [hw]
        exact hi
    · have hpushed : (m.setCaller .futureWait x).Sound 1 :=
        hm.setCaller hx (.inl (Nat.le_refl 1)) Bool.noConfusion (hm.free_setCaller x fun _ => rfl)
      exact hpushed.emplaceTask hstep
  · cases hstep

theorem Sound.taskMainWorker (hm : m.Sound 0) {i : Fin n} {woken : Option (Pusher n P)}
    (hstep : m.taskMainWorker i woken = .ok m') : m'.Sound 0 := by
  rw [EventManager.taskMainWorker] at hstep
  split at hstep
  · rename_i hi
    have hcaller : Caller.atPushTask (m.workers i).caller = false := by
      rw [hi]
      rfl
    split at hstep
    · rename_i hrun
      split at hstep
      · rename_i htasks
        cases hstep
        apply hm.setWorker m.tasks (Nat.le_refl _) hcaller rfl (fun _ => rfl)
        · exact Or.inr (Or.inl htasks)
        · exact fun _ => ⟨hrun, htasks⟩
        · exact Bool.noConfusion
      · rename_i task tasks htasks
        have htaken : ({ m with tasks }.setWorker i (.handler .outside)).Sound 1 := by
          apply hm.setWorker tasks _ hcaller rfl (fun _ => rfl)
          · left
            simp [htasks, hi, Worker.atTop]
          · exact Bool.noConfusion
          · exact Bool.noConfusion
          · simp [htasks]
        exact htaken.notifyRoom hstep
    · rename_i hrun
      cases hstep
      have hstopped : m.isRunning = false := Bool.eq_false_iff.mpr hrun
      apply hm.setWorker m.tasks (Nat.le_refl _) hcaller rfl (fun _ => rfl)
      · exact Or.inr (Or.inr hstopped)
      · exact Bool.noConfusion
      · exact fun _ => hstopped
  · cases hstep

omit [DecidableEq P] in
theorem Sound.pushEvent (hm : m.Sound 0) (event : E) : (m.pushEvent event).Sound 0 := by
  rw [EventManager.pushEvent]
  split
  · exact hm
  · rw [notifyEvent]
    split
    · rename_i he
      have he' : m.eventThread = .eventWait := he
      apply hm.setEventThread (m.events ++ [event])
      · left
        simp [he', EventThread.atDispatch]
      all_goals exact Bool.noConfusion
    · rename_i hnot
      refine ⟨fun hwait => ?_, fun _ => Or.inr (by simp), hm.taskWait, hm.room, hm.workerDone,
        hm.eventDone, hm.stopper, hm.free⟩
      have hwait' : m.eventThread.atEventWait = true := hwait
      cases he : m.eventThread with
      | eventWait => exact absurd he hnot
      | _ => simp [he, EventThread.atEventWait] at hwait'

omit [DecidableEq P] in
/-- `Stop` while no thread waits for an event or for room. -/
theorem Sound.stop (hok : m.Unblocking .stop) (hstep : m.stop = .ok m') :
    m'.Sound 0 := by
  rw [EventManager.stop] at hstep
  split at hstep
  · cases hstep
    obtain ⟨hwait, hbody, hroom, hrooms⟩ := hok
    refine ⟨?_, fun h => Or.inr (hbody h), ?_, ?_, fun _ _ => rfl, fun _ => rfl, by simp, Bool.noConfusion⟩
    · intro h
      rw [hwait] at h
      cases h
    · intro i hi
      cases hw : m.workers i <;> simp [hw, Worker.atTaskWait] at hi
    · intro p hp
      exfalso
      cases p with
      | eventThread =>
        rw [waitsRoom] at hroom hp
        rw [hroom] at hp
        cases hp
      | client x =>
        have hx := hrooms x
        cases x with
        | inl i => cases hw : m.workers i <;> simp_all [waitsRoom, caller, Worker.atTaskWait, Worker.caller]
        | inr q =>
          rw [waitsRoom] at hx hp
          have hq : m.caller (.inr q) = some (m.producers q) := rfl
          rw [hq] at hx
          rw [show Caller.atRoomWait (some (m.producers q)) = true from hp] at hx
          cases hx
  · cases hstep

omit [DecidableEq P] in
theorem Sound.join (hm : m.Sound 0) (hstep : m.join = .ok m') : m'.Sound 0 := by
  have hstopper := hm.stopper
  rw [EventManager.join] at hstep
  split at hstep
  · rename_i hs
    rw [hs] at hstopper
    split at hstep
    · cases hstep
      exact ⟨hm.eventWait, hm.body, hm.taskWait, hm.room, hm.workerDone, hm.eventDone,
        by simpa using hstopper, hm.free⟩
    · cases hstep
  · rename_i hs
    rw [hs] at hstopper
    split at hstep
    · cases hstep
      exact ⟨hm.eventWait, hm.body, hm.taskWait, hm.room, hm.workerDone, hm.eventDone,
        by simpa using hstopper, hm.free⟩
    · cases hstep
  · cases hstep

/-- A thread calls the event system. -/
theorem Sound.call {listeners : E → List L} (hm : m.Sound 0) {x : Client n P} {request : Request E}
    (hok : m.Unblocking (.call x request)) (hstep : m.step listeners (.call x request) = .ok m') :
    m'.Sound 0 := by
  simp only [EventManager.step] at hstep
  split at hstep
  · rename_i event hx
    cases hstep
    refine hm.setCaller hx (.inl (Nat.zero_le _)) Bool.noConfusion fun hrun => ?_
    cases x with
    | inl i =>
      cases hroom : m.eventThread.atRoomWait with
      | true =>
        obtain ⟨j, hji, hj⟩ := hok hroom
        refine ⟨j, ?_⟩
        rw [EventManager.setCaller, workers_setWorker, Function.update_of_ne hji]
        exact hj
      | false =>
        obtain ⟨j, hj⟩ := hm.free hrun
        rw [hroom] at hj
        refine ⟨j, ?_⟩
        rcases workers_setCaller m (.pushEvent event) (.inl i) j with ⟨-, hw⟩ | ⟨-, hw⟩
        · rw [hw]
          rfl
        · rw [hw]
          exact hj
    | inr p => exact hm.free hrun
  · rename_i event hx
    cases hstep
    rw [pushSyncEvent]
    split
    · exact hm.setCaller hx (.inl (Nat.zero_le _)) Bool.noConfusion (hm.free_setCaller x fun _ => rfl)
    · exact hm.setCaller hx (.inl (Nat.zero_le _)) Bool.noConfusion (hm.free_setCaller x fun _ => rfl)
  · cases hstep

theorem Sound.step {listeners : E → List L} (hm : m.Sound 0) {act : Act n P E}
    (hok : m.Unblocking act) (hstep : m.step listeners act = .ok m') : m'.Sound 0 := by
  cases act with
  | call x request => exact hm.call hok hstep
  | pushEvent x =>
    simp only [EventManager.step] at hstep
    split at hstep
    · rename_i event hx
      split at hstep
      · cases hstep
      · cases hstep
        have hout : (m.setCaller .outside x).Sound 0 :=
          hm.setCaller hx (.inl (Nat.zero_le _)) Bool.noConfusion (hm.free_setCaller x fun _ => rfl)
        exact hout.pushEvent event
    · cases hstep
  | pushTask x woken => exact hm.pushTask hok hstep
  | futureOver x =>
    simp only [EventManager.step] at hstep
    split at hstep
    · rename_i hx
      cases hstep
      exact hm.setCaller hx (.inl (Nat.zero_le _)) Bool.noConfusion (hm.free_setCaller x fun _ => rfl)
    · cases hstep
  | handlerReturn i =>
    simp only [EventManager.step] at hstep
    split at hstep
    · rename_i hi
      cases hstep
      apply hm.setWorker m.tasks (Nat.le_refl _) _ rfl (fun _ => rfl)
      · left
        simp [hi, Worker.atTop]
      · exact Bool.noConfusion
      · exact Bool.noConfusion
      · rw [hi]
        rfl
    · cases hstep
  | taskMainWorker i woken => exact hm.taskMainWorker hstep
  | processEvent => exact hm.processEvent hstep
  | dispatchTask woken => exact hm.dispatchTask hok hstep
  | stop => exact Sound.stop hok hstep
  | join => exact hm.join hstep

/-! The runs of the event system that never get stuck, and the burst that does. -/

omit [DecidableEq P] in
theorem sound_startEventLoop {m₀ : EventManager n P E L}
    (hstart : startEventLoop n P E L = some m₀) : m₀.Sound 0 := by
  rw [startEventLoop] at hstart
  split at hstart
  · cases hstart
  · rename_i hn
    cases hstart
    have hpos : 0 < n := by omega
    refine ⟨nofun, nofun, nofun, fun p hp => ?_, nofun, nofun, by simp, fun _ => ⟨⟨0, hpos⟩, rfl⟩⟩
    cases p with
    | eventThread => cases hp
    | client x => cases x <;> cases hp

/-- As long as no step blocks the last worker and `Stop` finds nobody waiting, the event
system never gets stuck. -/
theorem run_not_stuck {listeners : E → List L} {m₀ : EventManager n P E L} {acts : List (Act n P E)}
    (hstart : startEventLoop n P E L = some m₀)
    (run : GuardedRun (step listeners) Unblocking m₀ acts m) : ¬ m.Stuck listeners := by
  have hm : m.Sound 0 := run.invariant (I := fun m => m.Sound 0) (sound_startEventLoop hstart)
    fun _ _ _ hm hok hstep => hm.step hok hstep
  exact hm.not_stuck

instance (m : EventManager n P E L) (act : Act n P E) : Decidable (m.Unblocking act) := by
  cases act with
  | call x request => cases x <;> cases request <;> unfold Unblocking <;> infer_instance
  | _ => unfold Unblocking; infer_instance

/-- An event whose handler pushes another one, and `StopEventLoop` between two events. -/
theorem run_not_stuck_twoEvents : ∃ m : EventManager 2 Unit Unit Unit,
    ¬ m.Stuck (fun _ => [()]) ∧ m.stopper = .returned := by
  have hsome : (GuardedRun.check (step fun _ => [()]) Unblocking
      ({ isRunning := true } : EventManager 2 Unit Unit Unit)
      [.call (.inr ()) (.pushEvent ()), .pushEvent (.inr ()), .taskMainWorker 1 none,
        .processEvent, .processEvent, .processEvent, .dispatchTask (some 1), .taskMainWorker 1 none,
        .call (.inl 1) (.pushEvent ()), .processEvent, .processEvent, .pushEvent (.inl 1),
        .call (.inl 1) (.pushSyncEvent ()), .pushTask (.inl 1) none, .taskMainWorker 0 none,
        .handlerReturn 0, .futureOver (.inl 1), .handlerReturn 1, .processEvent, .processEvent,
        .processEvent, .dispatchTask none, .stop, .taskMainWorker 0 none, .taskMainWorker 1 none,
        .processEvent, .join, .join]).any (fun m => m.stopper = .returned) = true := rfl
  obtain ⟨m, hrun, hstopper⟩ := (Option.any_eq_true _ _).mp hsome
  exact ⟨m, run_not_stuck rfl (GuardedRun.of_check hrun), by simpa using hstopper⟩

/-- The event thread waits for room with `mutex_` in its hands, and every worker waits for
`mutex_` in its handler. -/
def Jammed (m : EventManager n P E L) : Prop :=
  m.eventThread.atRoomWait = true ∧ (∀ i, Caller.atPushEvent (m.caller (.inl i)) = true) ∧
    (∀ p, Caller.isOutside (m.producers p) = true) ∧ m.stopper = .notCalled ∧ m.tasks.isEmpty = false

instance (m : EventManager n P E L) : Decidable m.Jammed := inferInstanceAs (Decidable (_ ∧ _))

theorem Jammed.stuck (hm : m.Jammed) (listeners : E → List L) : m.Stuck listeners := by
  obtain ⟨hevent, hworkers, hproducers, hstopper, htasks⟩ := hm
  obtain ⟨task, rest, he⟩ : ∃ task rest, m.eventThread = .roomWait task rest := by
    cases he : m.eventThread <;> simp_all [EventThread.atRoomWait]
  have hworker : ∀ i, ∃ event, m.workers i = .handler (.pushEvent event) := by
    intro i
    have hi := hworkers i
    cases hx : m.caller (.inl i) with
    | none => simp [hx, Caller.atPushEvent] at hi
    | some c =>
      cases c with
      | pushEvent event => exact ⟨event, workers_of_caller m i hx⟩
      | _ => simp [hx, Caller.atPushEvent] at hi
  have hclient : ∀ x : Client n P, (∃ event, m.caller x = some (.pushEvent event)) ∨
      (∃ p, x = .inr p) ∧ m.caller x = some .outside := by
    intro x
    cases x with
    | inl i =>
      obtain ⟨event, hi⟩ := hworker i
      exact Or.inl ⟨event, by simp [caller, hi, Worker.caller]⟩
    | inr p =>
      have hp := hproducers p
      cases hc : m.producers p with
      | outside => exact Or.inr ⟨⟨p, rfl⟩, by simp [caller, hc]⟩
      | _ => simp [hc, Caller.isOutside] at hp
  refine ⟨Or.inr (Or.inl fun hnil => ?_), fun hfinished => ?_, fun act hinternal => ?_⟩
  · rw [hnil] at htasks
    cases htasks
  · have hdone := hfinished.eventThread
    rw [he] at hdone
    cases hdone
  · cases act with
    | call x request =>
      rcases hclient x with ⟨event, hx⟩ | ⟨⟨p, rfl⟩, -⟩
      · simp [step, hx]
      · exact absurd trivial hinternal
    | pushEvent x => rcases hclient x with ⟨event, hx⟩ | ⟨-, hx⟩ <;> simp [step, hx, he, EventThread.holdsMutex]
    | pushTask x woken => rcases hclient x with ⟨event, hx⟩ | ⟨-, hx⟩ <;> simp [step, pushTask, hx]
    | futureOver x => rcases hclient x with ⟨event, hx⟩ | ⟨-, hx⟩ <;> simp [step, hx]
    | handlerReturn i =>
      obtain ⟨event, hi⟩ := hworker i
      simp [step, hi]
    | taskMainWorker i woken =>
      obtain ⟨event, hi⟩ := hworker i
      simp [step, taskMainWorker, hi]
    | processEvent => simp [step, processEvent, he]
    | dispatchTask woken => simp [step, dispatchTask, he]
    | stop => exact absurd trivial hinternal
    | join => simp [step, join, hstopper]

/-- Twice as many events as there is room for tasks, and one more; the handlers of the first
half call `PushEvent` once the event thread has found the pool full. -/
def burst (n : Nat) : List (Act n Unit Unit) :=
  (List.replicate (2 * n + 1) [.call (.inr ()) (.pushEvent ()), .pushEvent (.inr ())]).flatten ++
    .processEvent :: (List.finRange n).flatMap (fun i =>
      [.processEvent, .processEvent, .dispatchTask none, .taskMainWorker i none]) ++
    (List.replicate (n + 1) [.processEvent, .processEvent, .dispatchTask none]).flatten ++
    (List.finRange n).map fun i => .call (.inl i) (.pushEvent ())

set_option maxRecDepth 20000 in
/-- With the thirty threads of `Init`. -/
theorem burst_stuck : ¬ ∀ (m₀ m : EventManager 30 Unit Unit Unit) (acts : List (Act 30 Unit Unit)),
    startEventLoop 30 Unit Unit Unit = some m₀ → acts.foldlM (step fun _ => [()]) m₀ = .ok m →
      ¬ m.Stuck (fun _ => [()]) := by
  intro hall
  have hsome : ((burst 30).foldlM (step fun _ => [()])
      ({ isRunning := true } : EventManager 30 Unit Unit Unit)).toOption.any (fun m => m.Jammed) =
        true := rfl
  obtain ⟨m, hrun, hjammed⟩ := (Option.any_eq_true _ _).mp hsome
  have hok : (burst 30).foldlM (step fun _ => [()])
      ({ isRunning := true } : EventManager 30 Unit Unit Unit) = .ok m := by
    cases hres : (burst 30).foldlM (step fun _ => [()])
        ({ isRunning := true } : EventManager 30 Unit Unit Unit) with
    | error e =>
      rw [hres] at hrun
      cases hrun
    | ok m' =>
      rw [hres] at hrun
      cases hrun
      rfl
  exact hall _ m (burst 30) rfl hok (Jammed.stuck (of_decide_eq_true hjammed) _)

end EventManager

end EventSystem

end WifiDisplay
