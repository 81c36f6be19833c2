import WifiDisplay.SinkPlayerSteps

/-! What the runs of the sink player keep rules out that its threads wait for each other for good. -/

namespace WifiDisplay

namespace SinkPlayer

open LockSystem DispatcherLocks

/-- Waits lead from lower to higher calls, up to the lock operations of the dispatcher. -/
def Call.level : Call → Nat
  | lock m => m.rank
  | join _ => 2
  | action => 8
  | _ => 0

theorem Call.level_le (call : Call) : call.level ≤ 8 := by
  refine Nat.le_of_ble_eq_true ?_
  cases call with
  | lock m => cases m <;> rfl
  | _ => rfl

namespace World

variable {ι : Type} [DecidableEq ι] {w : World ι} {t u : ThreadId ι} {call c : Call} {l : DispatcherMutex}

theorem Kept.not_holds_of_next {m : Mutex} (hw : Kept w) (h : w.Next t (.lock m)) : ¬ w.Holds t m := by
  intro hm
  obtain ⟨rest, htodo⟩ := exists_todo h
  exact absurd (rank_lt_top hm) (Nat.not_lt.mpr (hw.nested_of_todo htodo).1)

theorem Kept.notSelf (hw : Kept w) (t : ThreadId ι) : ¬ w.WaitsFor t t := by
  intro h
  cases h with
  | mutex hnext hheld => exact hw.not_holds_of_next hnext hheld
  | dispatcher hnext hwaits =>
    obtain ⟨m, m', path, htodo, hheld, -⟩ := hwaits
    exact not_holds_of_wait (hw.sound.wellNested t) htodo ⟨m', hheld⟩
  | thread hnext hplayer hbusy => exact hw.not_player hnext rfl _ hplayer

theorem Kept.notAsleep (hw : Kept w) {r : Receiver} (h : w.Next t (.join r)) :
    (w.players r).waiting = false := by
  obtain ⟨rest, htodo⟩ := exists_todo h
  cases r with
  | audio => exact absurd (hw.nested_of_todo htodo).1.2.2 nofun
  | video k => exact ((hw.stopped t k).join h).notWaiting

omit [DecidableEq ι] in
theorem next_unique {d : Call} (h : w.Next t c) (h' : w.Next t d) : c = d :=
  Option.some.inj (h.symm.trans h')

omit [DecidableEq ι] in
theorem WaitsFor.exists_next (h : w.WaitsFor t u) : ∃ c, w.Next t c := by
  cases h with
  | mutex hnext _ => exact ⟨_, hnext⟩
  | dispatcher hnext _ => exact ⟨_, hnext⟩
  | thread hnext _ _ => exact ⟨_, hnext⟩

/-- A thread that holds a lock of the dispatcher is between its lock operations. -/
theorem Kept.inDispatcher_of_waitsOn (hw : Kept w) (h : WaitsOn w.dispatcher t u l) (hnext : w.Next u c) :
    c.inDispatcher := by
  obtain ⟨m, m', path, -, hheld, -⟩ := h
  obtain ⟨rest, htodo⟩ := exists_todo hnext
  cases hc : c.inDispatcher with
  | true => rfl
  | false =>
    rw [hw.dispatcher_idle htodo hc] at hheld
    cases hheld

/-- A thread that is waited for and waits itself does so further up. -/
theorem Kept.climbs {v : ThreadId ι} {d : Call} (hw : Kept w) (h : w.WaitsFor t u) (h' : w.WaitsFor u v)
    (hc : w.Next t c) (hd : w.Next u d) : c.level < d.level ∨ d = .action := by
  cases h' with
  | dispatcher hnext' _ => exact .inr (next_unique hd hnext')
  | @mutex m' hnext' hheld' =>
    obtain rfl := next_unique hd hnext'
    cases h with
    | @mutex m hnext hheld =>
      obtain rfl := next_unique hc hnext
      obtain ⟨rest, htodo⟩ := exists_todo hd
      exact .inl (Nat.lt_of_lt_of_le (rank_lt_top hheld) (hw.nested_of_todo htodo).1)
    | dispatcher hnext hwaits => cases hw.inDispatcher_of_waitsOn hwaits hd
    | thread hnext hplayer hbusy =>
      obtain rfl := next_unique hc hnext
      have hplayers : Call.isPlayers (.lock m') := (hw.belongs_of_next hd).2 _ hplayer
      exact .inl (of_decide_eq_true hplayers)
  | @thread r' hnext' hplayer' hbusy' =>
    obtain rfl := next_unique hd hnext'
    cases h with
    | @mutex m hnext hheld =>
      obtain rfl := next_unique hc hnext
      obtain ⟨rest, htodo⟩ := exists_todo hd
      exact .inl (Nat.lt_of_lt_of_le (rank_lt_top hheld) (hw.nested_of_todo htodo).1.1)
    | dispatcher hnext hwaits => cases hw.inDispatcher_of_waitsOn hwaits hd
    | thread hnext hplayer hbusy => exact absurd hplayer (hw.not_player hd rfl _)

/-- Where every thread of a set waits for another one, some wait in the dispatcher. -/
theorem Kept.exists_action {S : Set (ThreadId ι)} (hw : Kept w) (hne : S.Nonempty)
    (hS : ∀ t ∈ S, ∃ u ∈ S, w.WaitsFor t u) : ∃ t ∈ S, w.Next t .action := by
  have hclimb : ∀ n, ∃ t ∈ S, ∃ c, w.Next t c ∧ (n ≤ c.level ∨ c = .action) := by
    intro n
    induction n with
    | zero =>
      obtain ⟨t, ht⟩ := hne
      obtain ⟨u, -, h⟩ := hS t ht
      obtain ⟨c, hc⟩ := h.exists_next
      exact ⟨t, ht, c, hc, .inl (Nat.zero_le _)⟩
    | succ n ih =>
      obtain ⟨t, ht, c, hc, hn⟩ := ih
      obtain ⟨u, hu, h⟩ := hS t ht
      obtain ⟨v, -, h'⟩ := hS u hu
      obtain ⟨d, hd⟩ := h'.exists_next
      refine ⟨u, hu, d, hd, ?_⟩
      rcases hw.climbs h h' hc hd with hlt | hd'
      · rcases hn with hn | rfl
        · exact .inl (Nat.lt_of_le_of_lt hn hlt)
        · exact absurd hlt (Nat.not_lt.mpr d.level_le)
      · exact .inr hd'
  obtain ⟨t, ht, c, hc, hn | rfl⟩ := hclimb 9
  · exact absurd hn (Nat.not_le.mpr (Nat.lt_succ_of_le c.level_le))
  · exact ⟨t, ht, hc⟩

theorem Kept.noCycle (hw : Kept w) (S : Set (ThreadId ι)) (hne : S.Nonempty) :
    ¬ ∀ t ∈ S, ∃ u ∈ S, w.WaitsFor t u := by
  intro hS
  have hdead : Deadlocked w.dispatcher := by
    obtain ⟨t, ht, hnext⟩ := hw.exists_action hne hS
    refine ⟨{t ∈ S | w.Next t .action}, ⟨t, ht, hnext⟩, ?_⟩
    rintro u ⟨hu, haction⟩
    obtain ⟨v, hv, h⟩ := hS u hu
    obtain ⟨_, -, h'⟩ := hS v hv
    obtain ⟨d, hd⟩ := h'.exists_next
    have hd' : d = .action := (hw.climbs h h' haction hd).resolve_left (Nat.not_lt.mpr d.level_le)
    have hvu : v ≠ u := by
      rintro rfl
      exact hw.notSelf v h
    cases h with
    | mutex hnext' _ => cases next_unique haction hnext'
    | dispatcher _ hwaits => exact ⟨v, ⟨hv, hd' ▸ hd⟩, hvu, _, hwaits⟩
    | thread hnext' _ _ => cases next_unique haction hnext'
  obtain ⟨i, j, hij, hr, hn⟩ := Deadlocked.exists_reversing_nesting hw.sound hdead
  exact hw.apart i j hij hr hn

theorem Kept.unhung (hw : Kept w) : w.Unhung where
  notSelf := hw.notSelf
  noCycle := hw.noCycle
  notAsleep t r hjoin hwaiting := by
    rw [hw.notAsleep hjoin] at hwaiting
    cases hwaiting

/-- No state of a run whose steps are orderly has threads that wait for each other for good. -/
theorem run_unhung (hasAudio hasPlayer : Bool) {acts : List (Act ι)}
    (hrun : AllMeet next (fun w act => w.Enabled act ∧ w.Orderly act)
      ({ hasAudio, hasPlayer } : World ι) acts) :
    (acts.foldl next ({ hasAudio, hasPlayer } : World ι)).Unhung := by
  have hkept : Kept (acts.foldl next ({ hasAudio, hasPlayer } : World ι)) :=
    AllMeet.invariant (I := Kept) (fun w act hw h => hw.next h.1 h.2) (.initial hasAudio hasPlayer) hrun
  exact hkept.unhung

/-! Runs in which only the threads of a list do anything. -/

/-- The other threads have nothing to do. -/
def Within (w : World ι) (S : List (ThreadId ι)) : Prop :=
  ∀ u, u ∉ S → w.threads u = {} ∧ w.dispatcher u = .idle

/-- One path of each call that the threads of the player make. -/
def onePath : Operation → List (Action DispatcherMutex)
  | .attachReceiver => attachPath
  | .detachReceiver => workerPath ++ (workerPath ++ workerPath)
  | .notifyReadReady | .readBufferData =>
    workerPath ++ [.acquire .bufferMutex .shared, .acquire .notifyMutex .exclusive,
      .release .notifyMutex, .release .bufferMutex]
  | .clearBit => workerPath
  | .flushBuffer => flushPath
  | .inputData => []

def readyIn (w : World ι) (S : List (ThreadId ι)) (t : ThreadId ι) (answer : Answer) : Call → Bool
  | .lock m => S.all fun u => m ∉ (w.threads u).held
  | .woken r => !(w.players r).waiting
  | .join r => (w.threads (.player r)).todo.isEmpty
  | .dispatch op => answer = .path (onePath op)
  | .action =>
    match (w.dispatcher t).todo with
    | .acquire l _ :: _ => S.all fun u => (w.dispatcher u).held.all (·.1 ≠ l)
    | _ => true
  | .startThread r => .player r ∈ S
  | _ => true

def enabledIn (w : World ι) (S : List (ThreadId ι)) : Act ι → Bool
  | .run t answer => t ∈ S && (w.threads t).todo.head?.any (w.readyIn S t answer)
  | .call t call => .user t ∈ S && (w.threads (.user t)).todo.isEmpty && call.isEntry && call ≠ .onInterrupt

def orderlyIn (w : World ι) (S : List (ThreadId ι)) : Act ι → Bool
  | .run t answer =>
    match (w.threads t).todo.head? with
    | some .prepare => answer ≠ .succeeds
    | some .action => S.all fun u => u = t || (w.dispatcher u).held.isEmpty
    | some (.notifyAll r) => (w.threads (.player r)).todo.head? ≠ some (.sleep r)
    | _ => true
  | .call _ _ => true

variable {S : List (ThreadId ι)} {act : Act ι} {answer : Answer}

theorem onePath_mem (op : Operation) : onePath op ∈ op.paths := by
  have hlock : workerPath ∈ lockNotify 1 := mem_lockNotify
  have hnested : ∀ m, [.acquire .bufferMutex m, .acquire .notifyMutex .exclusive, .release .notifyMutex,
      .release .bufferMutex] ∈ LockSystem.guarded .bufferMutex m (lockNotify 1) :=
    fun m => mem_guarded.mpr ⟨workerPath, hlock, rfl⟩
  cases op with
  | attachReceiver => exact attachPath_mem_attachReceiver
  | clearBit => exact hlock
  | flushBuffer => exact hnested .exclusive
  | inputData => exact .inl (.inl rfl)
  | detachReceiver =>
    have hdetach : workerPath ++ workerPath ∈ (1 + getNotifierByReceiverPtr * (1 + lockNotify 1) : Paths) :=
      .inr (Language.append_mem_mul hlock (.inr hlock))
    exact .inr (Language.append_mem_mul hlock hdetach)
  | notifyReadReady =>
    exact Language.append_mem_mul (l := getNotifierByReceiverId) hlock (.inr (hnested .shared))
  | readBufferData =>
    have hfind : workerPath ∈ updateReceiverReadIndex :=
      Language.append_mem_mul (l := findNextIndex) (.inl rfl) hlock
    have hread : [.acquire .bufferMutex .shared, .acquire .notifyMutex .exclusive, .release .notifyMutex,
        .release .bufferMutex] ∈ sharedLockBuffer (1 + updateReceiverReadIndex) :=
      mem_guarded.mpr ⟨workerPath, .inr hfind, rfl⟩
    exact Language.append_mem_mul (l := getNotifierByReceiverId) hlock (.inr hread)

theorem dispatcher_other (hu : u ≠ t) : (w.body t answer call).1.dispatcher u = w.dispatcher u := by
  by_cases hplain : call.isPlain
  · rw [dispatcher_body hplain]
  · cases call with
    | lock | unlock | sleep => rfl
    | startThread r =>
      simp only [World.body, World.startThread]
      split <;> rfl
    | action | notifyThreadWorker => exact Function.update_of_ne hu _ _
    | dispatch op =>
      simp only [World.body]
      split
      · exact Function.update_of_ne hu _ _
      · rfl
    | _ => exact absurd rfl hplain

theorem threads_other (hstart : ∀ r, call = .startThread r → u ≠ .player r) :
    (w.body t answer call).1.threads u = w.threads u := by
  by_cases hcall : ∃ r, call = .startThread r
  · obtain ⟨r, rfl⟩ := hcall
    simp only [World.body, World.startThread]
    split
    · rfl
    · exact setThread_other (hstart r rfl) _
  · rw [threads_body fun r h => hcall ⟨r, h⟩]

theorem run_other (hu : u ≠ t) (hstart : ∀ r, w.Next t (.startThread r) → u ≠ .player r) :
    (w.run t answer).threads u = w.threads u ∧ (w.run t answer).dispatcher u = w.dispatcher u := by
  rcases htodo : (w.threads t).todo with _ | ⟨call, rest⟩
  · simp only [World.run, htodo, and_self]
  · by_cases hplain : (∃ m, call = .lock m) ∨ (∃ m, call = .unlock m) ∨ ∃ r, call = .sleep r
    · rcases hplain with ⟨m, rfl⟩ | ⟨m, rfl⟩ | ⟨r, rfl⟩
      all_goals
        simp only [World.run, htodo]
        exact ⟨setThread_other hu _, rfl⟩
    · simp only [not_or, not_exists] at hplain
      rw [run_body htodo hplain.1 hplain.2.1 hplain.2.2, setThread_other hu]
      exact ⟨threads_other fun r h => hstart r (h ▸ next_of_todo htodo), dispatcher_other hu⟩

namespace Within

theorem ready (hw : w.Within S) (h : w.readyIn S t answer call) : w.Ready t answer call := by
  cases call with
  | lock m =>
    intro u hu
    by_cases huS : u ∈ S
    · exact of_decide_eq_true (List.all_eq_true.mp h u huS) hu
    · rw [Holds, (hw u huS).1] at hu
      cases hu
  | woken r => exact (Bool.not_eq_true' _).mp h
  | join r => exact List.isEmpty_iff.mp h
  | dispatch op => exact ⟨_, onePath_mem op, of_decide_eq_true h⟩
  | action =>
    intro l m path htodo j m' hj
    simp only [readyIn, htodo] at h
    by_cases hjS : j ∈ S
    · exact absurd rfl (of_decide_eq_true (List.all_eq_true.mp (List.all_eq_true.mp h j hjS) _ hj))
    · rw [(hw j hjS).2] at hj
      cases hj
  | _ => trivial

theorem enabled (hw : w.Within S) (h : w.enabledIn S act) : w.Enabled act := by
  cases act with
  | run t answer =>
    simp only [enabledIn, Bool.and_eq_true] at h
    obtain ⟨call, hnext, hready⟩ := (Option.any_eq_true _ _).mp h.2
    exact ⟨call, hnext, hw.ready hready⟩
  | call t call =>
    simp only [enabledIn, Bool.and_eq_true, decide_eq_true_eq] at h
    exact ⟨List.isEmpty_iff.mp h.1.1.2, h.1.2, fun hcall => absurd hcall h.2⟩

theorem next (hw : w.Within S) (h : w.enabledIn S act) : (w.next act).Within S := by
  intro u hu
  cases act with
  | run t answer =>
    simp only [enabledIn, Bool.and_eq_true, decide_eq_true_eq] at h
    have hut : u ≠ t := fun hut => hu (hut ▸ h.1)
    have hstart : ∀ r, w.Next t (.startThread r) → u ≠ .player r := by
      rintro r hr rfl
      obtain ⟨call, hnext, hready⟩ := (Option.any_eq_true _ _).mp h.2
      obtain rfl := next_unique hr hnext
      exact hu (of_decide_eq_true hready)
    obtain ⟨hthreads, hdispatcher⟩ : (w.run t answer).threads u = w.threads u ∧ _ := run_other hut hstart
    exact ⟨hthreads.trans (hw u hu).1, hdispatcher.trans (hw u hu).2⟩
  | call t call =>
    simp only [enabledIn, Bool.and_eq_true, decide_eq_true_eq] at h
    have hut : u ≠ .user t := fun hut => hu (hut ▸ h.1.1.1)
    exact ⟨(setThread_other hut _).trans (hw u hu).1, (hw u hu).2⟩

theorem orderly (hw : w.Within S) (h : w.orderlyIn S act) : w.Orderly act := by
  cases act with
  | call t call => trivial
  | run t answer =>
    refine ⟨fun hnext => ?_, fun hnext => ?_, fun r hnext hsleep => ?_⟩
    all_goals rw [Next] at hnext
    all_goals simp only [orderlyIn, hnext, decide_eq_true_eq] at h
    · exact h
    · have hfree : ∀ j, j ≠ t → (w.dispatcher j).held = [] := by
        intro j hj
        by_cases hjS : j ∈ S
        · have hor := List.all_eq_true.mp h j hjS
          simpa [hj] using hor
        · rw [(hw j hjS).2]
          rfl
      constructor
      · intro m m' path _ j hj hnesting
        obtain ⟨m'', hm⟩ := hnesting.1
        rw [hfree j hj] at hm
        cases hm
      · intro m m' path _ j hj hreversing
        obtain ⟨m'', hm⟩ := hreversing.1
        rw [hfree j hj] at hm
        cases hm
    · exact absurd hsleep h

end Within

/-- All of it at once, for a list of steps. -/
def goesOn (S : List (ThreadId ι)) (orderly : Bool) : World ι → List (Act ι) → Bool
  | _, [] => true
  | w, act :: acts =>
    w.enabledIn S act && (!orderly || w.orderlyIn S act) && goesOn S orderly (w.next act) acts

theorem Within.goesOn {acts : List (Act ι)} {orderly : Bool} (hw : w.Within S)
    (h : World.goesOn S orderly w acts) :
    AllMeet World.next (fun w act => w.Enabled act ∧ (orderly → w.Orderly act)) w acts ∧
      (acts.foldl World.next w).Within S := by
  induction acts generalizing w with
  | nil => exact ⟨trivial, hw⟩
  | cons act acts ih =>
    simp only [World.goesOn, Bool.and_eq_true, Bool.or_eq_true, Bool.not_eq_true'] at h
    obtain ⟨⟨henabled, horderly⟩, hrest⟩ := h
    obtain ⟨hmeet, hlast⟩ := ih (hw.next henabled) hrest
    refine ⟨⟨⟨hw.enabled henabled, fun ho => hw.orderly (horderly.resolve_left ?_)⟩, hmeet⟩, hlast⟩
    rw [ho]
    exact nofun

end World

/-! A thread of the media channel, one of the producer, and a play thread. -/

section Runs

open World

local instance neZeroReceivers : @NeZero Nat Zero.ofOfNat0 2 := ⟨Nat.succ_ne_zero 1⟩

def threads : List (ThreadId (Fin 2)) := [.user 0, .user 1, .player (.video 0)]

def silentWorld : World (Fin 2) := { hasAudio := false, hasPlayer := false }

def soundWorld : World (Fin 2) := { hasAudio := true, hasPlayer := true }

/-- The next calls of a thread, all of which succeed. -/
def goOn (t : ThreadId (Fin 2)) (n : Nat) : List (Act (Fin 2)) := List.replicate n (.run t .succeeds)

/-- A call into the dispatcher. -/
def through (t : ThreadId (Fin 2)) (op : Operation) : List (Act (Fin 2)) :=
  .run t (.path (onePath op)) :: goOn t (onePath op).length

/-- A surface is appended, and its controller is started. -/
def started : List (Act (Fin 2)) :=
  .call 0 (.appendSurface 7 false) :: goOn (.user 0) 4 ++ .call 0 .start :: goOn (.user 0) 8 ++
    through (.user 0) .attachReceiver ++ goOn (.user 0) 5

/-- The play thread finds nothing to read and is about to sleep. -/
def reading : List (Act (Fin 2)) :=
  goOn (.player (.video 0)) 2 ++ through (.player (.video 0)) .notifyReadReady ++
    goOn (.player (.video 0)) 3

/-- The controller is being stopped, up to the notification. -/
def stopping : List (Act (Fin 2)) :=
  .call 0 .stop :: goOn (.user 0) 7 ++ through (.user 0) .detachReceiver ++ goOn (.user 0) 6

/-- The play thread wakes up and ends. -/
def ending : List (Act (Fin 2)) :=
  goOn (.player (.video 0)) 4 ++ through (.player (.video 0)) .clearBit ++
    through (.player (.video 0)) .clearBit ++ through (.player (.video 0)) .readBufferData ++
    .run (.player (.video 0)) .fails :: through (.player (.video 0)) .notifyReadReady ++
    goOn (.player (.video 0)) 3

/-- The play thread sleeps when it is stopped, and is joined. -/
def stoppedAsleep : List (Act (Fin 2)) :=
  started ++ (reading ++ (goOn (.player (.video 0)) 1 ++ (stopping ++ (goOn (.user 0) 2 ++
    (ending ++ goOn (.user 0) 3)))))

theorem run_unhung_stoppedAsleep : (stoppedAsleep.foldl next silentWorld).Unhung ∧
    ((stoppedAsleep.foldl next silentWorld).players (.video 0)).hasThread = false := by
  have hwithin : silentWorld.Within threads := fun _ _ => ⟨rfl, rfl⟩
  have hgoes : goesOn threads true silentWorld stoppedAsleep := by decide +kernel
  exact ⟨run_unhung false false ((hwithin.goesOn hgoes).1.imp fun _ _ h => ⟨h.1, h.2 rfl⟩), by decide +kernel⟩

/-- `SetParameters` asks for the mutex that `Prepare` holds. -/
def rendererCreated : List (Act (Fin 2)) := .call 0 .start :: goOn (.user 0) 8

/-- The dispatcher attaches a receiver while the producer flushes the buffer. -/
def attachedAndFlushed : List (Act (Fin 2)) :=
  .call 0 (.appendSurface 7 false) :: goOn (.user 0) 4 ++ .call 0 .start :: goOn (.user 0) 8 ++
    .run (.user 0) (.path attachPath) :: goOn (.user 0) 3 ++ .call 1 (.dispatch .flushBuffer) ::
    .run (.user 1) (.path flushPath) :: goOn (.user 1) 1

/-- The play thread is notified between its test and its sleep. -/
def notifiedTooEarly : List (Act (Fin 2)) :=
  started ++ (reading ++ (stopping ++ (goOn (.user 0) 1 ++ (goOn (.player (.video 0)) 1 ++
    goOn (.user 0) 1))))

theorem enabled_of_goesOn {acts : List (Act (Fin 2))} {w : World (Fin 2)} (hw : w.Within threads)
    (h : goesOn threads false w acts) : AllMeet next Enabled w acts :=
  (hw.goesOn h).1.imp fun _ _ h => h.1

theorem rendererCreated_not_unhung :
    (AllMeet next Enabled soundWorld rendererCreated ∧
      ¬ (rendererCreated.foldl next soundWorld).Unhung) ∧
    (AllMeet next Enabled silentWorld attachedAndFlushed ∧
      ¬ (attachedAndFlushed.foldl next silentWorld).Unhung) ∧
    AllMeet next Enabled silentWorld notifiedTooEarly ∧
      ¬ (notifiedTooEarly.foldl next silentWorld).Unhung := by
  have hsound : soundWorld.Within threads := fun _ _ => ⟨rfl, rfl⟩
  have hsilent : silentWorld.Within threads := fun _ _ => ⟨rfl, rfl⟩
  have hearly : goesOn threads false silentWorld notifiedTooEarly := by decide +kernel
  refine ⟨⟨enabled_of_goesOn hsound (by decide +kernel), fun h => ?_⟩,
    ⟨enabled_of_goesOn hsilent (by decide +kernel), fun h => ?_⟩, enabled_of_goesOn hsilent hearly, fun h => ?_⟩
  · exact h.notSelf (.user 0) (.mutex (m := .audioRenderMutex) (by unfold Next; decide +kernel)
      (by unfold Holds; decide +kernel))
  · refine h.noCycle {.user 0, .user 1} ⟨.user 0, .inl rfl⟩ ?_
    rintro t (rfl | rfl)
    · refine ⟨.user 1, .inr rfl, .dispatcher (l := .bufferMutex) (by unfold Next; decide +kernel)
        ⟨.exclusive, .exclusive, attachPath.drop 4, ?_, ?_, .inl rfl⟩⟩
      · decide +kernel
      · decide +kernel
    · refine ⟨.user 0, .inl rfl, .dispatcher (l := .notifyMutex) (by unfold Next; decide +kernel)
        ⟨.exclusive, .exclusive, flushPath.drop 2, ?_, ?_, .inl rfl⟩⟩
      · decide +kernel
      · decide +kernel
  · obtain ⟨u, hu⟩ := h.notAsleep (.user 0) (.video 0) (by unfold Next; decide +kernel) (by decide +kernel)
    have hno : ∀ u ∈ threads, ¬ (Call.notifyAll (.video 0) ∈
        ((notifiedTooEarly.foldl next silentWorld).threads u).todo ∨
          Call.notifyOne (.video 0) ∈ ((notifiedTooEarly.foldl next silentWorld).threads u).todo) := by
      decide +kernel
    by_cases huS : u ∈ threads
    · exact hno u huS hu
    · rw [((hsilent.goesOn hearly).2 u huS).1] at hu
      rcases hu with hu | hu <;> cases hu

end Runs

end SinkPlayer

end WifiDisplay
