import Mathlib.Order.CompletePartialOrder
import WifiDisplay.SinkPlayerRuns

/-! Each orderly step of the sink player keeps what its runs keep. -/

namespace WifiDisplay

namespace SinkPlayer

open LockSystem DispatcherLocks

theorem Operation.paths_le (op : Operation) : op.paths ≤ operations := by
  intro path hpath
  cases op with
  | attachReceiver => exact .inl (.inl (.inl (.inl (.inl hpath))))
  | detachReceiver => exact .inl (.inl (.inl (.inl (.inr hpath))))
  | readBufferData => exact .inl (.inl (.inl (.inr hpath)))
  | notifyReadReady => exact .inl (.inl (.inr hpath))
  | inputData => exact .inl (.inr hpath)
  | flushBuffer => exact .inr hpath
  | clearBit =>
    have hnil : [] ∈ (1 + lockNotify (1 + uniqueLockBuffer 1) : Paths) :=
      (Language.mem_add _ _ _).mpr (.inl rfl)
    have hattach : path ∈ DispatcherLocks.attachReceiver := by
      have happend := Language.append_mem_mul hpath hnil
      rw [List.append_nil] at happend
      exact (Language.mem_add _ _ _).mpr (.inr happend)
    exact .inl (.inl (.inl (.inl (.inl hattach))))

theorem workerPath_mem : workerPath ∈ operations := Operation.paths_le .clearBit mem_lockNotify

/-- The calls that leave the threads and the dispatcher to others. -/
def Call.isPlain : Call → Bool
  | lock _ | unlock _ | sleep _ | startThread _ | dispatch _ | action | notifyThreadWorker => false
  | _ => true

namespace World

variable {ι : Type} [DecidableEq ι] {w w' : World ι} {t u : ThreadId ι} {answer : Answer} {call c : Call}
  {calls rest : List Call} {held : List Mutex} {k : Nat} {r : Receiver}

theorem threads_body (hstart : ∀ r, call ≠ .startThread r) : (w.body t answer call).1.threads = w.threads := by
  cases call with
  | startThread r => exact absurd rfl (hstart r)
  | _ =>
    simp only [World.body, World.append, World.videoStart, World.playerStart, World.prepare, World.requestRead]
    repeat' split
    all_goals rfl

theorem dispatcher_body (hplain : call.isPlain) : (w.body t answer call).1.dispatcher = w.dispatcher := by
  cases call with
  | startThread | dispatch | action | notifyThreadWorker => cases hplain
  | _ =>
    simp only [World.body, World.append, World.videoStart, World.playerStart, World.prepare, World.requestRead]
    repeat' split
    all_goals rfl

theorem countP_isAction_eq_zero (h : ∀ c ∈ calls, c.isAction = false) : calls.countP Call.isAction = 0 :=
  List.countP_eq_zero.mpr fun c hc => by rw [h c hc]; exact Bool.false_ne_true

theorem noAction_body (hplain : call.isPlain) : (w.body t answer call).2.countP Call.isAction = 0 := by
  cases call with
  | dispatch | action | notifyThreadWorker => cases hplain
  | startEach =>
    refine countP_isAction_eq_zero fun c hc => ?_
    obtain ⟨surface, -, hc⟩ := List.mem_flatMap.mp hc
    rcases List.mem_cons.mp hc with rfl | hc
    · rfl
    · obtain rfl := List.mem_singleton.mp hc
      rfl
  | stopEach =>
    refine countP_isAction_eq_zero fun c hc => ?_
    simp only [World.body] at hc
    split at hc
    · obtain ⟨surface, -, rfl⟩ := List.mem_map.mp hc
      rfl
    · cases hc
  | releaseEach =>
    refine countP_isAction_eq_zero fun c hc => ?_
    rcases List.mem_append.mp hc with hc | hc
    · obtain ⟨surface, -, rfl⟩ := List.mem_map.mp hc
      rfl
    · obtain rfl := List.mem_singleton.mp hc
      rfl
  | notifyReceivers =>
    refine countP_isAction_eq_zero fun c hc => ?_
    simp only [World.body] at hc
    split at hc
    · obtain ⟨r, -, rfl⟩ := List.mem_map.mp hc
      rfl
    · cases hc
  | _ =>
    simp only [World.body, World.append, World.remove, World.videoStart, World.playerStart,
      World.prepare, World.requestRead, World.process, World.awaitInput]
    repeat' split
    all_goals rfl

theorem run_body (htodo : (w.threads t).todo = call :: rest) (hlock : ∀ m, call ≠ .lock m)
    (hunlock : ∀ m, call ≠ .unlock m) (hsleep : ∀ r, call ≠ .sleep r) :
    w.run t answer =
      (w.body t answer call).1.setThread t ⟨(w.threads t).held, (w.body t answer call).2 ++ rest⟩ := by
  simp only [World.run, htodo]

theorem runs_body (htodo : (w.threads t).todo = call :: rest) (hstart : ∀ r, call ≠ .startThread r) :
    Runs w t call (w.body t answer call).1 (w.body t answer call).2 rest where
  todo := htodo
  threads := threads_body hstart
  frame := frame_body hstart
  isBody := w.isBody_body t answer call
  head _ hc hstage := stage_body hc hstage
  test r hcall hblock := by
    subst hcall
    exact if_pos hblock
  playThread r hcall hrunning := by
    subst hcall
    exact if_neg (by simp [hrunning])
  take r hcall := by
    subst hcall
    rfl
  stops r hcall := by
    subst hcall
    simp only [World.body, World.setPlayer, Function.update_self]
  unblocks r hcall := by
    subst hcall
    simp only [World.body, World.setPlayer, Function.update_self]
  wakes r hcall := by
    subst hcall
    simp only [World.body, World.setPlayer, Function.update_self]

namespace Runs

/-- The lock operations still to come are those that the dispatcher expects. -/
theorem counted (h : Runs w t call w' calls rest) (hw : Kept w)
    (hself : calls.countP Call.isAction + rest.countP Call.isAction = (w'.dispatcher t).todo.length)
    (hother : ∀ u, u ≠ t → w'.dispatcher u = w.dispatcher u) (u : ThreadId ι) :
    ((w'.setThread t ⟨held, calls ++ rest⟩).threads u).todo.countP Call.isAction =
      (w'.dispatcher u).todo.length := by
  by_cases hu : u = t
  · subst hu
    rw [setThread_self, List.countP_append]
    exact hself
  · rw [h.threads_other hu, hother u hu]
    exact hw.counted u

omit [DecidableEq ι] in
/-- A call that makes no calls. -/
theorem last (htodo : (w.threads t).todo = call :: rest) (hstage : call.stage = none)
    (hframe : Frame w call w') (hthreads : w'.threads = w.threads) : Runs w t call w' [] rest where
  todo := htodo
  threads := hthreads
  frame := hframe
  isBody := rfl
  head _ h := by cases h
  test _ _ _ := rfl
  playThread _ _ _ := rfl
  take _ _ := rfl
  stops r hcall := by
    subst hcall
    cases hstage
  unblocks r hcall := by
    subst hcall
    cases hstage
  wakes r hcall := by
    subst hcall
    cases hstage

end Runs

namespace Kept

theorem nested_of_todo (hw : Kept w) (htodo : (w.threads t).todo = call :: rest) :
    Nested (w.threads t).held (call :: rest) :=
  htodo ▸ hw.nested t

theorem counted_action (hw : Kept w) (htodo : (w.threads t).todo = .action :: rest) :
    (w.dispatcher t).todo.length = rest.countP Call.isAction + 1 := by
  rw [← hw.counted t, htodo]
  exact List.countP_cons_of_pos rfl

theorem counted_other (hw : Kept w) (htodo : (w.threads t).todo = call :: rest) (hcall : call.isAction = false) :
    0 + rest.countP Call.isAction = (w.dispatcher t).todo.length := by
  rw [← hw.counted t, htodo, Nat.zero_add]
  exact (List.countP_cons_of_neg (by rw [hcall]; exact Bool.false_ne_true)).symm

/-- A call in front of which only lock operations of the dispatcher may stand finds it idle. -/
theorem dispatcher_idle (hw : Kept w) (htodo : (w.threads t).todo = call :: rest)
    (hcall : call.inDispatcher = false) : w.dispatcher t = .idle := by
  have hno : rest.countP Call.isAction = 0 := by
    refine countP_isAction_eq_zero fun d hd => ?_
    have hbefore := hw.before_of_todo htodo d hd
    simp only [Call.before, hcall, Bool.false_or, Bool.and_eq_true, Bool.not_eq_true'] at hbefore
    exact hbefore.2
  have haction : call.isAction = false := by
    cases call <;> first | rfl | cases hcall
  have hcount := hw.counted_other htodo haction
  rw [hno] at hcount
  have hempty : (w.dispatcher t).todo = [] := List.eq_nil_of_length_eq_zero hcount.symm
  have hnested := hw.sound.wellNested t
  rw [hempty] at hnested
  rcases hthread : w.dispatcher t with ⟨held, todo⟩
  rw [hthread] at hempty hnested
  cases hempty
  cases hnested
  rfl

theorem lock {m : Mutex} (hw : Kept w) (htodo : (w.threads t).todo = .lock m :: rest)
    (hready : w.Ready t answer (.lock m)) : Kept (w.run t answer) := by
  have hrun : w.run t answer = w.setThread t ⟨m :: (w.threads t).held, [] ++ rest⟩ := by
    simp only [World.run, htodo, List.nil_append]
  have hruns : Runs w t (.lock m) w [] rest := .last htodo rfl (.of_players rfl) rfl
  rw [hrun]
  refine hruns.kept hw (fun _ => Call.noConfusion) (fun _ => Call.noConfusion) hw.silent
    (List.forall_mem_nil _) (hw.nested_of_todo htodo).2 ?_
    (hruns.counted hw (hw.counted_other htodo rfl) fun _ _ => rfl) hw.sound hw.apart
  intro l hl
  rcases List.mem_cons.mp hl with rfl | hl
  · exact .inr hready
  · exact .inl hl

theorem unlock {m : Mutex} (hw : Kept w) (htodo : (w.threads t).todo = .unlock m :: rest) :
    Kept (w.run t answer) := by
  obtain ⟨held, hheld, hnested⟩ := hw.nested_of_todo htodo
  have hrun : w.run t answer = w.setThread t ⟨held, [] ++ rest⟩ := by
    simp only [World.run, htodo, hheld, List.erase_cons_head, List.nil_append]
  have hruns : Runs w t (.unlock m) w [] rest := .last htodo rfl (.of_players rfl) rfl
  rw [hrun]
  refine hruns.kept hw (fun _ => Call.noConfusion) (fun _ => Call.noConfusion) hw.silent
    (List.forall_mem_nil _) hnested ?_
    (hruns.counted hw (hw.counted_other htodo rfl) fun _ _ => rfl) hw.sound hw.apart
  intro l hl
  exact .inl (by rw [hheld]; exact List.mem_cons_of_mem _ hl)

theorem sleep (hw : Kept w) (htodo : (w.threads t).todo = .sleep r :: rest) : Kept (w.run t answer) := by
  obtain ⟨held, hheld, hnested⟩ := hw.nested_of_todo htodo
  have hrun : w.run t answer =
      (w.setPlayer r { w.players r with waiting := true }).setThread t ⟨held, [] ++ rest⟩ := by
    simp only [World.run, htodo, hheld, List.erase_cons_head, List.nil_append]
  have hframe : Frame w (.sleep r) (w.setPlayer r { w.players r with waiting := true }) :=
    .of_update rfl .inl .inl (fun _ => .inr rfl) .inl
  have hruns : Runs w t (.sleep r) (w.setPlayer r { w.players r with waiting := true }) [] rest :=
    .last htodo rfl hframe rfl
  have hsilent : (w.setPlayer r { w.players r with waiting := true }).Silent :=
    hw.silent.setPlayer (fun h => by rw [h]; exact hw.silent.running)
      fun h => by rw [h]; exact hw.silent.hasThread
  rw [hrun]
  refine hruns.kept hw (fun _ => Call.noConfusion) (fun _ => Call.noConfusion) hsilent
    (List.forall_mem_nil _) hnested ?_
    (hruns.counted hw (hw.counted_other htodo rfl) fun _ _ => rfl) hw.sound hw.apart
  intro l hl
  exact .inl (by rw [hheld]; exact List.mem_cons_of_mem _ hl)

/-- The calls of a body, with the dispatcher as its thread leaves it. -/
theorem runBody (hw : Kept w) (htodo : (w.threads t).todo = call :: rest) (hf : call.Fits (w.threads t).held)
    (hready : w.Ready t answer call) (ho : w.Orderly (.run t answer)) (hstart : ∀ r, call ≠ .startThread r)
    (hself : (w.body t answer call).2.countP Call.isAction + rest.countP Call.isAction =
      ((w.body t answer call).1.dispatcher t).todo.length)
    (hother : ∀ u, u ≠ t → (w.body t answer call).1.dispatcher u = w.dispatcher u)
    (hsound : Sound policy (w.body t answer call).1.dispatcher)
    (hapart : Apart (w.body t answer call).1.dispatcher) : Kept (w.run t answer) := by
  have hnext : w.Next t call := next_of_todo htodo
  have hprepare : call = .prepare → answer ≠ .succeeds := fun h => ho.1 (h ▸ hnext)
  have hnested := (nested_cons hf).mp (hw.nested_of_todo htodo)
  have hruns : Runs w t call (w.body t answer call).1 (w.body t answer call).2 rest := runs_body htodo hstart
  rw [run_body htodo (fun m h => by subst h; exact hf) (fun m h => by subst h; exact hf)
    (fun r h => by subst h; exact hf)]
  refine hruns.kept hw (fun r h => ho.2.2 r (h ▸ hnext)) (fun r h => by subst h; exact hready)
    (silent_body hw.silent hf hprepare) (belongs_body (hw.belongs_of_next hnext))
    (returns_body hw.silent hf hprepare _ hnested.2) (fun m hm => .inl hm) (hruns.counted hw hself hother)
    hsound hapart

theorem plain (hw : Kept w) (htodo : (w.threads t).todo = call :: rest) (hplain : call.isPlain)
    (hready : w.Ready t answer call) (ho : w.Orderly (.run t answer)) : Kept (w.run t answer) := by
  have hstart : ∀ r, call ≠ .startThread r := fun r h => by subst h; cases hplain
  have hf : call.Fits (w.threads t).held := by
    have hnested := hw.nested_of_todo htodo
    cases call <;> first | exact hnested.1 | cases hplain
  have haction : call.isAction = false := by
    cases call <;> first | rfl | cases hplain
  have hdispatcher : (w.body t answer call).1.dispatcher = w.dispatcher := dispatcher_body hplain
  refine hw.runBody htodo hf hready ho hstart ?_ (fun u _ => by rw [hdispatcher]) ?_ ?_
  · rw [noAction_body hplain, hdispatcher]
    exact hw.counted_other htodo haction
  · rw [hdispatcher]
    exact hw.sound
  · rw [hdispatcher]
    exact hw.apart

/-- The thread performs the operation that is next, which it is granted. -/
theorem step_nextAction {s : State (ThreadId ι) DispatcherMutex} (hs : Sound policy s)
    (hne : (s t).todo ≠ [])
    (hgrant : ∀ l m path, (s t).todo = .acquire l m :: path → Grantable s l m) :
    Step operations t s (Function.update s t (nextAction (s t))) := by
  have hnested := hs.wellNested t
  rcases hthread : s t with ⟨held, todo⟩
  rw [hthread] at hne hnested
  match todo with
  | [] => exact absurd rfl hne
  | .acquire l m :: path => exact .acquire hthread (hgrant l m path (by rw [hthread]))
  | .release l :: path =>
    obtain ⟨m, held', rfl, -⟩ := hnested
    exact .release hthread

theorem action (hw : Kept w) (htodo : (w.threads t).todo = .action :: rest)
    (hready : w.Ready t answer .action) (ho : w.Orderly (.run t answer)) : Kept (w.run t answer) := by
  have hcount := hw.counted_action htodo
  have hne : (w.dispatcher t).todo ≠ [] := by
    intro hnil
    rw [hnil] at hcount
    cases hcount
  have hstep := step_nextAction hw.sound hne hready
  refine hw.runBody htodo (hw.nested_of_todo htodo).1 hready ho (fun _ => Call.noConfusion) ?_
    (fun u hu => Function.update_of_ne hu _ _) (hw.sound.step runs_operations hstep)
    (hw.apart.step hw.sound (ho.2.1 (next_of_todo htodo)) hstep)
  have hself : ((w.body t answer .action).1.dispatcher t) = nextAction (w.dispatcher t) :=
    Function.update_self ..
  rw [hself]
  show 0 + _ = _
  rw [Nat.zero_add]
  rcases hthread : w.dispatcher t with ⟨held, todo⟩
  rw [hthread] at hcount hne
  match todo with
  | [] => exact absurd rfl hne
  | .acquire l m :: path => exact (Nat.succ.inj hcount).symm
  | .release l :: path => exact (Nat.succ.inj hcount).symm

/-- A thread whose dispatcher calls are over begins the next one. -/
theorem begins (hw : Kept w) (htodo : (w.threads t).todo = call :: rest) (hcall : call.inDispatcher = false)
    (hf : call.Fits (w.threads t).held) (hready : w.Ready t answer call) (ho : w.Orderly (.run t answer))
    (hstart : ∀ r, call ≠ .startThread r) {path : List (Action DispatcherMutex)} (hpath : path ∈ operations)
    (hdispatcher : (w.body t answer call).1.dispatcher = (w.setDispatcher t ⟨[], path⟩).dispatcher)
    (hcount : (w.body t answer call).2.countP Call.isAction = path.length) : Kept (w.run t answer) := by
  have hidle := hw.dispatcher_idle htodo hcall
  have hstep : Step operations t w.dispatcher (w.body t answer call).1.dispatcher := by
    rw [hdispatcher]
    exact .start hidle hpath
  have hsep : Separated w.dispatcher t := by
    constructor
    · intro m m' path h
      rw [hidle] at h
      cases h
    · intro m m' path h
      rw [hidle] at h
      cases h
  have haction : call.isAction = false := by
    cases call <;> first | rfl | cases hcall
  have hrest := hw.counted_other htodo haction
  rw [hidle, Nat.zero_add] at hrest
  refine hw.runBody htodo hf hready ho hstart ?_ (fun u hu => ?_) (hw.sound.step runs_operations hstep)
    (hw.apart.step hw.sound hsep hstep)
  · rw [hcount, hrest, hdispatcher, World.setDispatcher]
    simp [LockSystem.Thread.idle]
  · rw [hdispatcher]
    exact Function.update_of_ne hu _ _

theorem dispatch {op : Operation} (hw : Kept w) (htodo : (w.threads t).todo = .dispatch op :: rest)
    (hready : w.Ready t answer (.dispatch op)) (ho : w.Orderly (.run t answer)) : Kept (w.run t answer) := by
  obtain ⟨path, hpath, rfl⟩ := id hready
  refine hw.begins htodo rfl (hw.nested_of_todo htodo).1 hready ho
    (fun _ => Call.noConfusion) (op.paths_le hpath) rfl ?_
  show (List.replicate path.length Call.action).countP Call.isAction = _
  rw [List.countP_replicate]
  exact if_pos rfl

theorem notifyThreadWorker (hw : Kept w) (htodo : (w.threads t).todo = .notifyThreadWorker :: rest)
    (hready : w.Ready t answer .notifyThreadWorker) (ho : w.Orderly (.run t answer)) : Kept (w.run t answer) :=
  hw.begins htodo rfl (hw.nested_of_todo htodo).1 hready ho (fun _ => Call.noConfusion) workerPath_mem rfl rfl

/-- A controller that has a play thread keeps what it had without one. -/
theorem setHasThread (hw : Kept w) (k : Nat) :
    Kept (w.setPlayer (.video k) { w.players (.video k) with hasThread := true }) := by
  have hsame : ∀ r, let player := (w.setPlayer (.video k) { w.players (.video k) with hasThread := true }).players r
      player.running = (w.players r).running ∧ player.nonBlock = (w.players r).nonBlock ∧
        player.waiting = (w.players r).waiting := by
    intro r
    by_cases hr : r = .video k
    · subst hr
      simp only [setPlayer, Function.update_self, and_self]
    · simp only [setPlayer, Function.update_of_ne hr, and_self]
  have hunlocked : ∀ l, w.Unlocked l →
      (w.setPlayer (.video k) { w.players (.video k) with hasThread := true }).Unlocked l :=
    fun l h => ⟨(hsame _).1.trans h.1, fun hpending => (hsame _).2.1.trans (h.2 hpending)⟩
  have hleaving : ∀ l, w.Leaving l →
      (w.setPlayer (.video k) { w.players (.video k) with hasThread := true }).Leaving l :=
    fun l h => ⟨hunlocked l h.unlocked, (hsame _).2.2.trans h.notWaiting, h.notSleeping⟩
  exact {
    silent := hw.silent.setPlayer Receiver.noConfusion Receiver.noConfusion
    nested := hw.nested
    ordered := hw.ordered
    belongs := hw.belongs
    exclusive := hw.exclusive
    counted := hw.counted
    sound := hw.sound
    apart := hw.apart
    idle := fun r hr => by
      by_cases hk : r = .video k
      · subst hk
        simp only [setPlayer, Function.update_self, Bool.true_eq_false] at hr
      · simp only [setPlayer, Function.update_of_ne hk] at hr
        exact hw.idle r hr
    stopped := fun u l => ⟨fun h => (hsame _).1.trans ((hw.stopped u l).notifyReadStop h),
      fun h => hunlocked l ((hw.stopped u l).notifyAll h),
      fun h => hleaving l ((hw.stopped u l).stopThread h), fun h => hleaving l ((hw.stopped u l).join h)⟩ }

/-- An idle thread is given a call. -/
theorem given (hw : Kept w) (hidle : w.Idle t) (hf : call.Fits []) (hbelongs : call.Belongs t)
    (hstage : call.isStage = false) (hpending : call.isPending = false) (haction : call.isAction = false)
    (hthread : ∀ r, t = .player r → (w.players r).hasThread) : Kept (w.setThread t ⟨[], [call]⟩) := by
  have hheld : (w.threads t).held = [] := by
    have hnested := hw.nested t
    rwa [hidle] at hnested
  have hholds : ∀ u m, (w.setThread t ⟨[], [call]⟩).Holds u m → w.Holds u m := by
    intro u m hm
    by_cases hu : u = t
    · subst hu
      rw [Holds, setThread_self] at hm
      cases hm
    · rwa [Holds, setThread_other hu] at hm
  have hnext : ∀ u c, c.isStage → (w.setThread t ⟨[], [call]⟩).Next u c → w.Next u c := by
    intro u c hc h
    by_cases hu : u = t
    · subst hu
      rw [Next, setThread_self, List.head?_cons, Option.some.injEq] at h
      rw [← h, hstage] at hc
      cases hc
    · rwa [Next, setThread_other hu] at h
  have hunlocked : ∀ k, w.Unlocked k → (w.setThread t ⟨[], [call]⟩).Unlocked k := by
    rintro k ⟨hrunning, hblock⟩
    refine ⟨hrunning, fun hblocked => ?_⟩
    obtain ⟨c, hc, hpends⟩ := hblocked
    by_cases hp : ThreadId.player (.video k) = t
    · subst hp
      rw [setThread_self] at hc
      obtain rfl := List.mem_singleton.mp hc
      rw [hpending] at hpends
      cases hpends
    · rw [setThread_other hp] at hc
      exact hblock ⟨c, hc, hpends⟩
  have hleaving : ∀ k, w.Leaving k → (w.setThread t ⟨[], [call]⟩).Leaving k := fun k h =>
    ⟨hunlocked k h.unlocked, h.notWaiting, fun hsleep => h.notSleeping (hnext _ _ rfl hsleep)⟩
  refine ⟨⟨hw.silent.1, hw.silent.2, hw.silent.3, hw.silent.4, hw.silent.5⟩, fun u => ?_, fun u => ?_,
    fun u => ?_, fun u v m hu hv => hw.exclusive u v m (hholds u m hu) (hholds v m hv), fun u => ?_,
    hw.sound, hw.apart, fun r hr => ?_, fun u k => ?_⟩
  · by_cases hu : u = t
    · subst hu
      rw [setThread_self]
      exact (nested_cons hf).mpr ⟨hf, rfl⟩
    · rw [setThread_other hu]
      exact hw.nested u
  · by_cases hu : u = t
    · subst hu
      rw [setThread_self]
      exact List.pairwise_singleton _ _
    · rw [setThread_other hu]
      exact hw.ordered u
  · by_cases hu : u = t
    · subst hu
      rw [setThread_self]
      intro c hc
      obtain rfl := List.mem_singleton.mp hc
      exact hbelongs
    · rw [setThread_other hu]
      exact hw.belongs u
  · by_cases hu : u = t
    · subst hu
      have hold := hw.counted u
      rw [hidle, List.countP_nil] at hold
      rw [setThread_self]
      exact (List.countP_cons_of_neg (by rw [haction]; exact Bool.false_ne_true)).trans hold
    · rw [setThread_other hu]
      exact hw.counted u
  · have hp : ThreadId.player r ≠ t := by
      intro h
      have hhas := hthread r h.symm
      rw [show (w.players r).hasThread = false from hr] at hhas
      cases hhas
    rw [Idle, setThread_other hp]
    exact hw.idle r hr
  · have hold := hw.stopped u k
    exact ⟨fun h => hold.notifyReadStop (hnext u _ rfl h), fun h => hunlocked k (hold.notifyAll (hnext u _ rfl h)),
      fun h => hleaving k (hold.stopThread (hnext u _ rfl h)), fun h => hleaving k (hold.join (hnext u _ rfl h))⟩

theorem startThread (hw : Kept w) (htodo : (w.threads t).todo = .startThread r :: rest) :
    Kept (w.run t answer) := by
  have hfits := (hw.nested_of_todo htodo).1
  obtain ⟨k, rfl⟩ : ∃ k, r = .video k := by
    cases r with
    | audio => exact absurd hfits.2.2 Bool.noConfusion
    | video k => exact ⟨k, rfl⟩
  have hruns : Runs w t (.startThread (.video k)) w [] rest := .last htodo rfl (.of_players rfl) rfl
  have hpop : Kept (w.setThread t ⟨(w.threads t).held, [] ++ rest⟩) :=
    hruns.kept hw (fun _ => Call.noConfusion) (fun _ => Call.noConfusion) hw.silent
      (List.forall_mem_nil _) (hw.nested_of_todo htodo).2 (fun m hm => .inl hm)
      (hruns.counted hw (hw.counted_other htodo rfl) fun _ _ => rfl) hw.sound hw.apart
  have hrun : w.run t answer = (w.startThread (.video k)).setThread t ⟨(w.threads t).held, [] ++ rest⟩ :=
    run_body htodo (fun _ => Call.noConfusion) (fun _ => Call.noConfusion) fun _ => Call.noConfusion
  rw [hrun, World.startThread]
  split
  · exact hpop
  · rename_i hno
    have hp : ThreadId.player (.video k) ≠ t := (hw.not_player (next_of_todo htodo) rfl _).symm
    have hidle : w.Idle (.player (.video k)) := hw.idle _ (Bool.not_eq_true _ ▸ hno)
    have hflag := hpop.setHasThread k
    have hcomm : ∀ p th th', ((w.setPlayer (.video k) p).setThread (.player (.video k)) th).setThread t th' =
        ((w.setThread t th').setPlayer (.video k) p).setThread (.player (.video k)) th := by
      intro p th th'
      simp only [setThread, setPlayer, Function.update_comm hp]
    rw [hcomm]
    refine hflag.given ?_ ⟨Nat.zero_le _, Bool.noConfusion, rfl⟩
      ⟨fun r hr => by cases hr; rfl, fun r hr => rfl⟩ rfl rfl rfl ?_
    · show ((w.setThread t _).threads _).todo = []
      rw [setThread_other hp]
      exact hidle
    · rintro r hr
      cases hr
      simp only [setPlayer, Function.update_self]

theorem run (hw : Kept w) (he : w.Enabled (.run t answer)) (ho : w.Orderly (.run t answer)) :
    Kept (w.run t answer) := by
  obtain ⟨call, hnext, hready⟩ := he
  obtain ⟨rest, htodo⟩ := exists_todo hnext
  cases call with
  | lock m => exact hw.lock htodo hready
  | unlock m => exact hw.unlock htodo
  | sleep r => exact hw.sleep htodo
  | startThread r => exact hw.startThread htodo
  | dispatch op => exact hw.dispatch htodo hready ho
  | action => exact hw.action htodo hready ho
  | notifyThreadWorker => exact hw.notifyThreadWorker htodo hready ho
  | _ => exact hw.plain htodo rfl hready ho

theorem enter {t : ι} (hw : Kept w) (he : w.Enabled (.call t call)) : Kept (w.next (.call t call)) := by
  obtain ⟨hidle, hentry, -⟩ := he
  have hkind : call.isStage = false ∧ call.isPending = false ∧ call.isAction = false ∧ call.reader = none := by
    cases call <;> first | exact ⟨rfl, rfl, rfl, rfl⟩ | cases hentry
  have hf : call.Fits [] := by
    cases call with
    | start | stop | release | appendSurface | removeSurface | setVolume | onInputBufferAvailable
    | onOutputBufferAvailable | onInterrupt | notifyThreadWorker | dispatch =>
      exact ⟨Nat.zero_le _, Bool.noConfusion, rfl⟩
    | _ => cases hentry
  refine hw.given hidle hf ⟨fun r hr => ?_, fun _ h => by cases h⟩ hkind.1 hkind.2.1 hkind.2.2.1 fun _ h => by cases h
  rw [hkind.2.2.2] at hr
  cases hr

theorem next {act : Act ι} (hw : Kept w) (he : w.Enabled act) (ho : w.Orderly act) : Kept (w.next act) := by
  cases act with
  | run t answer => exact hw.run he ho
  | call t call => exact hw.enter he

theorem initial (hasAudio hasPlayer : Bool) : Kept ({ hasAudio, hasPlayer } : World ι) where
  silent := ⟨rfl, rfl, rfl, rfl, rfl⟩
  nested _ := rfl
  ordered _ := .nil
  belongs _ := List.forall_mem_nil _
  exclusive _ _ _ h := by cases h
  counted _ := rfl
  sound := .idle
  apart := .idle
  idle _ _ := rfl
  stopped _ _ := by constructor <;> (intro h; cases h)

end Kept

end World

end SinkPlayer

end WifiDisplay
