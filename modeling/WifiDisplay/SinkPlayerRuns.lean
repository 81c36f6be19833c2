import WifiDisplay.SinkPlayerCalls

/-! The sink player does not hang itself, as long as it creates no renderer, the dispatcher's
mutexes are taken apart and no notification is lost. -/

namespace WifiDisplay

namespace SinkPlayer

open LockSystem DispatcherLocks

namespace World

variable {ι : Type}

/-- The play thread does not begin another read, and a read it has begun will not wait. -/
def Unlocked (w : World ι) (k : Nat) : Prop :=
  (w.players (.video k)).running = false ∧
    ((∃ c ∈ (w.threads (.player (.video k))).todo, c.isPending) → (w.players (.video k)).nonBlock)

/-- Nor does it wait now. -/
structure Leaving (w : World ι) (k : Nat) : Prop where
  unlocked : w.Unlocked k
  notWaiting : (w.players (.video k)).waiting = false
  notSleeping : ¬ w.Next (.player (.video k)) (.sleep (.video k))

/-- What holds of the play thread while another thread stops it. -/
structure Stopped (w : World ι) (t : ThreadId ι) (k : Nat) : Prop where
  notifyReadStop : w.Next t (.notifyReadStop (.video k)) → (w.players (.video k)).running = false
  notifyAll : w.Next t (.notifyAll (.video k)) → w.Unlocked k
  stopThread : w.Next t (.stopThread (.video k)) → w.Leaving k
  join : w.Next t (.join (.video k)) → w.Leaving k

structure Kept [DecidableEq ι] (w : World ι) : Prop where
  silent : w.Silent
  nested : ∀ t, Nested (w.threads t).held (w.threads t).todo
  ordered : ∀ t, (w.threads t).todo.Pairwise fun c d => c.before d
  belongs : ∀ t, ∀ c ∈ (w.threads t).todo, c.Belongs t
  exclusive : ∀ t u m, w.Holds t m → w.Holds u m → t = u
  counted : ∀ t, (w.threads t).todo.countP Call.isAction = (w.dispatcher t).todo.length
  sound : Sound policy w.dispatcher
  apart : Apart w.dispatcher
  idle : ∀ r, (w.players r).hasThread = false → w.Idle (.player r)
  stopped : ∀ t k, w.Stopped t k

variable [DecidableEq ι] {w w' : World ι} {t u : ThreadId ι} {answer : Answer} {call c : Call}
  {calls rest : List Call} {held : List Mutex} {k : Nat}

omit [DecidableEq ι] in
theorem next_of_todo (htodo : (w.threads t).todo = call :: rest) : w.Next t call := by
  rw [Next, htodo]
  rfl

omit [DecidableEq ι] in
theorem exists_todo (h : w.Next t call) : ∃ rest, (w.threads t).todo = call :: rest :=
  (List.head?_eq_some_iff.mp h)

theorem setThread_self (thread : Thread) : (w.setThread t thread).threads t = thread :=
  Function.update_self ..

theorem setThread_other (hu : u ≠ t) (thread : Thread) :
    (w.setThread t thread).threads u = w.threads u :=
  Function.update_of_ne hu ..

namespace Kept

theorem before_of_todo (hw : Kept w) (htodo : (w.threads t).todo = call :: rest) :
    ∀ d ∈ rest, call.before d := by
  have h := hw.ordered t
  rw [htodo] at h
  exact (List.pairwise_cons.mp h).1

theorem belongs_of_next (hw : Kept w) (h : w.Next t call) : call.Belongs t :=
  hw.belongs t call (List.mem_of_mem_head? h)

/-- A call of a play thread is made on this thread. -/
theorem eq_player (hw : Kept w) (h : w.Next t call) {r : Receiver} (hr : call.reader = some r) :
    t = .player r :=
  (hw.belongs_of_next h).1 r hr

theorem not_player (hw : Kept w) (h : w.Next t call) (hp : call.isPlayers = false) (r : Receiver) :
    t ≠ .player r := by
  intro ht
  have hplayers := (hw.belongs_of_next h).2 r ht
  rw [hp] at hplayers
  cases hplayers

theorem holds_playVideo (hw : Kept w) (h : w.Next t call) (hscope : call.inVideoScope) :
    w.Holds t .playVideoMutex := by
  obtain ⟨rest, htodo⟩ := exists_todo h
  have hnested := hw.nested t
  rw [htodo] at hnested
  cases call <;> first | exact hnested.1.2.1 hscope | cases hscope

/-- The threads whose next call belongs to the scope of `playVideoMutex_` are one. -/
theorem eq_of_inVideoScope (hw : Kept w) {d : Call} (ht : w.Next t call) (hu : w.Next u d)
    (hcall : call.inVideoScope) (hd : d.inVideoScope) : t = u :=
  hw.exclusive t u _ (hw.holds_playVideo ht hcall) (hw.holds_playVideo hu hd)

end Kept

/-- A call of thread `t` is replaced by the calls of its body. -/
structure Runs (w : World ι) (t : ThreadId ι) (call : Call) (w' : World ι) (calls rest : List Call) :
    Prop where
  todo : (w.threads t).todo = call :: rest
  threads : w'.threads = w.threads
  frame : Frame w call w'
  isBody : isBody call calls
  head : ∀ c, calls.head? = some c → c.isStage → call.stage = some c
  test : ∀ r, call = .test r → (w.players r).nonBlock → calls = []
  playThread : ∀ r, call = .playThread r → (w.players r).running = false → calls = []
  take : ∀ r, call = .take r → calls = []
  stops : ∀ r, call = .stopReading r → (w'.players r).running = false
  unblocks : ∀ r, call = .notifyReadStop r → (w'.players r).nonBlock
  wakes : ∀ r, call = .notifyAll r → (w'.players r).waiting = false

namespace Runs

omit [DecidableEq ι] in
theorem next (h : Runs w t call w' calls rest) : w.Next t call := next_of_todo h.todo

theorem threads_other (h : Runs w t call w' calls rest) (hu : u ≠ t) :
    (w'.setThread t ⟨held, calls ++ rest⟩).threads u = w.threads u := by
  rw [setThread_other hu, h.threads]

/-- What comes to the head of the thread is not left over from another call. -/
theorem stage_of_next (h : Runs w t call w' calls rest) (hw : Kept w)
    (hnext : (w'.setThread t ⟨held, calls ++ rest⟩).Next t c) (hc : c.isStage) :
    call.stage = some c ∧ calls ≠ [] := by
  rw [Next, setThread_self] at hnext
  cases calls with
  | nil =>
    have hbefore := hw.before_of_todo h.todo c (List.mem_of_mem_head? hnext)
    simp [Call.before, hc] at hbefore
  | cons d calls => exact ⟨h.head c hnext hc, List.cons_ne_nil _ _⟩

theorem unlocked (h : Runs w t call w' calls rest) (hw : Kept w) (hu : w.Unlocked k)
    (hstart : call ≠ .videoStart k) : (w'.setThread t ⟨held, calls ++ rest⟩).Unlocked k := by
  have hrunning : (w'.players (.video k)).running = false := by
    cases hr : (w'.players (.video k)).running with
    | false => rfl
    | true =>
      rcases h.frame.running k hr with h' | h'
      · rw [hu.1] at h'
        cases h'
      · exact absurd h' hstart
  refine ⟨hrunning, fun ⟨c, hc, hpending⟩ => ?_⟩
  -- a read that will test was there before, and the step does not take the notification back
  have hbefore : (∃ c ∈ (w.threads (.player (.video k))).todo, c.isPending) ∧ call ≠ .take (.video k) := by
    by_cases ht : ThreadId.player (.video k) = t
    · subst ht
      rw [setThread_self] at hc
      have hreading : c.isReading := by cases c <;> first | rfl | cases hpending
      rcases List.mem_append.mp hc with hc | hc
      · have hleads := leads_of_isBody h.isBody c hc
        simp only [Call.leads, hreading, Bool.and_eq_true, Bool.not_true, Bool.false_or] at hleads
        have hcall : call.isReading := hleads.1.1.1.1
        have hown := (hw.belongs_of_next h.next).1
        have hmem : call ∈ (w.threads (.player (.video k))).todo := List.mem_of_mem_head? h.next
        have hne : calls ≠ [] := List.ne_nil_of_mem hc
        cases call with
        | playThread r =>
          obtain rfl : Receiver.video k = r := ThreadId.player.inj (hown r rfl)
          exact absurd (h.playThread _ rfl hu.1) hne
        | requestRead r => exact ⟨⟨_, hmem, rfl⟩, Call.noConfusion⟩
        | test r => exact ⟨⟨_, hmem, rfl⟩, Call.noConfusion⟩
        | take r => exact absurd (h.take r rfl) hne
        | _ => cases hcall
      · refine ⟨⟨c, by rw [h.todo]; exact List.mem_cons_of_mem _ hc, hpending⟩, ?_⟩
        rintro rfl
        have hbefore := hw.before_of_todo h.todo c hc
        simp [Call.before, Call.isReading, hpending] at hbefore
    · rw [h.threads_other ht] at hc
      refine ⟨⟨c, hc, hpending⟩, ?_⟩
      rintro rfl
      exact ht (hw.eq_player h.next rfl).symm
  cases hn : (w'.players (.video k)).nonBlock with
  | true => exact hn
  | false =>
    rcases h.frame.nonBlock _ hn with h' | h'
    · rw [hu.2 hbefore.1] at h'
      cases h'
    · exact absurd h' hbefore.2

theorem leaving (h : Runs w t call w' calls rest) (hw : Kept w) (hl : w.Leaving k)
    (hstart : call ≠ .videoStart k) : (w'.setThread t ⟨held, calls ++ rest⟩).Leaving k where
  unlocked := h.unlocked hw hl.unlocked hstart
  notWaiting := by
    cases hwait : (w'.players (.video k)).waiting with
    | false => exact hwait
    | true =>
      rcases h.frame.waiting _ hwait with h' | rfl
      · rw [hl.notWaiting] at h'
        cases h'
      · have ht := hw.eq_player h.next (r := .video k) rfl
        exact absurd (ht ▸ h.next) hl.notSleeping
  notSleeping hsleep := by
    by_cases ht : ThreadId.player (.video k) = t
    · subst ht
      obtain ⟨hstage, hne⟩ := h.stage_of_next hw hsleep rfl
      cases call with
      | test r =>
        obtain rfl : r = .video k := by
          simp only [Call.stage, Option.some.injEq, Call.sleep.injEq] at hstage
          exact hstage
        have hmem : Call.test (.video k) ∈ (w.threads (.player (.video k))).todo :=
          List.mem_of_mem_head? h.next
        exact hne (h.test _ rfl (hl.unlocked.2 ⟨_, hmem, rfl⟩))
      | _ => cases hstage
    · rw [Next, h.threads_other ht] at hsleep
      exact hl.notSleeping hsleep

/-- Nobody starts a controller again that another thread stops. -/
theorem not_videoStart (h : Runs w t call w' calls rest) (hw : Kept w) (hu : u ≠ t) (hc : w.Next u c)
    (hscope : c.inVideoScope) : call ≠ .videoStart k := by
  rintro rfl
  exact hu (hw.eq_of_inVideoScope hc h.next hscope rfl)

theorem stopped (h : Runs w t call w' calls rest) (hw : Kept w)
    (hlost : ∀ r, call = .notifyAll r → ¬ w.Next (.player r) (.sleep r)) (u : ThreadId ι) (k : Nat) :
    (w'.setThread t ⟨held, calls ++ rest⟩).Stopped u k := by
  by_cases hu : u = t
  · subst hu
    have hcall : ∀ {c}, (w'.setThread u ⟨held, calls ++ rest⟩).Next u c → c.isStage →
        call.stage = some c := fun hnext hc => (h.stage_of_next hw hnext hc).1
    constructor
    · intro hnext
      have hstage := hcall hnext rfl
      cases call with
      | stopReading r =>
        cases hstage
        exact h.stops _ rfl
      | _ => cases hstage
    · intro hnext
      have hstage := hcall hnext rfl
      cases call with
      | notifyReadStop r =>
        cases hstage
        refine ⟨?_, fun _ => h.unblocks _ rfl⟩
        have hrunning := (hw.stopped u k).notifyReadStop h.next
        cases hr : (w'.players (.video k)).running with
        | false => exact hr
        | true =>
          rcases h.frame.running k hr with h' | h'
          · rw [hrunning] at h'
            cases h'
          · cases h'
      | _ => cases hstage
    · intro hnext
      have hstage := hcall hnext rfl
      cases call with
      | notifyAll r =>
        cases hstage
        refine ⟨h.unlocked hw ((hw.stopped u k).notifyAll h.next) Call.noConfusion, h.wakes _ rfl, fun hsleep => ?_⟩
        rw [Next, h.threads_other (hw.not_player h.next rfl _).symm] at hsleep
        exact hlost _ rfl hsleep
      | _ => cases hstage
    · intro hnext
      have hstage := hcall hnext rfl
      cases call with
      | stopThread r =>
        cases hstage
        exact h.leaving hw ((hw.stopped u k).stopThread h.next) Call.noConfusion
      | _ => cases hstage
  · have hold := hw.stopped u k
    constructor
    all_goals
      intro hnext
      rw [Next, h.threads_other hu] at hnext
    · have hrunning := hold.notifyReadStop hnext
      cases hr : (w'.players (.video k)).running with
      | false => exact hr
      | true =>
        rcases h.frame.running k hr with h' | h'
        · rw [hrunning] at h'
          cases h'
        · exact absurd h' (h.not_videoStart hw hu hnext rfl)
    · exact h.unlocked hw (hold.notifyAll hnext) (h.not_videoStart hw hu hnext rfl)
    · exact h.leaving hw (hold.stopThread hnext) (h.not_videoStart hw hu hnext rfl)
    · exact h.leaving hw (hold.join hnext) (h.not_videoStart hw hu hnext rfl)

/-- The parts of the invariant that the thread's own calls do not decide. -/
theorem kept (h : Runs w t call w' calls rest) (hw : Kept w)
    (hlost : ∀ r, call = .notifyAll r → ¬ w.Next (.player r) (.sleep r))
    (hjoin : ∀ r, call = .join r → w.Idle (.player r)) (hsilent : w'.Silent)
    (hbelongs : ∀ c ∈ calls, c.Belongs t) (hnested : Nested held (calls ++ rest))
    (hheld : ∀ m ∈ held, m ∈ (w.threads t).held ∨ ∀ u, ¬ w.Holds u m)
    (hcounted : ∀ u, ((w'.setThread t ⟨held, calls ++ rest⟩).threads u).todo.countP Call.isAction =
      (w'.dispatcher u).todo.length)
    (hsound : Sound policy w'.dispatcher) (hapart : Apart w'.dispatcher) :
    Kept (w'.setThread t ⟨held, calls ++ rest⟩) where
  silent := ⟨hsilent.playerRunning, hsilent.playerStarts, hsilent.rendererCallback, hsilent.running,
    hsilent.hasThread⟩
  nested u := by
    by_cases hu : u = t
    · subst hu
      simpa only [setThread_self] using hnested
    · rw [h.threads_other hu]
      exact hw.nested u
  ordered u := by
    by_cases hu : u = t
    · subst hu
      rw [setThread_self]
      have hold := hw.ordered u
      rw [h.todo] at hold
      refine List.pairwise_append.mpr ⟨pairwise_of_isBody h.isBody, (List.pairwise_cons.mp hold).2, ?_⟩
      intro c hc d hd
      exact Call.before_of_leads (leads_of_isBody h.isBody c hc) ((List.pairwise_cons.mp hold).1 d hd)
    · rw [h.threads_other hu]
      exact hw.ordered u
  belongs u := by
    by_cases hu : u = t
    · subst hu
      rw [setThread_self]
      intro c hc
      rcases List.mem_append.mp hc with hc | hc
      · exact hbelongs c hc
      · exact hw.belongs u c (by rw [h.todo]; exact List.mem_cons_of_mem _ hc)
    · rw [h.threads_other hu]
      exact hw.belongs u
  exclusive := by
    have hnew : ∀ u m, (w'.setThread t ⟨held, calls ++ rest⟩).Holds u m → u ≠ t → w.Holds u m := by
      intro u m hm hu
      rwa [Holds, h.threads_other hu] at hm
    have hself : ∀ m, (w'.setThread t ⟨held, calls ++ rest⟩).Holds t m → m ∈ held := by
      intro m hm
      rwa [Holds, setThread_self] at hm
    intro u v m hm hm'
    by_cases hu : u = t
    · by_cases hv : v = t
      · rw [hu, hv]
      · subst hu
        have hother := hnew v m hm' hv
        rcases hheld m (hself m hm) with hold | hfree
        · exact hw.exclusive u v m hold hother
        · exact absurd hother (hfree v)
    · by_cases hv : v = t
      · subst hv
        have hother := hnew u m hm hu
        rcases hheld m (hself m hm') with hold | hfree
        · exact hw.exclusive u v m hother hold
        · exact absurd hother (hfree u)
      · exact hw.exclusive u v m (hnew u m hm hu) (hnew v m hm' hv)
  counted := hcounted
  sound := hsound
  apart := hapart
  idle r hr := by
    have hidle : w.Idle (.player r) := by
      rcases h.frame.hasThread r hr with hold | hcall
      · exact hw.idle r hold
      · exact hjoin r hcall
    have ht : ThreadId.player r ≠ t := by
      rintro rfl
      rw [Idle, h.todo] at hidle
      cases hidle
    rw [Idle, h.threads_other ht]
    exact hidle
  stopped := h.stopped hw hlost

end Runs

end World

end SinkPlayer

end WifiDisplay
