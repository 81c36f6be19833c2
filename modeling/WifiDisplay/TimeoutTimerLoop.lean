import Mathlib.Data.BitVec
import WifiDisplay.EventLog
import WifiDisplay.GuardedRuns

/-! `TimeoutTimer`: the calls of its owner and the thread in `MainLoop`, one section
under `taskMutex_` at a time, against a one-shot timer. -/

namespace WifiDisplay

namespace TimeoutTimerLoop

variable {C : Type}

inductive State where
  | init
  | waiting
  | working
  | cancelled
  | exited
  deriving DecidableEq, Repr

/-- Where `MainLoop` stands while it does not hold the mutex. -/
inductive MainLoop where
  | top
  | taskWait
  | taskNotified
  | cancelWait (timeout : BitVec 32)
  | cancelOver
  | done
  deriving DecidableEq, Repr

structure Timer (C : Type) where
  reuse : Bool := false
  timeout : BitVec 32 := 0
  callback : Option C := none
  state : State := .init
  mainLoop : MainLoop := .top

namespace Timer

variable (t : Timer C)

/-- `taskSignal_.notify_all()`, which only a thread in the wait hears. -/
def notifyTask : Timer C :=
  match t.mainLoop with
  | .taskWait => { t with mainLoop := .taskNotified }
  | _ => t

def notifyCancel : Timer C :=
  match t.mainLoop with
  | .cancelWait _ => { t with mainLoop := .cancelOver }
  | _ => t

/-- The wait for `waitSignal_` behind this keeps `taskMutex_`, so that nothing happens
before its two milliseconds are over. -/
def cancel : Timer C :=
  if t.state = .working then { t with state := .cancelled }.notifyCancel else t

def startTimer (timeout : BitVec 32) (callback : Option C) (reuse : Bool) : Timer C :=
  let t := { t with reuse, timeout }.cancel
  { t with callback := callback.or t.callback }.notifyTask

def stopTimer : Timer C := t.cancel

def setTimeoutCallback (callback : Option C) : Timer C := { t with callback }

/-- The destructor up to the join. -/
def destroy : Timer C :=
  match t.state with
  | .waiting => { t with state := .exited }.notifyTask
  | .working => { t with state := .exited }.notifyCancel
  | _ => { t with state := .exited }

/-- From behind the wait for a task to the wait for a cancellation. -/
def arm : Timer C :=
  if t.state = .exited then { t with mainLoop := .done }
  else { t with state := .working, mainLoop := .cancelWait t.timeout }

def enter : Timer C :=
  if t.state = .exited then { t with mainLoop := .done }
  else
    let t := { t with state := .waiting }
    if ! t.reuse then { t with mainLoop := .taskWait } else t.arm

/-- The end of a round, with the callback that it invokes. -/
def finish : Timer C × Option C :=
  ({ t with mainLoop := .top }, if t.state = .working then t.callback else none)

/-- The next section of `MainLoop`, when it does not wait. -/
def mainLoopStep : Option (Timer C × Option C) :=
  match t.mainLoop with
  | .top => some (t.enter, none)
  | .taskNotified => some (t.arm, none)
  | .cancelOver => some t.finish
  | _ => none

def AtWait : Prop :=
  match t.mainLoop with
  | .taskWait | .cancelWait _ => True
  | _ => False

/-- The timeout that runs, and the callback that is invoked when it is over. -/
def armed : Option (BitVec 32 × Option C) :=
  match t.mainLoop with
  | .cancelWait timeout => some (timeout, t.callback)
  | _ => none

end Timer

inductive Event (C : Type) where
  | started (timeout : BitVec 32) (callback : Option C) (reuse : Bool)
  | stopped
  | callbackSet (callback : Option C)
  | destroyed
  | elapsed
  | ran (callback : C)

/-- What the timer is for: it is on from a start until it is stopped or its time is over,
then it stays on only for reuse. -/
structure OneShot (C : Type) where
  on : Bool := false
  stopped : Bool := false
  timeout : BitVec 32 := 0
  reuse : Bool := false
  callback : Option C := none

namespace OneShot

variable (o : OneShot C)

def next : Event C → OneShot C
  | .started timeout callback reuse =>
    { on := true, stopped := false, timeout, reuse, callback := callback.or o.callback }
  | .stopped => { o with on := false, stopped := true }
  | .callbackSet callback => { o with callback }
  | .destroyed => { o with on := false }
  | .elapsed => { o with on := o.reuse }
  | .ran _ => o

def armed : Option (BitVec 32 × Option C) := if o.on then some (o.timeout, o.callback) else none

def after (log : List (Event C)) : OneShot C := log.foldl next {}

@[simp]
theorem after_snoc (log : List (Event C)) (e : Event C) : after (log ++ [e]) = (after log).next e := by
  simp [after]

end OneShot

/-- A timer and what has happened to it. -/
structure History (C : Type) where
  timer : Timer C := {}
  log : List (Event C) := []

inductive Act (C : Type) where
  | startTimer (timeout : BitVec 32) (callback : Option C) (reuse : Bool)
  | stopTimer
  | setTimeoutCallback (callback : Option C)
  | destroy
  | mainLoop
  | elapse

/-- The step cannot be taken now. -/
inductive Blocked where
  | blocked

namespace History

variable (h : History C)

/-- Nobody calls a timer that is destroyed. -/
def call (timer : Timer C) (e : Event C) : Except Blocked (History C) :=
  if h.timer.state = .exited then .error .blocked else .ok ⟨timer, h.log ++ [e]⟩

def step : Act C → Except Blocked (History C)
  | .startTimer timeout callback reuse =>
    h.call (h.timer.startTimer timeout callback reuse) (.started timeout callback reuse)
  | .stopTimer => h.call h.timer.stopTimer .stopped
  | .setTimeoutCallback callback => h.call (h.timer.setTimeoutCallback callback) (.callbackSet callback)
  | .destroy => h.call h.timer.destroy .destroyed
  | .mainLoop =>
    match h.timer.mainLoopStep with
    | none => .error .blocked
    | some (timer, none) => .ok ⟨timer, h.log⟩
    | some (timer, some callback) => .ok ⟨timer, h.log ++ [.ran callback]⟩
  | .elapse =>
    match h.timer.mainLoop with
    | .cancelWait _ => .ok ⟨{ h.timer with mainLoop := .cancelOver }, h.log ++ [.elapsed]⟩
    | _ => .error .blocked

/-- In a wait the timer is armed as the one-shot timer is, and no callback has run
between a stop and the next start. -/
structure Refines : Prop where
  armed : h.timer.AtWait → h.timer.armed = (OneShot.after h.log).armed
  quiet : EventLog.Guarded (fun before e => ∀ callback, e = .ran callback →
    (OneShot.after before).stopped = false) h.log

/-- A start finds the thread at its wait for a task, unless it is for reuse; a stop does
not follow a start that the thread has not seen, nor one for reuse. -/
def Heeded : Act C → Prop
  | .startTimer _ _ reuse => h.timer.state = .waiting ∨ reuse = true
  | .stopTimer => h.timer.reuse = false ∧ h.timer.mainLoop ≠ .taskNotified
  | _ => True

end History

/-- How the thread stands to the one-shot timer. -/
def Placed (t : Timer C) (o : OneShot C) : Prop :=
  match t.mainLoop with
  | .top => t.state ≠ .waiting ∧ (t.state ≠ .exited → o.on = t.reuse)
  | .taskWait => t.state = .waiting ∧ t.reuse = false ∧ o.on = false
  | .taskNotified => t.state = .waiting ∧ o.on = true ∨ t.state = .exited
  | .cancelWait timeout => t.state = .working ∧ o.on = true ∧ timeout = t.timeout
  | .cancelOver => (t.state = .working ∧ o.stopped = false ∨ t.state = .cancelled) ∧ o.on = t.reuse ∨
      t.state = .exited
  | .done => t.state = .exited

structure Tracks (t : Timer C) (o : OneShot C) : Prop where
  reuse : t.reuse = o.reuse
  timeout : t.timeout = o.timeout
  callback : t.callback = o.callback
  live : o.on = true → o.stopped = false
  placed : Placed t o

namespace Tracks

variable {t : Timer C} {o : OneShot C}

theorem armed (h : Tracks t o) (hwait : t.AtWait) : t.armed = o.armed := by
  obtain ⟨-, htimeout, hcallback, -, hplaced⟩ := h
  cases hloop : t.mainLoop <;> simp_all [Timer.AtWait, Timer.armed, OneShot.armed, Placed]

theorem startTimer (h : Tracks t o) {timeout : BitVec 32} {callback : Option C} {reuse : Bool}
    (hstate : t.state ≠ .exited) (hheeded : t.state = .waiting ∨ reuse = true) :
    Tracks (t.startTimer timeout callback reuse) (o.next (.started timeout callback reuse)) := by
  obtain ⟨treuse, ttimeout, tcallback, state, loop⟩ := t
  obtain ⟨hreuse, htimeout, hcallback, hlive, hplaced⟩ := h
  cases loop <;> cases state <;> constructor <;>
    simp_all [Timer.startTimer, Timer.cancel, Timer.notifyTask, Timer.notifyCancel, OneShot.next, Placed]

theorem stopTimer (h : Tracks t o) (hstate : t.state ≠ .exited) (hreuse : t.reuse = false)
    (hloop : t.mainLoop ≠ .taskNotified) : Tracks t.stopTimer (o.next .stopped) := by
  obtain ⟨treuse, ttimeout, tcallback, state, loop⟩ := t
  obtain ⟨hreuse, htimeout, hcallback, hlive, hplaced⟩ := h
  cases loop <;> cases state <;> constructor <;>
    simp_all [Timer.stopTimer, Timer.cancel, Timer.notifyCancel, OneShot.next, Placed]

theorem setTimeoutCallback (h : Tracks t o) (callback : Option C) :
    Tracks (t.setTimeoutCallback callback) (o.next (.callbackSet callback)) := by
  obtain ⟨treuse, ttimeout, tcallback, state, loop⟩ := t
  obtain ⟨hreuse, htimeout, -, hlive, hplaced⟩ := h
  exact ⟨hreuse, htimeout, rfl, hlive, hplaced⟩

theorem destroy (h : Tracks t o) : Tracks t.destroy (o.next .destroyed) := by
  obtain ⟨treuse, ttimeout, tcallback, state, loop⟩ := t
  obtain ⟨hreuse, htimeout, hcallback, hlive, hplaced⟩ := h
  cases loop <;> cases state <;> constructor <;>
    simp_all [Timer.destroy, Timer.notifyTask, Timer.notifyCancel, OneShot.next, Placed]

theorem elapse (h : Tracks t o) {timeout : BitVec 32} (hloop : t.mainLoop = .cancelWait timeout) :
    Tracks { t with mainLoop := .cancelOver } (o.next .elapsed) := by
  obtain ⟨treuse, ttimeout, tcallback, state, loop⟩ := t
  obtain ⟨hreuse, htimeout, hcallback, hlive, hplaced⟩ := h
  obtain rfl : loop = .cancelWait timeout := hloop
  constructor <;> simp_all [OneShot.next, Placed]

/-- A section of `MainLoop`; a callback is not invoked behind a stop. -/
theorem mainLoopStep (h : Tracks t o) {t' : Timer C} {callback : Option C}
    (hstep : t.mainLoopStep = some (t', callback)) :
    Tracks t' o ∧ (callback.isSome → o.stopped = false) := by
  obtain ⟨treuse, ttimeout, tcallback, state, loop⟩ := t
  obtain ⟨hreuse, htimeout, hcallback, hlive, hplaced⟩ := h
  cases loop with
  | top =>
    cases hstep
    refine ⟨?_, by simp⟩
    cases state <;> cases treuse <;> constructor <;>
      simp_all [Timer.enter, Timer.arm, Placed]
  | taskNotified =>
    cases hstep
    refine ⟨?_, by simp⟩
    cases state <;> constructor <;> simp_all [Timer.arm, Placed]
  | cancelOver =>
    cases hstep
    refine ⟨?_, ?_⟩
    · cases state <;> constructor <;> simp_all [Placed]
    · cases state <;> simp_all [Placed]
  | taskWait => cases hstep
  | cancelWait timeout => cases hstep
  | done => cases hstep

end Tracks

namespace History

instance (h : History C) (act : Act C) : Decidable (h.Heeded act) := by
  unfold Heeded
  split <;> infer_instance

/-- The invariant of a run: the thread has kept up, and no callback ran behind a stop. -/
structure Kept (h : History C) : Prop where
  tracks : Tracks h.timer (OneShot.after h.log)
  quiet : EventLog.Guarded (fun before e => ∀ callback, e = .ran callback →
    (OneShot.after before).stopped = false) h.log

variable {h h' : History C}

theorem kept_init : Kept ({} : History C) where
  tracks := ⟨rfl, rfl, rfl, by simp [OneShot.after], by simp [Placed, OneShot.after]⟩
  quiet := EventLog.guarded_nil

theorem kept_call (h : History C) {timer : Timer C} {e : Event C} (hkept : Kept h)
    (he : ∀ callback, e ≠ .ran callback)
    (htracks : h.timer.state ≠ .exited → Tracks timer ((OneShot.after h.log).next e))
    (hcall : h.call timer e = .ok h') : Kept h' := by
  rw [call] at hcall
  split at hcall
  · cases hcall
  · rename_i hstate
    cases hcall
    refine ⟨by simpa using htracks hstate, EventLog.guarded_snoc.mpr ⟨hkept.quiet, ?_⟩⟩
    intro callback hran
    exact absurd hran (he callback)

theorem kept_step (hkept : Kept h) {act : Act C} (hheeded : h.Heeded act)
    (hstep : h.step act = .ok h') : Kept h' := by
  cases act with
  | startTimer timeout callback reuse =>
    exact kept_call h hkept (by simp) (fun hstate => hkept.tracks.startTimer hstate hheeded) hstep
  | stopTimer =>
    exact kept_call h hkept (by simp)
      (fun hstate => hkept.tracks.stopTimer hstate hheeded.1 hheeded.2) hstep
  | setTimeoutCallback callback =>
    exact kept_call h hkept (by simp) (fun _ => hkept.tracks.setTimeoutCallback callback) hstep
  | destroy => exact kept_call h hkept (by simp) (fun _ => hkept.tracks.destroy) hstep
  | mainLoop =>
    simp only [step] at hstep
    split at hstep
    · cases hstep
    · rename_i timer hloop
      cases hstep
      exact ⟨(hkept.tracks.mainLoopStep hloop).1, hkept.quiet⟩
    · rename_i timer callback hloop
      cases hstep
      obtain ⟨htracks, hquiet⟩ := hkept.tracks.mainLoopStep hloop
      refine ⟨by simpa [OneShot.next] using htracks, EventLog.guarded_snoc.mpr ⟨hkept.quiet, ?_⟩⟩
      intro _ _
      exact hquiet rfl
  | elapse =>
    simp only [step] at hstep
    split at hstep
    · rename_i timeout hloop
      cases hstep
      refine ⟨by simpa using hkept.tracks.elapse hloop, EventLog.guarded_snoc.mpr ⟨hkept.quiet, ?_⟩⟩
      simp
    · cases hstep

theorem Kept.refines (hkept : Kept h) : h.Refines :=
  ⟨fun hwait => hkept.tracks.armed hwait, hkept.quiet⟩

/-- As long as the thread heeds every start and stop, the timer is a one-shot timer. -/
theorem run_refines {acts : List (Act C)}
    (run : GuardedRun step Heeded ({} : History C) acts h) : h.Refines :=
  Kept.refines <| run.invariant kept_init fun _ _ _ hkept hheeded hstep =>
    kept_step hkept hheeded hstep

/-- The thread waits before it is started and stopped, and a second start runs out. -/
theorem run_refines_startStop : ∃ h : History Unit, h.Refines ∧ h.log.length = 6 := by
  have hsome : (GuardedRun.check step Heeded ({} : History Unit)
      [.setTimeoutCallback (some ()), .mainLoop, .startTimer 6 none false, .mainLoop, .stopTimer,
        .mainLoop, .mainLoop, .startTimer 5 none false, .mainLoop, .elapse, .mainLoop]).any
      (fun h => h.log.length = 6) = true := rfl
  obtain ⟨h, hrun, hlength⟩ := (Option.any_eq_true _ _).mp hsome
  exact ⟨h, run_refines (GuardedRun.of_check hrun), by simpa using hlength⟩

/-- The timer is started before its thread has reached its wait: the notification is
lost, and the thread waits for another one. -/
theorem startFirst_not_refines : ¬ ∀ (acts : List (Act Unit)) (h : History Unit),
    acts.foldlM step ({} : History Unit) = .ok h → h.Refines := by
  intro hall
  have hrefines := hall [.startTimer 6 none false, .mainLoop] _ rfl
  have harmed := hrefines.armed trivial
  cases harmed

end History

end TimeoutTimerLoop

end WifiDisplay
