import WifiDisplay.BufferDispatcher
import WifiDisplay.ConditionVariables

/-! The waits of `BufferReceiver` and of the thread of `BufferDispatcher`, and what ends them. Each function
is the program of its operations on the flags, the condition variables and the mutexes that the waits use.
`bufferMutex_`, and the sections of `notifyMutex_` that neither set a flag nor wait, are left out: they
only rule out interleavings. -/

namespace WifiDisplay

open ConditionVariables

/-- `ρ` is the type of receivers. -/
inductive NotificationMutex (ρ : Type*) where
  | mutex (receiver : ρ)
  | notifyMutex
  deriving DecidableEq

/-- `received` is `notifyAudio_`, `notifyVideo_` or `notifyData_`, with `nonBlockAudio_`, `nonBlockVideo_` or
`dataReady_` as its flag, and `dataCV` has `continueNotify_`. -/
inductive NotificationCondition (ρ : Type*) where
  | received (receiver : ρ) (type : MediaType)
  | dataCV
  deriving DecidableEq

namespace BufferNotifications

open NotificationMutex NotificationCondition

variable {ρ : Type*}

abbrev Program (ρ : Type*) := List (Action (NotificationMutex ρ) (NotificationCondition ρ))

/-- The mutex that a wait gives back. -/
def guard : NotificationCondition ρ → NotificationMutex ρ
  | received receiver _ => mutex receiver
  | dataCV => notifyMutex

/-- `On*DataNotify`. -/
def onDataNotify (receiver : ρ) (type : MediaType) : Program ρ :=
  [.set (received receiver type), .notifyOne (received receiver type)]

def onMediaDataNotify (receiver : ρ) : Program ρ := onDataNotify receiver .av

def onAudioDataNotify (receiver : ρ) : Program ρ := onDataNotify receiver .audio

def onVideoDataNotify (receiver : ρ) : Program ρ := onDataNotify receiver .video

def notifyReadStop (receiver : ρ) : Program ρ :=
  [.set (received receiver .audio), .set (received receiver .video), .set (received receiver .av),
    .notifyAll (received receiver .audio), .notifyAll (received receiver .video),
    .notifyAll (received receiver .av)]

/-- For a receiver that there is and that is not blocked. -/
def notifyDataReceiver (receiver : ρ) : MediaType → Program ρ
  | .audio => onAudioDataNotify receiver
  | .video => onVideoDataNotify receiver
  | .av => onMediaDataNotify receiver

/-- `dataAvaliable` is `none` where there is no notifier for the receiver. -/
def notifyReadReady : Option Bool → Program ρ
  | none => []
  | some false => [.lock notifyMutex, .unlock notifyMutex]
  | some true => [.lock notifyMutex, .set dataCV, .notifyOne dataCV, .unlock notifyMutex]

/-- `first` is the answer to the notification of a first read of the type, if it is one, and `ready` to
the one after the read. -/
def requestRead (receiver : ρ) (type : MediaType) (first : Option (Option Bool)) (ready : Option Bool) :
    Program ρ :=
  first.elim [] notifyReadReady ++
    [.lock (mutex receiver), .wait (received receiver type), .reset (received receiver type)] ++
      (notifyReadReady ready ++ [.reset (received receiver .av), .unlock (mutex receiver)])

/-- The end of `WriteDataIntoBuffer`, which is where `InputData` has anything to do with the waits. -/
def writeDataIntoBuffer : Program ρ := [.set dataCV, .notifyOne dataCV]

def stopDispatch : Program ρ := [.set dataCV, .notifyAll dataCV]

/-- A round of the loop, for the receivers that it finds to be notified. -/
def notifyThreadWorker (notified : List (ρ × MediaType)) : Program ρ :=
  .lock notifyMutex :: (notified.flatMap fun n => notifyDataReceiver n.1 n.2) ++
    [.wait dataCV, .reset dataCV, .unlock notifyMutex]

/-- The calls of a thread other than the dispatcher's. -/
inductive Call (ρ : Type*) where
  | requestRead (receiver : ρ) (type : MediaType) (first : Option (Option Bool)) (ready : Option Bool)
  | onMediaDataNotify (receiver : ρ)
  | onAudioDataNotify (receiver : ρ)
  | onVideoDataNotify (receiver : ρ)
  | notifyReadStop (receiver : ρ)
  | notifyReadReady (dataAvaliable : Option Bool)
  | writeDataIntoBuffer
  | stopDispatch

def Call.program : Call ρ → Program ρ
  | requestRead receiver type first ready => BufferNotifications.requestRead receiver type first ready
  | onMediaDataNotify receiver => BufferNotifications.onMediaDataNotify receiver
  | onAudioDataNotify receiver => BufferNotifications.onAudioDataNotify receiver
  | onVideoDataNotify receiver => BufferNotifications.onVideoDataNotify receiver
  | notifyReadStop receiver => BufferNotifications.notifyReadStop receiver
  | notifyReadReady dataAvaliable => BufferNotifications.notifyReadReady dataAvaliable
  | writeDataIntoBuffer => BufferNotifications.writeDataIntoBuffer
  | stopDispatch => BufferNotifications.stopDispatch

variable {τ : Type*}

/-- The dispatcher's own thread is `none`. -/
def programs : Option τ → Set (Program ρ)
  | none => Set.range notifyThreadWorker
  | some _ => Set.range Call.program

abbrev Threads (τ ρ : Type*) := State (Option τ) (NotificationMutex ρ) (NotificationCondition ρ)

/-! Each program notifies what it sets. -/

theorem wellAnnounced_notifyReadReady_append (dataAvaliable : Option Bool) {w : Program ρ}
    (h : WellAnnounced w) : WellAnnounced (notifyReadReady dataAvaliable ++ w) := by
  cases dataAvaliable with
  | none => exact h
  | some dataAvaliable =>
    cases dataAvaliable with
    | false => exact h
    | true => exact ⟨.inl rfl, h⟩

theorem wellAnnounced_requestRead (receiver : ρ) (type : MediaType) (first : Option (Option Bool))
    (ready : Option Bool) : WellAnnounced (requestRead receiver type first ready) := by
  have hread : WellAnnounced (.lock (mutex receiver) :: .wait (received receiver type) ::
      .reset (received receiver type) :: (notifyReadReady ready ++
        [.reset (received receiver .av), .unlock (mutex receiver)])) :=
    wellAnnounced_notifyReadReady_append ready trivial
  cases first with
  | none => exact hread
  | some first =>
    rw [requestRead, List.append_assoc]
    exact wellAnnounced_notifyReadReady_append first hread

theorem wellAnnounced_notifyThreadWorker (notified : List (ρ × MediaType)) :
    WellAnnounced (notifyThreadWorker notified) := by
  show WellAnnounced ((notified.flatMap fun n => notifyDataReceiver n.1 n.2) ++ _)
  induction notified with
  | nil => trivial
  | cons n notified ih =>
    rw [List.flatMap_cons, List.append_assoc]
    obtain ⟨receiver, type⟩ := n
    cases type <;> exact ⟨.inl rfl, ih⟩

theorem wellAnnounced_programs (i : Option τ) (w : Program ρ) (h : w ∈ programs i) : WellAnnounced w := by
  cases i with
  | none =>
    obtain ⟨notified, rfl⟩ := h
    exact wellAnnounced_notifyThreadWorker notified
  | some i =>
    obtain ⟨call, rfl⟩ := h
    cases call with
    | requestRead receiver type first ready => exact wellAnnounced_requestRead receiver type first ready
    | onMediaDataNotify _ => exact ⟨.inl rfl, trivial⟩
    | onAudioDataNotify _ => exact ⟨.inl rfl, trivial⟩
    | onVideoDataNotify _ => exact ⟨.inl rfl, trivial⟩
    | notifyReadStop _ =>
      exact ⟨.inl rfl, .inr (.inl rfl), .inr (.inr (.inl rfl)), trivial⟩
    | notifyReadReady dataAvaliable =>
      have h := wellAnnounced_notifyReadReady_append dataAvaliable (w := ([] : Program ρ)) trivial
      rw [List.append_nil] at h
      exact h
    | writeDataIntoBuffer => exact ⟨.inl rfl, trivial⟩
    | stopDispatch => exact ⟨.inl rfl, trivial⟩

/-- Whatever the threads do, as long as no last notification comes between a test and the sleep after it,
or to one of several sleepers. -/
theorem never_sleeps_through [DecidableEq τ] [DecidableEq ρ] {s : Threads τ ρ}
    (h : Reaches guard programs Heard {} s) (c : NotificationCondition ρ) : ¬ SleepsThrough s c :=
  (h.sound wellAnnounced_programs).not_sleepsThrough

/-- The dispatcher's thread is asleep when data are written. -/
theorem never_sleeps_through_written : ∃ s : Threads Unit Unit, Reaches guard programs Heard {} s ∧
    (s.threads none).phase = .woken ∧ ¬ SleepsThrough s dataCV := by
  have hcall : Reaches guard programs Heard ({} : Threads Unit Unit) _ :=
    .tail .refl ⟨none, heard_of_quiet rfl fun _ _ => ⟨nofun, nofun⟩, .call rfl ⟨[], rfl⟩⟩
  have hlock := hcall.tail ⟨none, heard_of_quiet rfl fun _ _ => ⟨nofun, nofun⟩, .lock rfl rfl⟩
  have htest := hlock.tail ⟨none, heard_of_quiet rfl fun _ _ => ⟨nofun, nofun⟩, .test rfl rfl⟩
  have hblock := htest.tail ⟨none, heard_of_quiet rfl fun _ _ => ⟨nofun, nofun⟩, .block rfl⟩
  have hwrite := hblock.tail ⟨some (), heard_of_quiet rfl fun _ _ => ⟨nofun, nofun⟩,
    .call rfl ⟨.writeDataIntoBuffer, rfl⟩⟩
  have hset := hwrite.tail ⟨some (), heard_of_quiet rfl fun _ _ => ⟨nofun, nofun⟩, .set rfl⟩
  have hnotify := hset.tail ⟨some (), ⟨fun c w _ _ => ⟨fun j hj => ?_, fun j k hj hk => ?_⟩,
    fun c w h => nomatch h⟩, .notifyOne (j := none) rfl rfl⟩
  · exact ⟨_, hnotify, rfl, never_sleeps_through hnotify dataCV⟩
  · obtain ⟨v, hv⟩ := hj
    cases j <;> cases hv
  · obtain ⟨v, hv⟩ := hj
    obtain ⟨v', hv'⟩ := hk
    cases j with
    | none =>
      cases k with
      | none => rfl
      | some k => cases hv'
    | some j => cases hv

/-- The flag is set and the condition notified between the test and the sleep, for a reader and for the
dispatcher's thread. -/
theorem notifications_slept_through :
    (∃ s : Threads Unit Unit, Reaches guard programs (fun _ _ => True) {} s ∧
      SleepsThrough s (received () .audio)) ∧
    ∃ s : Threads Unit Unit, Reaches guard programs (fun _ _ => True) {} s ∧
      SleepsThrough s dataCV ∧ s.threads (some ()) = .idle := by
  constructor
  · have hcall : Reaches guard programs (fun _ _ => True) ({} : Threads Unit Unit) _ :=
      .tail .refl ⟨some (), trivial, .call rfl ⟨.requestRead () .audio none (some false), rfl⟩⟩
    have hlock := hcall.tail ⟨some (), trivial, .lock rfl rfl⟩
    have htest := hlock.tail ⟨some (), trivial, .test rfl rfl⟩
    have hround := htest.tail ⟨none, trivial, .call rfl ⟨[((), .audio)], rfl⟩⟩
    have hlock' := hround.tail ⟨none, trivial, .lock rfl rfl⟩
    have hset := hlock'.tail ⟨none, trivial, .set rfl⟩
    have hnotify := hset.tail ⟨none, trivial, .notifyNone rfl fun j ⟨v, hv⟩ => ?_⟩
    · have hblock := hnotify.tail ⟨some (), trivial, .block rfl⟩
      refine ⟨_, hblock, rfl, fun i h => ?_, some (), _, rfl⟩
      cases i <;> exact h
    · cases j <;> cases hv
  · have hcall : Reaches guard programs (fun _ _ => True) ({} : Threads Unit Unit) _ :=
      .tail .refl ⟨none, trivial, .call rfl ⟨[], rfl⟩⟩
    have hlock := hcall.tail ⟨none, trivial, .lock rfl rfl⟩
    have htest := hlock.tail ⟨none, trivial, .test rfl rfl⟩
    have hwrite := htest.tail ⟨some (), trivial, .call rfl ⟨.writeDataIntoBuffer, rfl⟩⟩
    have hset := hwrite.tail ⟨some (), trivial, .set rfl⟩
    have hnotify := hset.tail ⟨some (), trivial, .notifyNone rfl fun j ⟨v, hv⟩ => ?_⟩
    · have hblock := hnotify.tail ⟨none, trivial, .block rfl⟩
      refine ⟨_, hblock, ⟨rfl, fun i h => ?_, none, _, rfl⟩, rfl⟩
      cases i <;> exact h
    · cases j <;> cases hv

end BufferNotifications

end WifiDisplay
