import Mathlib.Logic.Function.Basic
import WifiDisplay.DispatcherDeadlock
import WifiDisplay.GuardedRuns

/-! The player of a sink: the calls of `MediaController` and the controllers below it, the
threads that play audio and video, and the callbacks of codec, renderer and dispatcher. -/

namespace WifiDisplay

namespace SinkPlayer

open LockSystem

/-- The `BufferReceiver` of the audio controller, or of the `k`-th controller for a surface. -/
inductive Receiver where
  | audio
  | video (k : Nat)
  deriving DecidableEq

/-- `stateMutex_` and `audioRenderMutex_` belong to the `AudioSink`, `inMutex_` to a decoder. -/
inductive Mutex where
  | playAudioMutex
  | playVideoMutex
  | audioPlayerMutex
  | stateMutex
  | audioRenderMutex
  | receiverMutex (r : Receiver)
  | inMutex (k : Nat)
  deriving DecidableEq

/-- The calls of the dispatcher, behind which are the paths through its two mutexes. -/
inductive Operation where
  | attachReceiver
  | detachReceiver
  | notifyReadReady
  | clearBit
  | readBufferData
  | inputData
  | flushBuffer
  deriving DecidableEq

open DispatcherLocks in
def Operation.paths : Operation → Paths
  | attachReceiver => DispatcherLocks.attachReceiver
  | detachReceiver => DispatcherLocks.detachReceiver
  | notifyReadReady => DispatcherLocks.notifyReadReady
  | clearBit => lockNotify 1
  | readBufferData => DispatcherLocks.readBufferData
  | inputData => DispatcherLocks.inputData
  | flushBuffer => DispatcherLocks.flushBuffer

/-- The calls that a thread makes; each runs and is replaced by the calls in its body. -/
inductive Call where
  | lock (m : Mutex)
  | unlock (m : Mutex)
  | dispatch (op : Operation)
  | action
  | start
  | stop
  | release
  | appendSurface (surface : BitVec 64) (keyFrame : Bool)
  | removeSurface (surface : BitVec 64)
  | setVolume
  | startAudio
  | audioPlaying
  | startVideos
  | startEach
  | videoPlaying
  | stopAudio
  | stopEach
  | notPlaying
  | releaseAudio
  | resetAudio
  | releaseEach
  | clearSurfaces
  | append (surface : BitVec 64) (keyFrame : Bool)
  | remove (surface : BitVec 64)
  | eraseSurface (surface : BitVec 64)
  | audioStart
  | playerStart
  | prepare
  | setParameters
  | setRendererCallback
  | sinkStart
  | rendererStart
  | playerStarted
  | audioStarted
  | audioStop
  | playerStop
  | audioRelease
  | stopAudioThread
  | playerRelease
  | sinkRelease
  | playerVolume
  | videoStart (k : Nat)
  | setKeyMode (k : Nat)
  | videoStop (k : Nat)
  | decoderStop (k : Nat)
  | videoRelease (k : Nat)
  | attached (r : Receiver)
  | detached (r : Receiver)
  | startThread (r : Receiver)
  | stopReading (r : Receiver)
  | notifyReadStop (r : Receiver)
  | notifyAll (r : Receiver)
  | stopThread (r : Receiver)
  | join (r : Receiver)
  | playThread (r : Receiver)
  | requestRead (r : Receiver)
  | readNotified (r : Receiver)
  | test (r : Receiver)
  | sleep (r : Receiver)
  | woken (r : Receiver)
  | take (r : Receiver)
  | dataRead (r : Receiver)
  | process (r : Receiver)
  | processAudioData
  | processVideoData (k : Nat)
  | awaitInput (k : Nat)
  | decodeVideoData (k : Nat)
  | onInputBufferAvailable (k : Nat)
  | onOutputBufferAvailable
  | onInterrupt
  | interrupted
  | notifyThreadWorker
  | notifyReceivers
  | onDataNotify (r : Receiver)
  | notifyOne (r : Receiver)
  deriving DecidableEq

/-- How a call into codec, renderer or channel ends, which path the dispatcher takes, and what
a read or a pass over the receivers finds. -/
inductive Answer where
  | succeeds
  | fails
  | noChannel
  | path (path : List (Action DispatcherMutex))
  | keyFrame (sps pps : Bool)
  | receivers (rs : List Receiver)
  deriving DecidableEq

structure Thread where
  held : List Mutex := []
  todo : List Call := []

/-- What a controller shares with its play thread, and the receiver between them. -/
structure Player where
  running : Bool := false
  hasThread : Bool := false
  hasSource : Bool := false
  attached : Bool := false
  firstRead : Bool := true
  nonBlock : Bool := false
  waiting : Bool := false
  lastRead : Bool := false

structure Video where
  hasDecoder : Bool := false
  decoderRunning : Bool := false
  keyMode : Bool := false

/-- The threads that come from outside, and the play threads. -/
inductive ThreadId (ι : Type) where
  | user (t : ι)
  | player (r : Receiver)
  deriving DecidableEq

/-- `playerStarts` is what the last call of `AudioPlayer::Start` returned, `videoStarts` that of
`VideoPlayController::Start`; each is asked for under the mutex of the call. -/
structure World (ι : Type) where
  hasAudio : Bool
  hasPlayer : Bool
  isPlaying : Bool := false
  playerRunning : Bool := false
  playerStarts : Bool := false
  videoStarts : Bool := false
  renderer : Bool := false
  rendererCallback : Bool := false
  surfaces : List (BitVec 64 × Nat) := []
  videoCount : Nat := 0
  videos : Nat → Video := fun _ => {}
  players : Receiver → Player := fun _ => {}
  threads : ThreadId ι → Thread := fun _ => {}
  dispatcher : State (ThreadId ι) DispatcherMutex := fun _ => .idle

/-- Calls in the scope of a lock. -/
def guarded (m : Mutex) (calls : List Call) : List Call := .lock m :: calls ++ [.unlock m]

/-- `NotifyThreadWorker` notifies in the scope of `notifyMutex_`. -/
def workerPath : List (Action DispatcherMutex) :=
  [.acquire .notifyMutex .exclusive, .release .notifyMutex]

/-- The lock operation that is next. -/
def nextAction (thread : LockSystem.Thread DispatcherMutex) : LockSystem.Thread DispatcherMutex :=
  match thread.todo with
  | [] => thread
  | .acquire l m :: path => ⟨(l, m) :: thread.held, path⟩
  | .release _ :: path => ⟨thread.held.tail, path⟩

namespace World

variable {ι : Type} (w : World ι)

def setPlayer (r : Receiver) (player : Player) : World ι :=
  { w with players := Function.update w.players r player }

def setVideo (k : Nat) (video : Video) : World ι :=
  { w with videos := Function.update w.videos k video }

section

variable [DecidableEq ι]

def setThread (t : ThreadId ι) (thread : Thread) : World ι :=
  { w with threads := Function.update w.threads t thread }

def setDispatcher (t : ThreadId ι) (thread : LockSystem.Thread DispatcherMutex) : World ι :=
  { w with dispatcher := Function.update w.dispatcher t thread }

end

/-- `AppendSurface` while it holds `playVideoMutex_`. -/
def append (surface : BitVec 64) (keyFrame : Bool) (answer : Answer) : World ι × List Call :=
  let k := w.videoCount
  let appended := { w.setVideo k { hasDecoder := true, keyMode := keyFrame } with
    surfaces := w.surfaces ++ [(surface, k)]
    videoCount := k + 1 }
  if w.surfaces.any (·.1 = surface) then (w, [])
  else
    match answer with
    | .succeeds => (appended, if w.isPlaying then [.videoStart k] else [])
    | .noChannel => (appended, [])
    | _ => (w, [])

def remove (surface : BitVec 64) (answer : Answer) : List Call :=
  match w.surfaces.find? (·.1 = surface) with
  | none => []
  | some (_, k) =>
    match answer with
    | .noChannel => [.videoRelease k, .eraseSurface surface]
    | _ => [.videoStop k, .videoRelease k, .eraseSurface surface]

/-- `VideoPlayController::Start`, which needs a surface and a decoder that starts. -/
def videoStart (k : Nat) (answer : Answer) : World ι × List Call :=
  let player := w.players (.video k)
  let video := w.videos k
  if player.running then ({ w with videoStarts := true }, [])
  else if video.hasDecoder ∧ (video.decoderRunning ∨ answer = .succeeds) then
    ({ (w.setVideo k { video with decoderRunning := true }).setPlayer (.video k)
        { player with running := true } with videoStarts := true },
      [.dispatch .attachReceiver, .attached (.video k), .setKeyMode k, .startThread (.video k)])
  else ({ w with videoStarts := false }, [])

/-- `AudioPlayer::Start` up to `AudioSink::Prepare`. -/
def playerStart : World ι × List Call :=
  if w.playerRunning then ({ w with playerStarts := true }, [])
  else (w, guarded .audioRenderMutex [.prepare] ++ [.sinkStart])

/-- `AudioSink::Prepare` with channels and sample rate, while it holds `audioRenderMutex_`. -/
def prepare : Answer → World ι × List Call
  | .succeeds =>
    ({ w with renderer := true },
      guarded .audioRenderMutex [.setParameters] ++ [.setRendererCallback])
  | _ => ({ w with renderer := false, playerStarts := false }, [])

/-- `AudioSink::Start` for the player. -/
def rendererStart (answer : Answer) : World ι :=
  { w with playerStarts := w.renderer && answer = .succeeds }

def requestRead (r : Receiver) : World ι × List Call :=
  let player := w.players r
  if player.hasSource then
    (w, (if player.firstRead then [.dispatch .notifyReadReady, .readNotified r] else []) ++
      guarded (.receiverMutex r) [.test r, .take r, .dispatch .clearBit, .dispatch .clearBit,
        .dispatch .readBufferData, .dataRead r, .dispatch .notifyReadReady])
  else (w.setPlayer r { player with lastRead := false }, [])

/-- What the play thread does with the frame it was handed, if any. -/
def process (r : Receiver) (answer : Answer) : List Call :=
  if (w.players r).lastRead then
    match r, answer with
    | .audio, _ => guarded .audioPlayerMutex [.processAudioData]
    | .video k, .keyFrame sps pps =>
      if (w.videos k).hasDecoder then
        (if sps then [.processVideoData k] else []) ++ (if pps then [.processVideoData k] else []) ++
          [.processVideoData k]
      else []
    | .video k, _ => if (w.videos k).hasDecoder then [.processVideoData k] else []
  else []

/-- `wait_for` lets go of the mutex until its time is over or an input buffer is there. -/
def awaitInput (k : Nat) : Answer → List Call
  | .succeeds => []
  | _ =>
    if (w.players (.video k)).running then [.unlock (.inMutex k), .lock (.inMutex k), .awaitInput k]
    else []

section

variable [DecidableEq ι]

/-- The new thread begins with its loop. -/
def startThread (r : Receiver) : World ι :=
  if (w.players r).hasThread then w
  else (w.setPlayer r { w.players r with hasThread := true }).setThread (.player r) ⟨[], [.playThread r]⟩

/-- The body of a call of thread `t` that keeps the thread's mutexes: its effect and the calls it
makes. -/
def body (t : ThreadId ι) (answer : Answer) : Call → World ι × List Call
  | .lock _ | .unlock _ | .sleep _ | .woken _ => (w, [])
  | .dispatch _ =>
    match answer with
    | .path path => (w.setDispatcher t ⟨[], path⟩, List.replicate path.length .action)
    | _ => (w, [])
  | .action => (w.setDispatcher t (nextAction (w.dispatcher t)), [])
  | .start =>
    (w, if answer = .succeeds ∧ (w.hasAudio ∨ w.surfaces ≠ []) then
      guarded .playAudioMutex [.startAudio] ++ [.startVideos] else [])
  | .stop =>
    (w, if answer = .succeeds then
      guarded .playAudioMutex [.stopAudio] ++ guarded .playVideoMutex [.stopEach] ++ [.notPlaying]
      else [])
  | .release => (w, .releaseAudio :: guarded .playVideoMutex [.releaseEach])
  | .appendSurface surface keyFrame => (w, guarded .playVideoMutex [.append surface keyFrame])
  | .removeSurface surface => (w, guarded .playVideoMutex [.remove surface])
  | .setVolume => (w, if w.hasAudio then guarded .audioPlayerMutex [.playerVolume] else [])
  | .startAudio => (w, if w.hasAudio then guarded .audioPlayerMutex [.audioStart] ++ [.audioPlaying] else [])
  | .audioPlaying => ({ w with isPlaying := w.isPlaying || w.playerStarts }, [])
  | .startVideos => (w, if w.surfaces = [] then [] else guarded .playVideoMutex [.startEach])
  | .startEach => (w, w.surfaces.flatMap fun surface => [.videoStart surface.2, .videoPlaying])
  | .videoPlaying => ({ w with isPlaying := w.isPlaying || w.videoStarts }, [])
  | .stopAudio => (w, if w.isPlaying ∧ w.hasAudio then [.audioStop] else [])
  | .stopEach => (w, if w.isPlaying then w.surfaces.map fun surface => .videoStop surface.2 else [])
  | .notPlaying => ({ w with isPlaying := false }, [])
  | .releaseAudio => (w, if w.hasAudio then [.audioRelease, .resetAudio] else [])
  | .resetAudio =>
    -- its destructor releases once more
    ({ w with hasAudio := false }, if answer = .succeeds then [.audioRelease] else [])
  | .releaseEach => (w, (w.surfaces.map fun surface => .videoRelease surface.2) ++ [.clearSurfaces])
  | .clearSurfaces => ({ w with surfaces := [] }, [])
  | .append surface keyFrame => w.append surface keyFrame answer
  | .remove surface => (w, w.remove surface answer)
  | .eraseSurface surface => ({ w with surfaces := w.surfaces.filter (·.1 ≠ surface) }, [])
  | .audioStart =>
    if w.hasPlayer = false then ({ w with playerStarts := false }, [])
    else if (w.players .audio).running then ({ w with playerStarts := true }, [])
    else (w, [.playerStart, .audioStarted])
  | .playerStart => w.playerStart
  | .prepare => w.prepare answer
  | .setParameters => ({ w with playerStarts := answer = .succeeds }, [])
  | .setRendererCallback => ({ w with rendererCallback := true }, [])
  | .sinkStart =>
    (w, if w.playerStarts then guarded .audioRenderMutex [.rendererStart] ++ [.playerStarted] else [])
  | .rendererStart => (w.rendererStart answer, [])
  | .playerStarted => ({ w with playerRunning := w.playerRunning || w.playerStarts }, [])
  | .audioStarted =>
    if w.playerStarts then
      (w.setPlayer .audio { w.players .audio with running := true },
        [.dispatch .attachReceiver, .attached .audio, .startThread .audio] ++ guarded .stateMutex [])
    else (w, [])
  | .audioStop =>
    (w, [.dispatch .detachReceiver, .detached .audio, .stopReading .audio] ++
      guarded .audioPlayerMutex [.playerStop])
  | .playerStop =>
    if w.hasPlayer ∧ w.playerRunning then
      ({ w with playerRunning := false }, guarded .audioRenderMutex [])
    else (w, [])
  | .audioRelease =>
    -- no `NotifyReadStop` here
    (w.setPlayer .audio { w.players .audio with running := false },
      .stopAudioThread :: guarded .audioPlayerMutex [.playerRelease])
  | .stopAudioThread => (w, if (w.players .audio).hasThread then [.join .audio] else [])
  | .playerRelease =>
    if w.hasPlayer then
      ({ w with hasPlayer := false }, guarded .audioRenderMutex [.sinkRelease] ++
        guarded .audioRenderMutex [] ++ guarded .audioRenderMutex [])
    else (w, [])
  | .sinkRelease => ({ w with renderer := false }, [])
  | .playerVolume => (w, if w.hasPlayer then guarded .audioRenderMutex [] else [])
  | .videoStart k => w.videoStart k answer
  | .setKeyMode k =>
    (w, if (w.players (.video k)).running ∧ (w.players (.video k)).hasSource ∧ (w.videos k).keyMode
      then [.dispatch .clearBit] else [])
  | .videoStop k =>
    (w, [.dispatch .detachReceiver, .detached (.video k)] ++
      if (w.players (.video k)).running ∧ (w.videos k).hasDecoder then
        [.decoderStop k, .stopReading (.video k)] else [])
  | .decoderStop k =>
    if (w.videos k).decoderRunning ∧ answer = .succeeds then
      (w.setVideo k { w.videos k with decoderRunning := false }, guarded (.inMutex k) [])
    else (w, [])
  | .videoRelease k => (w.setVideo k { w.videos k with hasDecoder := false }, [])
  | .attached r =>
    let player := w.players r
    if player.attached then (w, [])
    else if answer = .succeeds then
      (w.setPlayer r { player with firstRead := true, attached := true, hasSource := true }, [])
    else (w.setPlayer r { player with firstRead := true }, [])
  | .detached r => (w.setPlayer r { w.players r with attached := false }, [])
  | .startThread r => (w.startThread r, [])
  | .stopReading r => (w.setPlayer r { w.players r with running := false }, [.notifyReadStop r])
  | .notifyReadStop r => (w.setPlayer r { w.players r with nonBlock := true }, [.notifyAll r])
  | .notifyAll r => (w.setPlayer r { w.players r with waiting := false }, [.stopThread r])
  | .stopThread r => (w, if (w.players r).hasThread then [.join r] else [])
  | .join r => (w.setPlayer r { w.players r with hasThread := false }, [])
  | .playThread r =>
    (w, if (w.players r).running then [.requestRead r, .process r, .playThread r] else [])
  | .requestRead r => w.requestRead r
  | .readNotified r => (w.setPlayer r { w.players r with firstRead := false }, [])
  | .test r =>
    (w, if (w.players r).nonBlock then []
      else [.sleep r, .woken r, .lock (.receiverMutex r), .test r])
  | .take r => (w.setPlayer r { w.players r with nonBlock := false }, [])
  | .dataRead r =>
    (w.setPlayer r { w.players r with lastRead := answer = .succeeds }, [])
  | .process r => (w, w.process r answer)
  | .processAudioData =>
    (w, if w.hasPlayer ∧ w.playerRunning then guarded .audioRenderMutex [] else [])
  | .processVideoData k => (w, guarded (.inMutex k) [.awaitInput k] ++ [.decodeVideoData k])
  | .awaitInput k => (w, w.awaitInput k answer)
  | .decodeVideoData k =>
    (w, if (w.players (.video k)).running then
      guarded (.inMutex k) [] ++ if answer = .succeeds then guarded (.inMutex k) [] else []
      else [])
  | .onInputBufferAvailable k => (w, guarded (.inMutex k) [])
  | .onOutputBufferAvailable =>
    -- the time of the audio decoder, and a frame of it to drop
    (w, guarded .audioPlayerMutex [] ++
      if answer = .succeeds then guarded .audioPlayerMutex [] else [])
  | .onInterrupt => (w, guarded .stateMutex [.interrupted])
  | .interrupted =>
    -- the sink starts again, or only stops writing
    (w, if answer = .succeeds then guarded .audioRenderMutex [] else [])
  | .notifyThreadWorker => (w.setDispatcher t ⟨[], workerPath⟩, [.action, .notifyReceivers, .action])
  | .notifyReceivers =>
    match answer with
    | .receivers rs => (w, (rs.filter fun r => (w.players r).attached).map .onDataNotify)
    | _ => (w, [])
  | .onDataNotify r => (w.setPlayer r { w.players r with nonBlock := true }, [.notifyOne r])
  | .notifyOne r => (w.setPlayer r { w.players r with waiting := false }, [])

end

end World

/-- A thread goes on, or is given a call. -/
inductive Act (ι : Type) where
  | run (t : ThreadId ι) (answer : Answer)
  | call (t : ι) (call : Call)

/-- The calls from outside: those of the media channel, the callbacks of codec and renderer, the
dispatcher's worker and its producer. -/
def Call.isEntry : Call → Bool
  | start | stop | release | appendSurface _ _ | removeSurface _ | setVolume
  | onInputBufferAvailable _ | onOutputBufferAvailable | onInterrupt
  | notifyThreadWorker | dispatch .inputData | dispatch .flushBuffer => true
  | _ => false

namespace World

variable {ι : Type} [DecidableEq ι] (w : World ι)

def run (t : ThreadId ι) (answer : Answer) : World ι :=
  let held := (w.threads t).held
  match (w.threads t).todo with
  | [] => w
  | .lock m :: rest => w.setThread t ⟨m :: held, rest⟩
  | .unlock m :: rest => w.setThread t ⟨held.erase m, rest⟩
  | .sleep r :: rest =>
    (w.setPlayer r { w.players r with waiting := true }).setThread t
      ⟨held.erase (.receiverMutex r), rest⟩
  | call :: rest =>
    let (w', calls) := w.body t answer call
    w'.setThread t ⟨held, calls ++ rest⟩

def next : Act ι → World ι
  | .run t answer => w.run t answer
  | .call t call => w.setThread (.user t) ⟨[], [call]⟩

omit [DecidableEq ι]

def Next (t : ThreadId ι) (call : Call) : Prop := (w.threads t).todo.head? = some call

def Holds (t : ThreadId ι) (m : Mutex) : Prop := m ∈ (w.threads t).held

def Idle (t : ThreadId ι) : Prop := (w.threads t).todo = []

/-- What a thread's next call waits for. -/
def Ready (t : ThreadId ι) (answer : Answer) : Call → Prop
  | .lock m => ∀ u, ¬ w.Holds u m
  | .woken r => (w.players r).waiting = false
  | .join r => w.Idle (.player r)
  | .dispatch op => ∃ path ∈ op.paths, answer = .path path
  | .action => ∀ l m path, (w.dispatcher t).todo = .acquire l m :: path → Grantable w.dispatcher l m
  | _ => True

/-- A thread that is not waiting goes on, and an idle one is given a call. -/
def Enabled : Act ι → Prop
  | .run t answer => ∃ call, w.Next t call ∧ w.Ready t answer call
  | .call t call => w.Idle (.user t) ∧ call.isEntry ∧ (call = .onInterrupt → w.rendererCallback)

/-- Thread `t` waits for a mutex that `u` holds, or for the end of `u`. -/
inductive WaitsFor (t u : ThreadId ι) : Prop where
  | mutex {m : Mutex} (next : w.Next t (.lock m)) (held : w.Holds u m)
  | dispatcher {l : DispatcherMutex} (next : w.Next t .action) (waits : WaitsOn w.dispatcher t u l)
  | thread {r : Receiver} (next : w.Next t (.join r)) (player : u = .player r) (busy : ¬ w.Idle u)

/-- No thread waits for itself, no set of threads each for another of them, and none for the end
of a play thread that sleeps while no call is left that wakes it up. -/
structure Unhung : Prop where
  notSelf : ∀ t, ¬ w.WaitsFor t t
  noCycle : ∀ S : Set (ThreadId ι), S.Nonempty → ¬ ∀ t ∈ S, ∃ u ∈ S, w.WaitsFor t u
  notAsleep : ∀ t r, w.Next t (.join r) → (w.players r).waiting →
    ∃ u, .notifyAll r ∈ (w.threads u).todo ∨ .notifyOne r ∈ (w.threads u).todo

/-- No renderer is created under `audioRenderMutex_`, the dispatcher's mutexes are not asked for
in both orders at a time, and `NotifyReadStop` does not notify a play thread between its test and
its sleep. -/
def Orderly : Act ι → Prop
  | .run t answer =>
    (w.Next t .prepare → answer ≠ .succeeds) ∧
    (w.Next t .action → DispatcherLocks.Separated w.dispatcher t) ∧
    ∀ r, w.Next t (.notifyAll r) → ¬ w.Next (.player r) (.sleep r)
  | .call _ _ => True

end World

end SinkPlayer

end WifiDisplay
