import WifiDisplay.BufferDispatcherInput
import WifiDisplay.GuardedRuns

/-! The calls that a `BufferDispatcher` answers, and the history of a run of them. -/

namespace WifiDisplay

/-- The public operations, the parts of `RequestRead`, the switches of an attached
receiver, and the turns of the notifying thread. -/
inductive Call where
  | inputData (mediaData : Option MediaData)
  | flushBuffer
  | setBufferCapacity (capacity : Nat)
  | enableKeyMode (enable : Bool)
  | enableRapidMode (enable : Bool)
  | enableKeyRedirect (enable : Bool)
  | cancelReserve
  | attachReceiver (receiver : BufferReceiver)
  | detachReceiver (receiverId : Nat)
  | releaseAllReceiver
  | requestRead (receiverId : Nat) (type : MediaType)
  | awaitData (receiverId : Nat) (type : MediaType)
  | clearDataBit (receiverId : Nat) (type : MediaType)
  | clearReadBit (receiverId : Nat) (type : MediaType)
  | readBufferData (receiverId : Nat) (type : MediaType)
  | notifyReadReady (receiverId : Nat) (type : MediaType)
  | notifyReadStart (receiverId : Nat)
  | notifyReadStop (receiverId : Nat)
  | enableReceiverKeyMode (receiverId : Nat) (enable : Bool)
  | enableReceiverKeyRedirect (receiverId : Nat) (enable : Bool)
  | expire (receiverId : Nat)
  | notifyThreadWorker
  deriving DecidableEq, Repr

namespace BufferDispatcher

def create (maxCapacity capacityIncrement : Nat) (dataMode : MediaDispacherMode) :
    BufferDispatcher :=
  { maxBufferCapacity := maxCapacity, bufferCapacityIncrement := capacityIncrement, dataMode }

def exec (s : BufferDispatcher) : Call → Except Fault BufferDispatcher
  | .inputData mediaData => s.inputData mediaData
  | .flushBuffer => .ok s.flushBuffer
  | .setBufferCapacity capacity => .ok (s.setBufferCapacity capacity)
  | .enableKeyMode enable => .ok { s with keyOnly := enable }
  | .enableRapidMode enable => .ok { s with rapidMode := enable }
  | .enableKeyRedirect enable => .ok { s with keyRedirect := enable }
  | .cancelReserve => .ok s.cancelReserve
  | .attachReceiver receiver => .ok (s.attachReceiver receiver)
  | .detachReceiver receiverId => .ok (s.detachReceiver receiverId)
  | .releaseAllReceiver => .ok s.releaseAllReceiver
  | .requestRead receiverId type => .ok (s.requestRead receiverId type)
  | .awaitData receiverId type => .ok (s.awaitData receiverId type)
  | .clearDataBit receiverId type => .ok (s.clearDataBit receiverId type)
  | .clearReadBit receiverId type => .ok (s.clearReadBit receiverId type)
  | .readBufferData receiverId type => .ok (s.readBufferData receiverId type).2
  | .notifyReadReady receiverId type => .ok (s.notifyReadReady receiverId type)
  | .notifyReadStart receiverId => .ok (s.modifyReceiver receiverId (·.notifyReadStart))
  | .notifyReadStop receiverId => .ok (s.modifyReceiver receiverId (·.notifyReadStop))
  | .enableReceiverKeyMode receiverId enable => .ok (s.enableReceiverKeyMode receiverId enable)
  | .enableReceiverKeyRedirect receiverId enable => .ok (s.enableReceiverKeyRedirect receiverId enable)
  | .expire receiverId => .ok (s.modifyNotifier receiverId fun n => { n with receiver := none })
  | .notifyThreadWorker => .ok s.notifyThreadWorker

end BufferDispatcher

/-- A frame in a receiver's callback. -/
structure Handed where
  receiverId : Nat
  attachment : Nat
  type : MediaType
  data : DataSpec
  deriving DecidableEq, Repr

/-- A dispatcher with what happened to it: the frames that were passed to `InputData`
in the order of their `seq`, the callbacks, the frames that the video index of an
attached receiver has passed, and the reads under way. -/
structure History where
  dispatcher : BufferDispatcher
  inputs : List MediaData := []
  handed : List Handed := []
  passed : List (Nat × Nat) := []
  reading : List (Nat × MediaType) := []
  deriving DecidableEq, Repr

namespace BufferDispatcher

variable (s : BufferDispatcher)

def handedBy : Call → List Handed
  | .readBufferData receiverId type =>
    match s.findNotifier receiverId, (s.readBufferData receiverId type).1 with
    | some n, some data => [⟨receiverId, n.attachment, type, data⟩]
    | _, _ => []
  | _ => []

/-- The buffered frames that the video index of a notifier has passed between two states. -/
def passedBy (s' : BufferDispatcher) (n : DataNotifier) : List (Nat × Nat) :=
  match n.videoIndex.bind (s.circularBuffer.items[·]?), (s'.findNotifier n.receiverId).bind (·.videoIndex) with
  | some d, some j =>
    ((s'.circularBuffer.items.take j).filter (d.seq ≤ ·.seq)).map fun d' => (n.attachment, d'.seq)
  | _, _ => []

/-- A key frame takes this receiver's video index to itself: in key mode if it is the only
key, or by a redirection. -/
def skips (s' : BufferDispatcher) (n : DataNotifier) : Bool :=
  n.isKeyModeReceiver && s'.keyIndexList.length = 1 || s.keyRedirect && n.isKeyRedirectReceiver

/-- Receivers pass frames in key mode by reading, and when a key frame takes their index. -/
def passings (call : Call) (s' : BufferDispatcher) : List (Nat × Nat) :=
  match call with
  | .readBufferData receiverId .video =>
    match s.findNotifier receiverId with
    | some n => if s.keyOnly || n.isKeyModeReceiver then s.passedBy s' n else []
    | none => []
  | .inputData (some m) =>
    if m.mediaType = .video && m.keyFrame then (s.notifiers.filter (s.skips s')).flatMap (s.passedBy s')
    else []
  | _ => []

def inputsOf : Call → List MediaData
  | .inputData (some m) => if m.buff = none then [] else [m]
  | _ => []

end BufferDispatcher

/-- Frames without any bytes, for the runs of this development. -/
def Call.audio : Call := .inputData (some { mediaType := .audio })

def Call.video : Call := .inputData (some { mediaType := .video })

def Call.key : Call := .inputData (some { mediaType := .video, keyFrame := true })

/-- A read is under way from the end of its wait, or from `ClearDataBit`, until
`NotifyReadReady`. -/
def BufferDispatcher.nowReading (s : BufferDispatcher) (reading : List (Nat × MediaType)) :
    Call → List (Nat × MediaType)
  | .awaitData receiverId type =>
    if (s.findNotifier receiverId).any fun n => n.receiver.any (·.notified type) then
      (receiverId, type) :: reading
    else reading
  | .clearDataBit receiverId type => (receiverId, type) :: reading
  | .notifyReadReady receiverId type => reading.filter (· ≠ (receiverId, type))
  | _ => reading

namespace History

def step (h : History) (call : Call) : Except Fault History := do
  let dispatcher ← h.dispatcher.exec call
  return {
    dispatcher
    inputs := h.inputs ++ BufferDispatcher.inputsOf call
    handed := h.handed ++ h.dispatcher.handedBy call
    passed := h.passed ++ h.dispatcher.passings call dispatcher
    reading := h.dispatcher.nowReading h.reading call }

/-- Runs of a new dispatcher whose steps all meet a condition. -/
def Run (ok : History → Call → Prop) (maxCapacity capacityIncrement : Nat)
    (dataMode : MediaDispacherMode) : List Call → History → Prop :=
  GuardedRun step ok { dispatcher := BufferDispatcher.create maxCapacity capacityIncrement dataMode }

/-- The run of these calls, if all its steps meet the condition. -/
def runOf (ok : History → Call → Prop) [∀ h call, Decidable (ok h call)] (calls : List Call)
    (maxCapacity : Nat := MAX_BUFFER_CAPACITY)
    (dataMode : MediaDispacherMode := .videoAudioMixed) : Option History :=
  GuardedRun.check step ok
    { dispatcher := BufferDispatcher.create maxCapacity BUFFER_CAPACITY_INCREMENT dataMode } calls

theorem step_ok {h h' : History} {call : Call} (hs : h.step call = .ok h') :
    h.dispatcher.exec call = .ok h'.dispatcher ∧
      h'.inputs = h.inputs ++ BufferDispatcher.inputsOf call ∧
      h'.handed = h.handed ++ h.dispatcher.handedBy call ∧
      h'.passed = h.passed ++ h.dispatcher.passings call h'.dispatcher ∧
      h'.reading = h.dispatcher.nowReading h.reading call := by
  obtain ⟨d, hd, hs⟩ := bind_eq_ok.mp hs
  cases hs
  exact ⟨hd, rfl, rfl, rfl, rfl⟩

end History

end WifiDisplay
