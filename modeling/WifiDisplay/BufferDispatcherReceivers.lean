import WifiDisplay.BufferDispatcher

/-! The receivers of a `BufferDispatcher`: attaching and detaching them, their own
switches, and how the notifying thread wakes them. -/

namespace WifiDisplay

namespace BufferReceiver

/-- The flag that `RequestRead` waits for. -/
def notified (r : BufferReceiver) : MediaType → Bool
  | .audio => r.nonBlockAudio
  | .video => r.nonBlockVideo
  | .av => r.dataReady

def setNotified (r : BufferReceiver) (ready : Bool) : MediaType → BufferReceiver
  | .audio => { r with nonBlockAudio := ready }
  | .video => { r with nonBlockVideo := ready }
  | .av => { r with dataReady := ready }

def notifyReadStart (r : BufferReceiver) : BufferReceiver :=
  { r with firstARead := true, firstVRead := true, firstMRead := true }

def notifyReadStop (r : BufferReceiver) : BufferReceiver :=
  { r with nonBlockAudio := true, nonBlockVideo := true, dataReady := true }

end BufferReceiver

namespace BufferDispatcher

variable (s : BufferDispatcher)

/-- The lowest bit that `readRefFlag_` does not have, in the arithmetic of `int`. -/
def usableRef : BitVec 32 := ~~~(s.readRefFlag.setWidth 32) &&& -(~~~(s.readRefFlag.setWidth 32))

/-- Where a new receiver starts: the audio index and the video index. -/
def attachIndexes : Index × Index :=
  if s.circularBuffer.items = [] then (none, none)
  else if s.dataMode = .audioOnly then (some (s.circularBuffer.size - 1), none)
  else
    match s.keyIndexList.getLast? with
    | some key =>
      let tempIndex := s.findNextIndex key .audio s.keyOnly
      (if tempIndex = key then none else some tempIndex, some key)
    | none => (s.lastAudioIndex, none)

/-- Which kinds of data a new receiver is told to be there: audio and video. -/
def attachDataRefs : Bool × Bool :=
  if s.circularBuffer.items = [] then (false, false)
  else if s.dataMode = .audioOnly then (true, false)
  -- the code tests the index that `FindNextIndex` returned, which is never INVALID_INDEX
  else if s.keyIndexList ≠ [] then (true, true)
  else (true, false)

def newNotifier (receiver : BufferReceiver) : DataNotifier :=
  { receiverId := receiver.receiverId
    attachment := s.notifierCount
    audioIndex := s.attachIndexes.1
    videoIndex := s.attachIndexes.2
    readIndex := Nat.log2 s.usableRef.toNat
    receiver := some receiver.notifyReadStart }

def attachReceiver (receiver : BufferReceiver) : BufferDispatcher :=
  if (s.findNotifier receiver.receiverId).isSome then s
  else if s.readRefFlag = 0xFFFF then s
  else if s.usableRef &&& (s.usableRef - 1) ≠ 0 then s
  else
    let attached :=
      { s with
          notifierCount := s.notifierCount + 1
          readRefFlag := s.readRefFlag ||| s.usableRef.setWidth 16
          notifiers := s.notifiers ++ [s.newNotifier receiver] }
    let attached := attached.setReceiverDataRef receiver.receiverId .audio s.attachDataRefs.1
    let attached := attached.setReceiverDataRef receiver.receiverId .video s.attachDataRefs.2
    if s.circularBuffer.items = [] then
      { attached with videoNeedActivate := true, audioNeedActivate := true }
    else if s.dataMode ≠ .audioOnly ∧ s.lastAudioIndex = none then
      { attached with audioNeedActivate := true }
    else attached

/-- `DetachReceiver` with the notifier that was found. -/
def detachNotifier (n : DataNotifier) : BufferDispatcher :=
  let s := (s.setReceiverReadRef n.receiverId .audio false).setReceiverReadRef n.receiverId .video false
  { s with
      readRefFlag := setFlag s.readRefFlag n.readIndex false
      notifiers := s.notifiers.filter (·.receiverId ≠ n.receiverId) }

def detachReceiver (receiverId : Nat) : BufferDispatcher :=
  match s.findNotifier receiverId with
  | none => s
  | some n => s.detachNotifier n

/-- Notifiers whose receiver has expired only leave the map. -/
def releaseAllReceiver : BufferDispatcher :=
  { (s.notifiers.filter (·.receiver.isSome)).foldl detachNotifier s with notifiers := [] }

def cancelReserve : BufferDispatcher :=
  { s with circularBuffer := { s.circularBuffer with
      items := s.circularBuffer.items.map fun d => { d with reserveFlag := 0xff } } }

/-- The start of `RequestRead`, up to the wait. -/
def requestRead (receiverId : Nat) (type : MediaType) : BufferDispatcher :=
  match s.findNotifier receiverId with
  | none => s
  | some n =>
    match n.receiver, type with
    | none, _ => s
    | some r, .av =>
      if r.firstMRead then
        (s.notifyReadReady receiverId .av).modifyReceiver receiverId
          fun r => { r with mixed := true, firstMRead := false }
      else s
    | some r, .audio =>
      if r.firstARead then
        (s.notifyReadReady receiverId .audio).modifyReceiver receiverId fun r => { r with firstARead := false }
      else s
    | some r, .video =>
      if r.firstVRead then
        (s.notifyReadReady receiverId .video).modifyReceiver receiverId fun r => { r with firstVRead := false }
      else s

/-- The wait of `RequestRead` goes on once the flag is set, and clears it. -/
def awaitData (receiverId : Nat) (type : MediaType) : BufferDispatcher :=
  s.modifyReceiver receiverId (·.setNotified false type)

/-- The bits of the receiver for which data is there and waited for: audio and video. -/
def notifyRef (n : DataNotifier) : Bool × Bool :=
  let notifyRef := s.dataBitRef &&& s.recvBitRef
  (notifyRef.getLsbD (2 * n.readIndex), notifyRef.getLsbD (2 * n.readIndex + 1))

def notifyType (n : DataNotifier) : Option MediaType :=
  if (s.notifyRef n).1 || (s.notifyRef n).2 then
    if n.isMixedReceiver then some .av
    else if (s.notifyRef n).1 then some .audio else some .video
  else none

def notifyDataReceiver (n : DataNotifier) : DataNotifier :=
  match s.notifyType n with
  | none => n
  | some type => { n with receiver := n.receiver.map (·.setNotified true type) }

/-- One turn of `NotifyThreadWorker`, which waits for `continueNotify_` between two turns. -/
def notifyThreadWorker : BufferDispatcher :=
  if s.continueNotify then
    { s with continueNotify := false, notifiers := s.notifiers.map s.notifyDataReceiver }
  else s

/-- `BufferReceiver::EnableKeyMode` of an attached receiver. -/
def enableReceiverKeyMode (receiverId : Nat) (enable : Bool) : BufferDispatcher :=
  let s := s.modifyReceiver receiverId fun r => { r with keyOnly := enable }
  if enable then s.clearDataBit receiverId .video else s

/-- `BufferReceiver::EnableKeyRedirect` of an attached receiver. -/
def enableReceiverKeyRedirect (receiverId : Nat) (enable : Bool) : BufferDispatcher :=
  let s := s.modifyReceiver receiverId fun r => { r with keyRedirect := enable }
  if enable then { s with keyRedirect := true } else s

end BufferDispatcher

end WifiDisplay
