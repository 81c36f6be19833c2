import WifiDisplay.BufferDispatcherReceivers

/-! `InputData` and all that it does to the buffer and to the indexes into it. -/

namespace WifiDisplay

/-- Arithmetic on `uint32_t` wraps. -/
def u32 (n : Nat) : Nat := n % 2 ^ 32

/-- `--` of a counter of type `uint32_t`. -/
def decremented (n : Nat) : Nat := u32 (n + 2 ^ 32 - 1)

/-- The place of what was at `i` once the head is gone; 0 stays 0. -/
def Index.decremented : Index → Index
  | some (i + 1) => some i
  | i => i

def DataNotifier.decremented (n : DataNotifier) : DataNotifier :=
  { n with videoIndex := Index.decremented n.videoIndex, audioIndex := Index.decremented n.audioIndex }

namespace BufferDispatcher

variable (s : BufferDispatcher)

def setBufferCapacity (capacity : Nat) : BufferDispatcher :=
  if capacity = 0 ∨ capacity > s.maxBufferCapacity then s
  else { s with circularBuffer := s.circularBuffer.setCapacity capacity }

def updateIndex : BufferDispatcher :=
  let keyIndexList := if s.keyIndexList.head? = some 0 then s.keyIndexList.tail else s.keyIndexList
  { s with
      keyIndexList := keyIndexList.map fun keyIndex => if keyIndex > 0 then keyIndex - 1 else keyIndex
      notifiers := s.notifiers.map DataNotifier.decremented
      lastVideoIndex := Index.decremented s.lastVideoIndex
      lastAudioIndex := Index.decremented s.lastAudioIndex }

def resetAllIndex : BufferDispatcher :=
  { s with
      keyIndexList := []
      notifiers := s.notifiers.map fun n => { n with videoIndex := none, audioIndex := none }
      videoNeedActivate := true
      audioNeedActivate := true
      lastAudioIndex := none
      lastVideoIndex := none }

def flushBuffer : BufferDispatcher :=
  resetAllIndex
    { s with
        circularBuffer := s.circularBuffer.clear
        waitingKey := true
        gop := 0
        audioFrameCnt := 0
        videoFrameCnt := 0 }

/-- The position of the first video frame, 0 if there is none. -/
def findNextDeleteVideoIndex : Nat := (s.circularBuffer.items.findIdx? (·.isVideoData)).getD 0

def needExtendToDBCapacity : Bool :=
  s.circularBuffer.size ≥ s.circularBuffer.capacity &&
    s.circularBuffer.capacity < s.doubleBufferCapacity && s.headFrameNeedReserve

def needRestoreToNormalCapacity : Bool :=
  s.audioFrameCnt ≥ s.circularBuffer.capacity && s.circularBuffer.capacity ≠ INITIAL_BUFFER_CAPACITY

def reCalculateCapacity (keyFrame : Bool) : BufferDispatcher :=
  let s := { s with baseCounter := u32 (s.baseCounter + 1) }
  if s.baseCounter ≥ s.circularBuffer.capacity ∧ ¬ keyFrame then
    let tmpSize := min (s.circularBuffer.capacity + s.bufferCapacityIncrement) s.maxBufferCapacity
    let s := { s with doubleBufferCapacity := min (u32 (tmpSize * 2)) s.maxBufferCapacity }
    s.setBufferCapacity tmpSize
  else if keyFrame then
    let base := max (min (u32 (s.baseCounter + s.bufferCapacityIncrement)) s.maxBufferCapacity)
      INITIAL_BUFFER_CAPACITY
    let s := { s with
        baseBufferCapacity := base
        doubleBufferCapacity := min (u32 (base * 2)) s.maxBufferCapacity
        gop := s.baseCounter
        capacityEvaluating := ¬ s.baseCounter > 0 }
    let s := s.setBufferCapacity base
    { s with baseCounter := 0 }
  else s

/-- The head leaves the buffer; `audio` tells which frame counter goes down. -/
def popHead (audio : Bool) : BufferDispatcher :=
  updateIndex
    { s with
        circularBuffer := s.circularBuffer.popFront
        audioFrameCnt := if audio then decremented s.audioFrameCnt else s.audioFrameCnt
        videoFrameCnt := if audio then s.videoFrameCnt else decremented s.videoFrameCnt }

/-- The loop of the restore counts every frame as an audio frame. -/
def restorePops : Nat → BufferDispatcher → BufferDispatcher
  | 0, s => s
  | popSize + 1, s => restorePops popSize (s.popHead true)

def restoreToNormalCapacity : BufferDispatcher :=
  let s := restorePops (s.circularBuffer.size - INITIAL_BUFFER_CAPACITY) s
  { s with
      baseBufferCapacity := INITIAL_BUFFER_CAPACITY
      doubleBufferCapacity := INITIAL_BUFFER_CAPACITY * 2
      circularBuffer := s.circularBuffer.setCapacity INITIAL_BUFFER_CAPACITY }

/-- The loop of `DeleteHeadDatas`, and whether it returned from the function. -/
def deleteLoop (forceDelete : Bool) : Nat → BufferDispatcher → BufferDispatcher × Bool
  | 0, s => (s, false)
  | size + 1, s =>
    if s.headFrameNeedReserve ∧ ¬ forceDelete then (s, false)
    else
      match s.circularBuffer.items.head? with
      | none => (s, true)
      | some head => deleteLoop forceDelete size (s.popHead head.isAudioData)

def deleteHeadDatas (size : Nat) (forceDelete : Bool) : BufferDispatcher :=
  if size = 0 then s
  else
    let (s, returned) := deleteLoop forceDelete size s
    if ¬ returned ∧ s.circularBuffer.size < s.baseBufferCapacity ∧
        s.circularBuffer.capacity > s.baseBufferCapacity then
      { s with circularBuffer := s.circularBuffer.setCapacity s.baseBufferCapacity }
    else s

/-- The last key index, which is the only one that `EraseOldGopDatas` keeps, or 0. -/
def nextKey : Nat := s.keyIndexList.getLast?.getD 0

def eraseOldGopDatas : BufferDispatcher :=
  if s.dataMode = .audioOnly then s.flushBuffer
  else
    let nextKey := s.nextKey
    let s := if nextKey > 0 then { s with keyIndexList := [nextKey] } else s
    let s := s.deleteHeadDatas nextKey false
    s.deleteHeadDatas s.findNextDeleteVideoIndex true

/-- `front()` of an empty deque is not defined. -/
def overflowPops : Nat → BufferDispatcher → Except Fault BufferDispatcher
  | 0, s => .ok s
  | n + 1, s =>
    match s.circularBuffer.items.head? with
    | none => .error .emptyContainer
    | some head => overflowPops n (s.popHead head.isAudioData)

/-- How many frames the overflow loop takes for a new frame. -/
def overflowCount (data : DataSpec) : Nat :=
  if s.circularBuffer.size ≥ s.circularBuffer.capacity then
    (if data.isVideoData then s.findNextDeleteVideoIndex else 1) + 1
  else 0

/-- The first steps of `WriteDataIntoBuffer`, on the capacity. -/
def adaptCapacity : BufferDispatcher :=
  let s := if s.needExtendToDBCapacity then s.setBufferCapacity s.doubleBufferCapacity else s
  if s.needRestoreToNormalCapacity then s.restoreToNormalCapacity else s

def eraseForKey (data : DataSpec) : BufferDispatcher :=
  if data.isKeyVideoFrame ∧ ¬ s.keyOnly then s.eraseOldGopDatas else s

/-- `WriteDataIntoBuffer` up to `push_back`. -/
def makeRoom (data : DataSpec) : Except Fault BufferDispatcher :=
  let s := s.adaptCapacity.eraseForKey data
  overflowPops (s.overflowCount data) s

def activeDataRef (type : MediaType) (keyFrame : Bool) : BufferDispatcher :=
  if type = .audio then
    { s with dataBitRef := s.notifiers.foldl (fun ref n => setTypeFlag ref n.readIndex .audio true) s.dataBitRef }
  else
    { s with
        dataBitRef := s.notifiers.foldl (fun ref n =>
          if ¬ n.isKeyModeReceiver ∨ keyFrame then setTypeFlag ref n.readIndex .video true else ref) s.dataBitRef
        notifiers := s.notifiers.map fun n =>
          if keyFrame ∧ n.isKeyModeReceiver ∧ s.keyIndexList = [] then
            { n with videoIndex := some (s.circularBuffer.size - 1) }
          else n }

def activateReceiverIndex (index : Nat) (type : MediaType) : BufferDispatcher :=
  if type = .video then
    { s with
        notifiers := s.notifiers.map fun n =>
          if n.videoIndex = none then { n with videoIndex := some index } else n
        videoNeedActivate := s.videoNeedActivate && !s.notifiers.any (·.videoIndex = none) }
  else
    { s with
        notifiers := s.notifiers.map fun n =>
          if n.audioIndex = none then { n with audioIndex := some index } else n
        audioNeedActivate := s.audioNeedActivate && !s.notifiers.any (·.audioIndex = none) }

def redirectReceiver (nextIndex : Nat) (n : DataNotifier) : BufferDispatcher :=
  match n.videoIndex with
  | none => s
  | some curIndex => s.setReceiverReadFlags n.receiverId curIndex nextIndex

def onKeyRedirect : BufferDispatcher :=
  match s.keyIndexList.getLast? with
  | none => s
  | some nextIndex =>
    let redirected := s.notifiers.filter (·.isKeyRedirectReceiver)
    let s := redirected.foldl (redirectReceiver · nextIndex) s
    { s with notifiers := s.notifiers.map fun n =>
        if n.isKeyRedirectReceiver then
          { n with
              videoIndex := some nextIndex
              receiver := if s.rapidMode then n.receiver
                else n.receiver.map fun r => { r with keyRedirect := false } }
        else n }

/-- `push_back` and the last index of the frame's type. -/
def pushBack (data : DataSpec) : BufferDispatcher :=
  let s := { s with circularBuffer := s.circularBuffer.pushBack { data with reserveFlag := 0 } }
  if data.isAudioData then
    let s := { s with lastAudioIndex := some (s.circularBuffer.size - 1) }
    let s := s.activeDataRef .audio false
    { s with audioFrameCnt := u32 (s.audioFrameCnt + 1) }
  else
    let s := { s with lastVideoIndex := some (s.circularBuffer.size - 1) }
    let s := if ¬ s.keyOnly ∨ data.isKeyVideoFrame then s.activeDataRef .video data.isKeyVideoFrame else s
    { s with videoFrameCnt := u32 (s.videoFrameCnt + 1) }

def activate (data : DataSpec) : BufferDispatcher :=
  if s.audioNeedActivate ∧ data.isAudioData then
    s.activateReceiverIndex (s.circularBuffer.size - 1) .audio
  else s

/-- What a key frame brings with it. -/
def listKey : BufferDispatcher :=
  let keyIndex := s.circularBuffer.size - 1
  let s := { s with keyIndexList := s.keyIndexList ++ [keyIndex] }
  if s.videoNeedActivate then s.activateReceiverIndex keyIndex .video else s

def redirect : BufferDispatcher :=
  if s.keyRedirect then { s.onKeyRedirect with keyRedirect := false } else s

/-- `WriteDataIntoBuffer` from `push_back` on. -/
def appendData (data : DataSpec) : BufferDispatcher :=
  let s := (s.pushBack data).activate data
  let s := if data.isKeyVideoFrame then s.listKey.redirect else s
  { s with continueNotify := true }

def writeDataIntoBuffer (data : DataSpec) : Except Fault BufferDispatcher := do
  let s ← s.makeRoom data
  return s.appendData data

def preProcessDataSpec (data : DataSpec) : Except Fault BufferDispatcher :=
  if s.waitingKey then
    if data.isAudioData then s.writeDataIntoBuffer data
    else if ¬ data.isKeyVideoFrame then .ok s
    else
      writeDataIntoBuffer
        { s.flushBuffer with
            baseCounter := u32 (s.baseCounter + 1)
            capacityEvaluating := true
            waitingKey := false } data
  else if s.capacityEvaluating then
    (s.reCalculateCapacity data.isKeyVideoFrame).writeDataIntoBuffer data
  else s.writeDataIntoBuffer data

def inputData (data : Option MediaData) : Except Fault BufferDispatcher :=
  match data with
  | none => .ok s
  | some mediaData =>
    if mediaData.buff = none then .ok s
    else
      let data : DataSpec := { mediaData, seq := s.specCount }
      let s := { s with specCount := s.specCount + 1 }
      if s.dataMode = .audioOnly then s.writeDataIntoBuffer data else s.preProcessDataSpec data

end BufferDispatcher

end WifiDisplay
