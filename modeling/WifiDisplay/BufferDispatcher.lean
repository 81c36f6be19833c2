import WifiDisplay.BitFlags
import WifiDisplay.CircularBuffer
import Mathlib.Data.Nat.Log

/-! `BufferDispatcher`: its state, and everything that receivers do to it. -/

namespace WifiDisplay

inductive MediaType where
  | av
  | audio
  | video
  deriving DecidableEq, Repr

inductive MediaDispacherMode where
  | videoOnly
  | audioOnly
  | videoAudioMixed
  deriving DecidableEq, Repr

structure MediaData where
  mediaType : MediaType
  keyFrame : Bool := false
  buff : Option (List Byte) := some []
  deriving DecidableEq, Repr

/-- `seq` tells the objects apart: it counts the `InputData` calls before this one. -/
structure DataSpec where
  mediaData : MediaData
  reserveFlag : BitVec 16 := 0
  seq : Nat
  deriving DecidableEq, Repr

/-- `none` is `INVALID_INDEX`. Every position is smaller, as capacities are of type
`uint32_t`. -/
abbrev Index := Option Nat

structure BufferReceiver where
  receiverId : Nat
  mixed : Bool := false
  keyOnly : Bool := false
  keyRedirect : Bool := false
  dataReady : Bool := false
  nonBlockAudio : Bool := false
  nonBlockVideo : Bool := false
  firstVRead : Bool := true
  firstARead : Bool := true
  firstMRead : Bool := true
  deriving DecidableEq, Repr

/-- `receiverId` is the notifier's key in `notifiers_`, and `attachment` tells the
objects apart. `receiver` is a weak pointer. -/
structure DataNotifier where
  receiverId : Nat
  attachment : Nat
  audioIndex : Index := none
  videoIndex : Index := none
  readIndex : Nat
  receiver : Option BufferReceiver
  deriving DecidableEq, Repr

def INITIAL_BUFFER_CAPACITY : Nat := 500
def MAX_BUFFER_CAPACITY : Nat := 800
def BUFFER_CAPACITY_INCREMENT : Nat := 50

structure BufferDispatcher where
  circularBuffer : CircularBuffer DataSpec := { capacity := INITIAL_BUFFER_CAPACITY }
  keyIndexList : List Nat := []
  lastAudioIndex : Index := none
  lastVideoIndex : Index := none
  notifiers : List DataNotifier := []
  readRefFlag : BitVec 16 := 0
  recvBitRef : BitVec 32 := 0
  dataBitRef : BitVec 32 := 0
  videoNeedActivate : Bool := false
  audioNeedActivate : Bool := false
  capacityEvaluating : Bool := false
  keyOnly : Bool := false
  keyRedirect : Bool := false
  rapidMode : Bool := false
  waitingKey : Bool := true
  continueNotify : Bool := false
  baseCounter : Nat := 0
  videoFrameCnt : Nat := 0
  audioFrameCnt : Nat := 0
  gop : Nat := 0
  maxBufferCapacity : Nat := MAX_BUFFER_CAPACITY
  baseBufferCapacity : Nat := INITIAL_BUFFER_CAPACITY
  doubleBufferCapacity : Nat := INITIAL_BUFFER_CAPACITY * 2
  bufferCapacityIncrement : Nat := BUFFER_CAPACITY_INCREMENT
  dataMode : MediaDispacherMode := .videoAudioMixed
  specCount : Nat := 0
  notifierCount : Nat := 0
  deriving DecidableEq, Repr

namespace DataSpec

def isVideoData (d : DataSpec) : Bool := d.mediaData.mediaType = .video

def isAudioData (d : DataSpec) : Bool := d.mediaData.mediaType = .audio

def isKeyVideoFrame (d : DataSpec) : Bool := d.isVideoData && d.mediaData.keyFrame

end DataSpec

namespace DataNotifier

def isKeyModeReceiver (n : DataNotifier) : Bool := n.receiver.any (·.keyOnly)

def isKeyRedirectReceiver (n : DataNotifier) : Bool := n.receiver.any (·.keyRedirect)

def isMixedReceiver (n : DataNotifier) : Bool := n.receiver.any (·.mixed)

def getReceiverReadIndex (n : DataNotifier) : MediaType → Index
  | .video => n.videoIndex
  | .audio => n.audioIndex
  | .av =>
    match n.audioIndex, n.videoIndex with
    | some a, some v => some (min a v)
    | none, v => v
    | a, none => a

def setReadIndexes (n : DataNotifier) (index : Index) : MediaType → DataNotifier
  | .video => { n with videoIndex := index }
  | .audio => { n with audioIndex := index }
  | .av => { n with videoIndex := index, audioIndex := index }

end DataNotifier

/-- The bit of `recvBitRef_` and `dataBitRef_` for a slot. -/
def refBit (index : Nat) : MediaType → Option Nat
  | .audio => some (2 * index)
  | .video => some (2 * index + 1)
  | .av => none

def setTypeFlag (ref : BitVec 32) (index : Nat) (type : MediaType) (ready : Bool) : BitVec 32 :=
  match refBit index type with
  | none => ref
  | some bit => setFlag ref bit ready

namespace BufferDispatcher

variable (s : BufferDispatcher)

def findNotifier (receiverId : Nat) : Option DataNotifier :=
  s.notifiers.find? (·.receiverId = receiverId)

def modifyNotifier (receiverId : Nat) (f : DataNotifier → DataNotifier) : BufferDispatcher :=
  { s with notifiers := s.notifiers.map fun n => if n.receiverId = receiverId then f n else n }

def modifyReceiver (receiverId : Nat) (f : BufferReceiver → BufferReceiver) : BufferDispatcher :=
  s.modifyNotifier receiverId fun n => { n with receiver := n.receiver.map f }

def findReceiverIndex (receiverId : Nat) : Index := (s.findNotifier receiverId).map (·.readIndex)

def isDataReaded (receiverId : Nat) (d : DataSpec) : Bool :=
  match s.findReceiverIndex receiverId with
  | none => false
  | some index => d.reserveFlag.getLsbD index

def isRead (receiverId : Nat) (index : Nat) : Bool :=
  match s.circularBuffer.items[index]? with
  | none => true
  | some d => s.isDataReaded receiverId d

/-- `SetReceiverReadFlag` for the frames from `first` up to `last`, without it. -/
def setReceiverReadFlags (receiverId first last : Nat) : BufferDispatcher :=
  match s.findReceiverIndex receiverId with
  | none => s
  | some index =>
    { s with circularBuffer := { s.circularBuffer with
        items := s.circularBuffer.items.mapIdx fun i d =>
          if first ≤ i ∧ i < last then { d with reserveFlag := setFlag d.reserveFlag index true }
          else d } }

def headFrameNeedReserve : Bool := s.circularBuffer.items.head?.any (·.reserveFlag ≠ s.readRefFlag)

def setReceiverDataRef (receiverId : Nat) (type : MediaType) (ready : Bool) : BufferDispatcher :=
  match s.findReceiverIndex receiverId with
  | none => s
  | some index => { s with dataBitRef := setTypeFlag s.dataBitRef index type ready }

def setReceiverReadRef (receiverId : Nat) (type : MediaType) (ready : Bool) : BufferDispatcher :=
  match s.findReceiverIndex receiverId with
  | none => s
  | some index => { s with recvBitRef := setTypeFlag s.recvBitRef index type ready }

def clearReadBit (receiverId : Nat) (type : MediaType) : BufferDispatcher :=
  if type ≠ .av then s.setReceiverReadRef receiverId type false
  else (s.setReceiverReadRef receiverId .video false).setReceiverReadRef receiverId .audio false

def clearDataBit (receiverId : Nat) (type : MediaType) : BufferDispatcher :=
  if type ≠ .av then s.setReceiverDataRef receiverId type false
  else (s.setReceiverDataRef receiverId .video false).setReceiverDataRef receiverId .audio false

/-- The frames that a read of this type moves on to. -/
def wanted (keyMode : Bool) (type : MediaType) (d : DataSpec) : Bool :=
  d.mediaData.mediaType = type && (!(keyMode && type = .video) || d.isKeyVideoFrame)

/-- `FindNextIndex`; with the key mode of a receiver it is the overload that takes
the receiver's id. -/
def findNextIndex (index : Nat) (type : MediaType) (keyMode : Bool) : Nat :=
  if index + 1 ≥ s.circularBuffer.size then index
  else if type = .av then index + 1
  else
    match (s.circularBuffer.items.drop (index + 1)).findIdx? (wanted keyMode type) with
    | none => index
    | some k => index + 1 + k

/-- In key mode the frames that are passed over count as read. -/
def updateReceiverReadIndex (n : DataNotifier) (readIndex : Nat) (type : MediaType) :
    BufferDispatcher :=
  let keyMode := s.keyOnly || n.isKeyModeReceiver
  let nextIndex := s.findNextIndex readIndex type keyMode
  let s := if keyMode ∧ type = .video then
      s.setReceiverReadFlags n.receiverId (readIndex + 1) nextIndex
    else s
  s.modifyNotifier n.receiverId fun n => n.setReadIndexes (some nextIndex) type

/-- The frame is the one handed to the callback; no frame is the result -1. -/
def readBufferData (receiverId : Nat) (type : MediaType) : Option DataSpec × BufferDispatcher :=
  match s.findNotifier receiverId with
  | none => (none, s)
  | some n =>
    match n.getReceiverReadIndex type with
    | none => (none, s)
    | some readIndex =>
      match s.circularBuffer.items[readIndex]? with
      | none => (none, s)
      | some data =>
        if (s.keyOnly || n.isKeyModeReceiver) ∧ type = .video ∧ ¬ data.isKeyVideoFrame then
          (none, s.updateReceiverReadIndex n readIndex type)
        else if s.isDataReaded receiverId data then
          (none, s.updateReceiverReadIndex n readIndex type)
        else
          (some data, (s.setReceiverReadFlags receiverId readIndex (readIndex + 1)).updateReceiverReadIndex
            n readIndex type)

/-- `a < b` on `uint32_t`. -/
def indexLt : Index → Index → Bool
  | none, _ => false
  | some _, none => true
  | some a, some b => a < b

def dataAvailable (n : DataNotifier) (type : MediaType) : Bool :=
  let isRead (index : Nat) : Bool :=
    match n.receiver with
    -- an expired receiver has lost its id, and no slot is found for INVALID_INDEX
    | none => s.circularBuffer.items[index]?.isNone
    | some _ => s.isRead n.receiverId index
  match type with
  | .audio => n.audioIndex.any fun i => indexLt (some i) s.lastAudioIndex || !isRead (i + 1)
  | .video => n.videoIndex.any fun i => indexLt (some i) s.lastVideoIndex || !isRead (i + 1)
  | .av => n.videoIndex.any fun i =>
      (s.circularBuffer.size > 0 && i < s.circularBuffer.size - 1) || !isRead (i + 1)

def notifyReadReady (receiverId : Nat) (type : MediaType) : BufferDispatcher :=
  match s.findNotifier receiverId with
  | none => s
  | some n =>
    let s := if type = .av then
        (s.setReceiverReadRef receiverId .video true).setReceiverReadRef receiverId .audio true
      else s.setReceiverReadRef receiverId type true
    let available := s.dataAvailable n type
    let s := if type = .av then
        (s.setReceiverDataRef receiverId .video available).setReceiverDataRef receiverId .audio available
      else s.setReceiverDataRef receiverId type available
    if available then { s with continueNotify := true } else s

end BufferDispatcher

end WifiDisplay
