import WifiDisplay.LockSystem

/-! The order in which the operations of `BufferDispatcher` take `bufferMutex_`
and `notifyMutex_`. Each function is the language of the lock operations on its
paths; `idleMutex_` is never held around another lock and is left out. -/

namespace WifiDisplay

open LockSystem Computability

inductive DispatcherMutex where
  | bufferMutex
  | notifyMutex
  deriving DecidableEq, Repr

namespace DispatcherLocks

open DispatcherMutex

abbrev Paths := Language (Action DispatcherMutex)

/-- `std::lock_guard` or `std::unique_lock` on `notifyMutex_`. -/
def lockNotify (body : Paths) : Paths := guarded notifyMutex .exclusive body

/-- `std::shared_lock` on `bufferMutex_`. -/
def sharedLockBuffer (body : Paths) : Paths := guarded bufferMutex .shared body

/-- `std::unique_lock` or `std::lock_guard` on `bufferMutex_`. -/
def uniqueLockBuffer (body : Paths) : Paths := guarded bufferMutex .exclusive body

def getNotifierByReceiverId : Paths := lockNotify 1

def getNotifierByReceiverPtr : Paths := getNotifierByReceiverId

def isRecevierExist : Paths := getNotifierByReceiverId

/-- An empty buffer is answered without the lock. -/
def headFrameNeedReserve : Paths := 1 + lockNotify 1

def updateIndex : Paths := lockNotify 1

def resetAllIndex : Paths := lockNotify 1

def activeDataRef : Paths := lockNotify 1

def activateReceiverIndex : Paths := lockNotify 1

def onKeyRedirect : Paths := lockNotify 1

/-- The three argument overload; it returns early at the end of the buffer. -/
def findNextIndex : Paths := 1 + getNotifierByReceiverId

def updateReceiverReadIndex : Paths := findNextIndex * getNotifierByReceiverId

def attachReceiver : Paths :=
  1 + isRecevierExist * (1 + lockNotify (1 + uniqueLockBuffer 1))

def detachReceiver : Paths :=
  1 + isRecevierExist * (1 + getNotifierByReceiverPtr * (1 + lockNotify 1))

def readBufferData : Paths :=
  getNotifierByReceiverId * (1 + sharedLockBuffer (1 + updateReceiverReadIndex))

def notifyReadReady : Paths :=
  getNotifierByReceiverId * (1 + sharedLockBuffer (lockNotify 1))

def flushBuffer : Paths := uniqueLockBuffer resetAllIndex

def setBufferCapacity : Paths := 1 + uniqueLockBuffer 1

def needExtendToDBCapacity : Paths := sharedLockBuffer (1 + headFrameNeedReserve)

def needRestoreToNormalCapacity : Paths := sharedLockBuffer 1

/-- The loop leaves after its first test or after the body. -/
def deleteHeadDatas : Paths :=
  1 + (headFrameNeedReserve * headFrameNeedReserve * updateIndex)∗ * (1 + headFrameNeedReserve)

def eraseOldGopDatas : Paths :=
  flushBuffer + uniqueLockBuffer (lockNotify 1 * deleteHeadDatas * deleteHeadDatas)

/-- The pops of the capacity restore and of the overflow loop. -/
def popHeads : Paths := (headFrameNeedReserve * updateIndex)∗

/-- What `WriteDataIntoBuffer` does after `push_back`, for audio and for video. -/
def announceWrite : Paths :=
  activeDataRef * (1 + activateReceiverIndex) +
    (1 + activeDataRef) * (1 + lockNotify 1 * (1 + activateReceiverIndex) * (1 + onKeyRedirect))

def writeDataIntoBuffer : Paths :=
  1 + needExtendToDBCapacity * (1 + setBufferCapacity) *
    needRestoreToNormalCapacity * (1 + uniqueLockBuffer popHeads) *
    (1 + eraseOldGopDatas) * uniqueLockBuffer (popHeads * announceWrite)

def reCalculateCapacity : Paths := 1 + setBufferCapacity

def preProcessDataSpec : Paths :=
  1 + (1 + flushBuffer + reCalculateCapacity) * writeDataIntoBuffer

def inputData : Paths := 1 + writeDataIntoBuffer + preProcessDataSpec

/-- The calls that any thread may make on one dispatcher. -/
def operations : Paths :=
  attachReceiver + detachReceiver + readBufferData + notifyReadReady + inputData + flushBuffer

/-! Every operation but `AttachReceiver` takes `notifyMutex_` last. -/

/-- No operation takes a lock it holds, `notifyMutex_` has no shared mode, and
`bufferMutex_` is only taken exclusively under `notifyMutex_`. -/
def policy (h : List (DispatcherMutex × Mode)) (l : DispatcherMutex) (m : Mode) : Prop :=
  (∀ p ∈ h, p.1 ≠ l) ∧ (l = notifyMutex ∨ h ≠ [] → m = .exclusive)

def notifyFree : Set (List (DispatcherMutex × Mode)) := {h | ∀ p ∈ h, p.1 ≠ notifyMutex}

theorem runs_lockNotify : RunsIn policy notifyFree (lockNotify 1) :=
  RunsIn.guarded (fun _ hh => ⟨hh, fun _ => rfl⟩) RunsIn.one

theorem runs_headFrameNeedReserve : RunsIn policy notifyFree headFrameNeedReserve :=
  RunsIn.one.add runs_lockNotify

theorem runs_popHeads : RunsIn policy notifyFree popHeads :=
  (runs_headFrameNeedReserve.mul runs_lockNotify).kstar

theorem runs_deleteHeadDatas : RunsIn policy notifyFree deleteHeadDatas :=
  RunsIn.one.add ((((runs_headFrameNeedReserve.mul runs_headFrameNeedReserve).mul
    runs_lockNotify).kstar).mul (RunsIn.one.add runs_headFrameNeedReserve))

theorem runs_updateReceiverReadIndex : RunsIn policy notifyFree updateReceiverReadIndex :=
  (RunsIn.one.add runs_lockNotify).mul runs_lockNotify

theorem runs_announceWrite : RunsIn policy notifyFree announceWrite :=
  (runs_lockNotify.mul (RunsIn.one.add runs_lockNotify)).add
    ((RunsIn.one.add runs_lockNotify).mul (RunsIn.one.add
      ((runs_lockNotify.mul (RunsIn.one.add runs_lockNotify)).mul
        (RunsIn.one.add runs_lockNotify))))

theorem nil_subset_notifyFree :
    ({[]} : Set (List (DispatcherMutex × Mode))) ⊆ notifyFree := by
  rintro h rfl p hp
  simp at hp

theorem runs_notify : RunsIn policy {[]} (lockNotify 1) :=
  runs_lockNotify.mono nil_subset_notifyFree

theorem runs_buffer {m : Mode} {body : Paths} (h : RunsIn policy notifyFree body) :
    RunsIn policy {[]} (guarded bufferMutex m body) := by
  refine RunsIn.guarded (fun h hh => ?_) (h.mono ?_)
  · obtain rfl : h = [] := hh
    exact ⟨by simp, by simp⟩
  · rintro t ⟨h, hh, rfl⟩ p hp
    obtain rfl : h = [] := hh
    obtain rfl : p = (bufferMutex, m) := by simpa using hp
    simp

theorem runs_attachReceiver : RunsIn policy {[]} attachReceiver := by
  refine RunsIn.one.add (runs_notify.mul (RunsIn.one.add ?_))
  refine RunsIn.guarded (fun h hh => ?_) (RunsIn.one.add (RunsIn.guarded ?_ RunsIn.one))
  · obtain rfl : h = [] := hh
    exact ⟨by simp, by simp⟩
  · rintro t ⟨h, hh, rfl⟩
    obtain rfl : h = [] := hh
    exact ⟨by simp, by simp⟩

theorem runs_flushBuffer : RunsIn policy {[]} flushBuffer := runs_buffer runs_lockNotify

theorem runs_setBufferCapacity : RunsIn policy {[]} setBufferCapacity :=
  RunsIn.one.add (runs_buffer RunsIn.one)

theorem runs_writeDataIntoBuffer : RunsIn policy {[]} writeDataIntoBuffer := by
  have hextend := runs_buffer (m := .shared) (RunsIn.one.add runs_headFrameNeedReserve)
  have hrestore := RunsIn.one.add (runs_buffer (m := .exclusive) runs_popHeads)
  have herase := runs_flushBuffer.add (runs_buffer (m := .exclusive)
    ((runs_lockNotify.mul runs_deleteHeadDatas).mul runs_deleteHeadDatas))
  have hwrite := runs_buffer (m := .exclusive) (runs_popHeads.mul runs_announceWrite)
  exact RunsIn.one.add (((((hextend.mul (RunsIn.one.add runs_setBufferCapacity)).mul
    (runs_buffer RunsIn.one)).mul hrestore).mul (RunsIn.one.add herase)).mul hwrite)

theorem runs_inputData : RunsIn policy {[]} inputData := by
  have hrecalculate := RunsIn.one.add runs_setBufferCapacity
  exact (RunsIn.one.add runs_writeDataIntoBuffer).add (RunsIn.one.add
    (((RunsIn.one.add runs_flushBuffer).add hrecalculate).mul runs_writeDataIntoBuffer))

theorem runs_operations : RunsIn policy {[]} operations := by
  have hdetach : RunsIn policy {[]} detachReceiver :=
    RunsIn.one.add (runs_notify.mul (RunsIn.one.add
      (runs_notify.mul (RunsIn.one.add runs_notify))))
  have hread : RunsIn policy {[]} readBufferData :=
    runs_notify.mul (RunsIn.one.add (runs_buffer (RunsIn.one.add runs_updateReceiverReadIndex)))
  have hready : RunsIn policy {[]} notifyReadReady :=
    runs_notify.mul (RunsIn.one.add (runs_buffer runs_lockNotify))
  exact ((((runs_attachReceiver.add hdetach).add hread).add hready).add runs_inputData).add
    runs_flushBuffer

end DispatcherLocks

end WifiDisplay
