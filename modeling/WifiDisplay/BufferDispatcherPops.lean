import WifiDisplay.BufferDispatcherSlots

/-! The frames that leave the head of the buffer one by one, and the calls that take none. -/

namespace WifiDisplay

/-- A `front()` or `pop_front()`: the size of the buffer before it, and the frame counter that
goes down with it. The pop inside `push_back` goes without a counter. -/
structure Pop where
  size : Nat
  counter : Option Nat
  deriving DecidableEq, Repr

namespace BufferDispatcher

variable (s : BufferDispatcher)

def pop (audio : Bool) : Pop :=
  ⟨s.circularBuffer.size, some (if audio then s.audioFrameCnt else s.videoFrameCnt)⟩

def restorePopList : Nat → BufferDispatcher → List Pop
  | 0, _ => []
  | popSize + 1, s => s.pop true :: restorePopList popSize (s.popHead true)

def deletePopList (forceDelete : Bool) : Nat → BufferDispatcher → List Pop
  | 0, _ => []
  | size + 1, s =>
    if s.headFrameNeedReserve ∧ ¬ forceDelete then []
    else
      match s.circularBuffer.items.head? with
      | none => []
      | some head => s.pop head.isAudioData :: deletePopList forceDelete size (s.popHead head.isAudioData)

/-- The loop looks at the front before it knows that there is one. -/
def overflowPopList : Nat → BufferDispatcher → List Pop
  | 0, _ => []
  | n + 1, s =>
    match s.circularBuffer.items.head? with
    | none => [⟨0, none⟩]
    | some head => s.pop head.isAudioData :: overflowPopList n (s.popHead head.isAudioData)

/-- The dispatcher behind the first adaptive rule. -/
def extended : BufferDispatcher :=
  if s.needExtendToDBCapacity then s.setBufferCapacity s.doubleBufferCapacity else s

def adaptPops : List Pop :=
  if s.extended.needRestoreToNormalCapacity then
    restorePopList (s.extended.circularBuffer.size - INITIAL_BUFFER_CAPACITY) s.extended
  else []

def erasePops (data : DataSpec) : List Pop :=
  if data.isKeyVideoFrame ∧ ¬ s.keyOnly ∧ s.dataMode ≠ .audioOnly then
    let listed := if s.nextKey > 0 then { s with keyIndexList := [s.nextKey] } else s
    let erased := listed.deleteHeadDatas s.nextKey false
    deletePopList false s.nextKey listed ++
      deletePopList true erased.findNextDeleteVideoIndex erased
  else []

/-- The pops of `WriteDataIntoBuffer` ahead of `push_back`. -/
def makeRoomPops (data : DataSpec) : List Pop :=
  let erased := s.adaptCapacity.eraseForKey data
  s.adaptPops ++ s.adaptCapacity.erasePops data ++ overflowPopList (erased.overflowCount data) erased

/-- The dispatcher that `WriteDataIntoBuffer` begins with. -/
def prepared (mediaData : MediaData) : BufferDispatcher :=
  if s.dataMode ≠ .audioOnly ∧ s.waitingKey ∧ ¬ (s.newData mediaData).isAudioData then
    { s.counted.flushBuffer with
        baseCounter := u32 (s.baseCounter + 1)
        capacityEvaluating := true
        waitingKey := false }
  else if s.dataMode ≠ .audioOnly ∧ ¬ s.waitingKey ∧ s.capacityEvaluating then
    s.counted.reCalculateCapacity (s.newData mediaData).isKeyVideoFrame
  else s.counted

theorem roomFor_eq (mediaData : MediaData) :
    s.roomFor mediaData = (s.prepared mediaData).makeRoom (s.newData mediaData) := by
  simp only [roomFor, prepared]
  repeat' split
  all_goals rfl

def pushPops : Except Fault BufferDispatcher → List Pop
  | .ok r => if r.circularBuffer.size ≥ r.circularBuffer.capacity then [⟨r.circularBuffer.size, none⟩] else []
  | .error _ => []

/-- The pops of a call, as far as it comes. -/
def pops : Call → List Pop
  | .inputData (some m) =>
    if s.accepts m then (s.prepared m).makeRoomPops (s.newData m) ++ pushPops (s.roomFor m) else []
  | _ => []

theorem adaptCapacity_eq : s.adaptCapacity =
    if s.extended.needRestoreToNormalCapacity then s.extended.restoreToNormalCapacity else s.extended := rfl

variable {s} {s' s'' : BufferDispatcher}

/-- The step takes no frame and changes no capacity and no counter. -/
structure Untouched (s s' : BufferDispatcher) : Prop where
  frames : s'.frames = s.frames
  tuning : s'.tuning = s.tuning
  maxBufferCapacity : s'.maxBufferCapacity = s.maxBufferCapacity

namespace Untouched

theorem refl (s : BufferDispatcher) : Untouched s s := ⟨rfl, rfl, rfl⟩

theorem trans (h : Untouched s s') (h' : Untouched s' s'') : Untouched s s'' :=
  ⟨h'.frames.trans h.frames, h'.tuning.trans h.tuning,
    h'.maxBufferCapacity.trans h.maxBufferCapacity⟩

theorem setReceiverDataRef (s : BufferDispatcher) (receiverId : Nat) (type : MediaType)
    (ready : Bool) : Untouched s (s.setReceiverDataRef receiverId type ready) := by
  rw [BufferDispatcher.setReceiverDataRef]
  split <;> exact ⟨rfl, rfl, rfl⟩

theorem setReceiverReadRef (s : BufferDispatcher) (receiverId : Nat) (type : MediaType)
    (ready : Bool) : Untouched s (s.setReceiverReadRef receiverId type ready) := by
  rw [BufferDispatcher.setReceiverReadRef]
  split <;> exact ⟨rfl, rfl, rfl⟩

theorem clearDataBit (s : BufferDispatcher) (receiverId : Nat) (type : MediaType) :
    Untouched s (s.clearDataBit receiverId type) := by
  rw [BufferDispatcher.clearDataBit]
  split
  · exact setReceiverDataRef s receiverId type false
  · exact (setReceiverDataRef s receiverId .video false).trans (setReceiverDataRef _ _ _ _)

theorem notifyReadReady (s : BufferDispatcher) (receiverId : Nat) (type : MediaType) :
    Untouched s (s.notifyReadReady receiverId type) := by
  have hread (s : BufferDispatcher) (ready : Bool) : Untouched s (if type = .av then
      (s.setReceiverReadRef receiverId .video ready).setReceiverReadRef receiverId .audio ready
      else s.setReceiverReadRef receiverId type ready) := by
    split
    · exact (setReceiverReadRef s receiverId .video ready).trans (setReceiverReadRef _ _ _ _)
    · exact setReceiverReadRef s receiverId type ready
  have hdata (s : BufferDispatcher) (ready : Bool) : Untouched s (if type = .av then
      (s.setReceiverDataRef receiverId .video ready).setReceiverDataRef receiverId .audio ready
      else s.setReceiverDataRef receiverId type ready) := by
    split
    · exact (setReceiverDataRef s receiverId .video ready).trans (setReceiverDataRef _ _ _ _)
    · exact setReceiverDataRef s receiverId type ready
  rw [BufferDispatcher.notifyReadReady]
  split
  · exact refl s
  · rename_i n _
    simp only
    generalize BufferDispatcher.dataAvailable _ n type = available
    have h := (hread s true).trans (hdata _ available)
    split
    · exact ⟨h.frames, h.tuning, h.maxBufferCapacity⟩
    · exact h

theorem setReceiverReadFlags (s : BufferDispatcher) (receiverId first last : Nat) :
    Untouched s (s.setReceiverReadFlags receiverId first last) := by
  refine ⟨(still_setReceiverReadFlags s receiverId first last).frames, ?_, ?_⟩
  · rw [setReceiverReadFlags_eq]
    rfl
  · rw [setReceiverReadFlags_eq]

theorem updateReceiverReadIndex (s : BufferDispatcher) (n : DataNotifier) (i : Nat)
    (type : MediaType) : Untouched s (s.updateReceiverReadIndex n i type) := by
  rw [BufferDispatcher.updateReceiverReadIndex]
  split
  · have h := setReceiverReadFlags s n.receiverId (i + 1)
      (s.findNextIndex i type (s.keyOnly || n.isKeyModeReceiver))
    exact ⟨h.frames, h.tuning, h.maxBufferCapacity⟩
  · exact ⟨rfl, rfl, rfl⟩

theorem readBufferData (s : BufferDispatcher) (receiverId : Nat) (type : MediaType) :
    Untouched s (s.readBufferData receiverId type).2 := by
  rw [BufferDispatcher.readBufferData]
  repeat' split
  · exact refl s
  · exact refl s
  · exact refl s
  · exact updateReceiverReadIndex _ _ _ _
  · exact updateReceiverReadIndex _ _ _ _
  · exact (setReceiverReadFlags _ _ _ _).trans (updateReceiverReadIndex _ _ _ _)

theorem attachReceiver (s : BufferDispatcher) (receiver : BufferReceiver) :
    Untouched s (s.attachReceiver receiver) := by
  rcases attachReceiver_eq s receiver with ⟨-, heq⟩ | ⟨-, heq⟩ <;> rw [heq] <;> exact ⟨rfl, rfl, rfl⟩

theorem detachReceiver (s : BufferDispatcher) (receiverId : Nat) :
    Untouched s (s.detachReceiver receiverId) := by
  rw [BufferDispatcher.detachReceiver]
  split
  · exact refl s
  · rename_i n _
    obtain ⟨recvBitRef, heq⟩ := detachNotifier_cases s n
    rw [heq]
    exact ⟨rfl, rfl, rfl⟩

theorem releaseAllReceiver (s : BufferDispatcher) : Untouched s s.releaseAllReceiver := by
  obtain ⟨recvBitRef, heq⟩ := releaseAllReceiver_eq s
  rw [heq]
  exact ⟨rfl, rfl, rfl⟩

end Untouched

/-- Three calls touch the buffer, its capacity or its counters, and only `InputData` may fault. -/
theorem exec_cases (s : BufferDispatcher) (call : Call) : (∃ m, call = .inputData m) ∨
    call = .flushBuffer ∨ (∃ capacity, call = .setBufferCapacity capacity) ∨
      ∃ s', s.exec call = .ok s' ∧ Untouched s s' := by
  cases call
  case inputData m => exact Or.inl ⟨m, rfl⟩
  case flushBuffer => exact Or.inr (Or.inl rfl)
  case setBufferCapacity capacity => exact Or.inr (Or.inr (Or.inl ⟨capacity, rfl⟩))
  all_goals refine Or.inr (Or.inr (Or.inr ⟨_, rfl, ?_⟩))
  case enableKeyMode | enableRapidMode | enableKeyRedirect | awaitData | notifyReadStart
    | notifyReadStop | expire => exact ⟨rfl, rfl, rfl⟩
  case cancelReserve => exact ⟨(cancelReserve_still s).frames, rfl, rfl⟩
  case attachReceiver receiver => exact Untouched.attachReceiver s receiver
  case detachReceiver receiverId => exact Untouched.detachReceiver s receiverId
  case releaseAllReceiver => exact Untouched.releaseAllReceiver s
  case requestRead receiverId type =>
    simp only [requestRead]
    repeat' split
    all_goals first
      | exact Untouched.refl s
      | exact (Untouched.notifyReadReady s receiverId _).trans ⟨rfl, rfl, rfl⟩
  case clearDataBit receiverId type => exact Untouched.clearDataBit s receiverId type
  case clearReadBit receiverId type =>
    rw [clearReadBit]
    split
    · exact Untouched.setReceiverReadRef s receiverId type false
    · exact (Untouched.setReceiverReadRef s receiverId .video false).trans
        (Untouched.setReceiverReadRef _ _ _ _)
  case readBufferData receiverId type => exact Untouched.readBufferData s receiverId type
  case notifyReadReady receiverId type => exact Untouched.notifyReadReady s receiverId type
  case enableReceiverKeyMode receiverId enable =>
    rw [enableReceiverKeyMode]
    split
    · have h := Untouched.clearDataBit
        (s.modifyReceiver receiverId fun r => { r with keyOnly := enable }) receiverId .video
      exact ⟨h.frames, h.tuning, h.maxBufferCapacity⟩
    · exact ⟨rfl, rfl, rfl⟩
  case enableReceiverKeyRedirect receiverId enable =>
    rw [enableReceiverKeyRedirect]
    split <;> exact ⟨rfl, rfl, rfl⟩
  case notifyThreadWorker =>
    rw [notifyThreadWorker]
    split <;> exact ⟨rfl, rfl, rfl⟩

end BufferDispatcher

end WifiDisplay
