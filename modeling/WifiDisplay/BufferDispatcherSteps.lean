import WifiDisplay.BufferDispatcherDrops
import WifiDisplay.BufferDispatcherRuns

/-! What each call can do to the buffer and to the indexes into it. -/

namespace WifiDisplay

open QueuePositions

/-- The notifier without its receiver: what the buffer and the slots know of it. -/
def DataNotifier.bare (n : DataNotifier) : DataNotifier := { n with receiver := none }

namespace BufferDispatcher

variable {s s' s'' : BufferDispatcher}

/-- The frames in the buffer, without the flags of who has read them. -/
def frames (s : BufferDispatcher) : List (MediaData × Nat) :=
  s.circularBuffer.items.map fun d => (d.mediaData, d.seq)

theorem length_frames (s : BufferDispatcher) : s.frames.length = s.circularBuffer.size :=
  List.length_map _

theorem Drops.frames {n : Nat} (h : Drops s n s') : s'.frames = s.frames.drop n := by
  obtain ⟨t, rfl⟩ := h.eq
  exact List.map_drop

/-- The step leaves the frames, the dispatcher's indexes and the slots as they are. -/
structure Still (s s' : BufferDispatcher) : Prop where
  frames : s'.frames = s.frames
  keyIndexList : s'.keyIndexList = s.keyIndexList
  lastAudioIndex : s'.lastAudioIndex = s.lastAudioIndex
  lastVideoIndex : s'.lastVideoIndex = s.lastVideoIndex
  readRefFlag : s'.readRefFlag = s.readRefFlag
  videoNeedActivate : s'.videoNeedActivate = s.videoNeedActivate
  audioNeedActivate : s'.audioNeedActivate = s.audioNeedActivate
  waitingKey : s'.waitingKey = s.waitingKey
  dataMode : s'.dataMode = s.dataMode
  specCount : s'.specCount = s.specCount
  notifierCount : s'.notifierCount = s.notifierCount

theorem Still.refl (s : BufferDispatcher) : Still s s :=
  ⟨rfl, rfl, rfl, rfl, rfl, rfl, rfl, rfl, rfl, rfl, rfl⟩

theorem Still.trans (h : Still s s') (h' : Still s' s'') : Still s s'' :=
  ⟨h'.frames.trans h.frames, h'.keyIndexList.trans h.keyIndexList,
    h'.lastAudioIndex.trans h.lastAudioIndex, h'.lastVideoIndex.trans h.lastVideoIndex,
    h'.readRefFlag.trans h.readRefFlag, h'.videoNeedActivate.trans h.videoNeedActivate,
    h'.audioNeedActivate.trans h.audioNeedActivate, h'.waitingKey.trans h.waitingKey,
    h'.dataMode.trans h.dataMode, h'.specCount.trans h.specCount,
    h'.notifierCount.trans h.notifierCount⟩

theorem cancelReserve_still (s : BufferDispatcher) : Still s s.cancelReserve := by
  refine { Still.refl s with frames := ?_ }
  rw [frames, cancelReserve, List.map_map]
  rfl

/-- The step leaves the buffer with its flags and all indexes as they are. -/
structure Quiet (s s' : BufferDispatcher) : Prop extends Still s s' where
  items : s'.circularBuffer.items = s.circularBuffer.items
  notifiers : s'.notifiers.map (·.bare) = s.notifiers.map (·.bare)

namespace Quiet

theorem refl (s : BufferDispatcher) : Quiet s s := { Still.refl s with items := rfl, notifiers := rfl }

theorem trans (h : Quiet s s') (h' : Quiet s' s'') : Quiet s s'' :=
  { h.toStill.trans h'.toStill with
    items := h'.items.trans h.items
    notifiers := h'.notifiers.trans h.notifiers }

/-- Each notifier stays but for its receiver. -/
theorem mem (h : Quiet s s') {n' : DataNotifier} (hn' : n' ∈ s'.notifiers) :
    ∃ n ∈ s.notifiers, n'.bare = n.bare := by
  have hmem : n'.bare ∈ s.notifiers.map (·.bare) := h.notifiers ▸ List.mem_map_of_mem hn'
  obtain ⟨n, hn, heq⟩ := List.mem_map.mp hmem
  exact ⟨n, hn, heq.symm⟩

theorem forall_notifiers (h : Quiet s s') {P : DataNotifier → Prop} (hP : ∀ n, P n.bare ↔ P n)
    (hs : ∀ n ∈ s.notifiers, P n) : ∀ n ∈ s'.notifiers, P n := by
  intro n' hn'
  obtain ⟨n, hn, heq⟩ := h.mem hn'
  rw [← hP, heq, hP]
  exact hs n hn

theorem modifyNotifier {f : DataNotifier → DataNotifier} (hf : ∀ n, (f n).bare = n.bare)
    (s : BufferDispatcher) (receiverId : Nat) : Quiet s (s.modifyNotifier receiverId f) := by
  refine { refl s with notifiers := ?_ }
  rw [BufferDispatcher.modifyNotifier, List.map_map]
  apply List.map_congr_left
  intro n _
  by_cases hn : n.receiverId = receiverId <;> simp [hn, hf]

theorem modifyReceiver (s : BufferDispatcher) (receiverId : Nat)
    (f : BufferReceiver → BufferReceiver) : Quiet s (s.modifyReceiver receiverId f) :=
  modifyNotifier (f := fun n => { n with receiver := n.receiver.map f }) (fun _ => rfl) s receiverId

theorem setReceiverDataRef (s : BufferDispatcher) (receiverId : Nat) (type : MediaType)
    (ready : Bool) : Quiet s (s.setReceiverDataRef receiverId type ready) := by
  rw [BufferDispatcher.setReceiverDataRef]
  split
  · exact refl s
  · exact { refl s with }

theorem setReceiverReadRef (s : BufferDispatcher) (receiverId : Nat) (type : MediaType)
    (ready : Bool) : Quiet s (s.setReceiverReadRef receiverId type ready) := by
  rw [BufferDispatcher.setReceiverReadRef]
  split
  · exact refl s
  · exact { refl s with }

theorem clearDataBit (s : BufferDispatcher) (receiverId : Nat) (type : MediaType) :
    Quiet s (s.clearDataBit receiverId type) := by
  rw [BufferDispatcher.clearDataBit]
  split
  · exact setReceiverDataRef s receiverId type false
  · exact (setReceiverDataRef s receiverId .video false).trans (setReceiverDataRef _ _ _ _)

theorem clearReadBit (s : BufferDispatcher) (receiverId : Nat) (type : MediaType) :
    Quiet s (s.clearReadBit receiverId type) := by
  rw [BufferDispatcher.clearReadBit]
  split
  · exact setReceiverReadRef s receiverId type false
  · exact (setReceiverReadRef s receiverId .video false).trans (setReceiverReadRef _ _ _ _)

theorem notifyReadReady (s : BufferDispatcher) (receiverId : Nat) (type : MediaType) :
    Quiet s (s.notifyReadReady receiverId type) := by
  rw [BufferDispatcher.notifyReadReady]
  split
  · exact refl s
  · rename_i n _
    have hread : Quiet s (if type = .av then
        (s.setReceiverReadRef receiverId .video true).setReceiverReadRef receiverId .audio true
        else s.setReceiverReadRef receiverId type true) := by
      split
      · exact (setReceiverReadRef s receiverId .video true).trans (setReceiverReadRef _ _ _ _)
      · exact setReceiverReadRef s receiverId type true
    generalize (if type = .av then
        (s.setReceiverReadRef receiverId .video true).setReceiverReadRef receiverId .audio true
        else s.setReceiverReadRef receiverId type true) = r at hread
    simp only
    generalize r.dataAvailable n type = available
    have hdata : Quiet r (if type = .av then
        (r.setReceiverDataRef receiverId .video available).setReceiverDataRef receiverId .audio available
        else r.setReceiverDataRef receiverId type available) := by
      split
      · exact (setReceiverDataRef r receiverId .video available).trans (setReceiverDataRef _ _ _ _)
      · exact setReceiverDataRef r receiverId type available
    have h := hread.trans hdata
    generalize (if type = .av then
        (r.setReceiverDataRef receiverId .video available).setReceiverDataRef receiverId .audio available
        else r.setReceiverDataRef receiverId type available) = r' at h
    split
    · exact { h with }
    · exact h

theorem requestRead (s : BufferDispatcher) (receiverId : Nat) (type : MediaType) :
    Quiet s (s.requestRead receiverId type) := by
  rw [BufferDispatcher.requestRead]
  repeat' split
  all_goals first
    | exact refl s
    | exact (notifyReadReady s receiverId _).trans (modifyReceiver _ _ _)

theorem notifyDataReceiver_bare (s : BufferDispatcher) (n : DataNotifier) :
    (s.notifyDataReceiver n).bare = n.bare := by
  rw [notifyDataReceiver]
  split <;> rfl

theorem notifyThreadWorker (s : BufferDispatcher) : Quiet s s.notifyThreadWorker := by
  rw [BufferDispatcher.notifyThreadWorker]
  split
  · refine { refl s with notifiers := ?_ }
    rw [List.map_map]
    exact List.map_congr_left fun n _ => notifyDataReceiver_bare s n
  · exact refl s

theorem setBufferCapacity (s : BufferDispatcher) (capacity : Nat) :
    Quiet s (s.setBufferCapacity capacity) := by
  rw [BufferDispatcher.setBufferCapacity]
  split
  · exact refl s
  · exact { refl s with }

theorem enableReceiverKeyMode (s : BufferDispatcher) (receiverId : Nat) (enable : Bool) :
    Quiet s (s.enableReceiverKeyMode receiverId enable) := by
  rw [BufferDispatcher.enableReceiverKeyMode]
  have h := modifyReceiver s receiverId fun r => { r with keyOnly := enable }
  split
  · exact h.trans (clearDataBit _ _ _)
  · exact h

theorem enableReceiverKeyRedirect (s : BufferDispatcher) (receiverId : Nat) (enable : Bool) :
    Quiet s (s.enableReceiverKeyRedirect receiverId enable) := by
  rw [BufferDispatcher.enableReceiverKeyRedirect]
  have h := modifyReceiver s receiverId fun r => { r with keyRedirect := enable }
  split
  · exact { h with }
  · exact h

end Quiet

end BufferDispatcher

/-- The calls that leave the buffer, the indexes and the slots as they are. -/
def Call.IsQuiet : Call → Prop
  | .inputData _ | .flushBuffer | .cancelReserve | .attachReceiver _ | .detachReceiver _
  | .releaseAllReceiver | .readBufferData _ _ => False
  | _ => True

theorem BufferDispatcher.exec_quiet {s s' : BufferDispatcher} {call : Call} (hq : call.IsQuiet)
    (h : s.exec call = .ok s') : Quiet s s' := by
  cases call
  case inputData | flushBuffer | cancelReserve | attachReceiver | detachReceiver
    | releaseAllReceiver | readBufferData => exact hq.elim
  all_goals
    cases h
  case setBufferCapacity => exact Quiet.setBufferCapacity s _
  case enableKeyMode | enableRapidMode | enableKeyRedirect => exact { Quiet.refl s with }
  case requestRead => exact Quiet.requestRead s _ _
  case awaitData | notifyReadStart | notifyReadStop => exact Quiet.modifyReceiver s _ _
  case clearDataBit => exact Quiet.clearDataBit s _ _
  case clearReadBit => exact Quiet.clearReadBit s _ _
  case notifyReadReady => exact Quiet.notifyReadReady s _ _
  case enableReceiverKeyMode => exact Quiet.enableReceiverKeyMode s _ _
  case enableReceiverKeyRedirect => exact Quiet.enableReceiverKeyRedirect s _ _
  case expire =>
    exact Quiet.modifyNotifier (f := fun n => { n with receiver := none }) (fun _ => rfl) s _
  case notifyThreadWorker => exact Quiet.notifyThreadWorker s

end WifiDisplay
