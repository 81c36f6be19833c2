import WifiDisplay.BufferDispatcherInput
import WifiDisplay.QueueReader

/-! What `InputData` does before `push_back`: it drops heads and moves every index by
their number, or it flushes. -/

namespace WifiDisplay

open QueuePositions

theorem Index.decremented_eq (i : Index) : Index.decremented i = i.map (· - 1) := by
  rcases i with _ | _ | i <;> rfl

/-- An index after `n` heads are gone. -/
def DataNotifier.shift (k : Nat) (n : DataNotifier) : DataNotifier :=
  { n with videoIndex := n.videoIndex.map (· - k), audioIndex := n.audioIndex.map (· - k) }

namespace DataNotifier

variable (n : DataNotifier) (k : Nat)

@[simp] theorem shift_receiverId : (n.shift k).receiverId = n.receiverId := rfl

@[simp] theorem shift_attachment : (n.shift k).attachment = n.attachment := rfl

@[simp] theorem shift_readIndex : (n.shift k).readIndex = n.readIndex := rfl

@[simp] theorem shift_receiver : (n.shift k).receiver = n.receiver := rfl

@[simp] theorem shift_videoIndex : (n.shift k).videoIndex = n.videoIndex.map (· - k) := rfl

@[simp] theorem shift_audioIndex : (n.shift k).audioIndex = n.audioIndex.map (· - k) := rfl

theorem decremented_eq : n.decremented = n.shift 1 := by
  simp only [decremented, Index.decremented_eq]
  rfl

theorem map_sub_sub (i : Index) (j k : Nat) : (i.map (· - j)).map (· - k) = i.map (· - (j + k)) := by
  cases i with
  | none => rfl
  | some i => simp [Nat.sub_sub]

theorem shift_zero : n.shift 0 = n := by simp [shift]

theorem shift_shift (j : Nat) : (n.shift j).shift k = n.shift (j + k) := by
  simp only [shift, map_sub_sub]

/-- `ResetAllIndex` on one notifier. -/
def reset : DataNotifier := { n with videoIndex := none, audioIndex := none }

end DataNotifier

/-- What making room changes besides the heads that it drops. -/
structure Tuning where
  capacity : Nat
  keyIndexList : List Nat
  waitingKey : Bool
  capacityEvaluating : Bool
  baseCounter : Nat
  videoFrameCnt : Nat
  audioFrameCnt : Nat
  gop : Nat
  baseBufferCapacity : Nat
  doubleBufferCapacity : Nat

namespace BufferDispatcher

variable {s s' s'' : BufferDispatcher} {m n : Nat}

def tuning (s : BufferDispatcher) : Tuning :=
  { s with capacity := s.circularBuffer.capacity }

def tuned (s : BufferDispatcher) (t : Tuning) : BufferDispatcher :=
  { s with
      circularBuffer := { s.circularBuffer with capacity := t.capacity }
      keyIndexList := t.keyIndexList
      waitingKey := t.waitingKey
      capacityEvaluating := t.capacityEvaluating
      baseCounter := t.baseCounter
      videoFrameCnt := t.videoFrameCnt
      audioFrameCnt := t.audioFrameCnt
      gop := t.gop
      baseBufferCapacity := t.baseBufferCapacity
      doubleBufferCapacity := t.doubleBufferCapacity }

def dropHeads (s : BufferDispatcher) (n : Nat) : BufferDispatcher :=
  { s with
      circularBuffer := { s.circularBuffer with items := s.circularBuffer.items.drop n }
      lastAudioIndex := s.lastAudioIndex.map (· - n)
      lastVideoIndex := s.lastVideoIndex.map (· - n)
      notifiers := s.notifiers.map (·.shift n) }

def flushed (s : BufferDispatcher) : BufferDispatcher :=
  { s with
      circularBuffer := s.circularBuffer.clear
      lastAudioIndex := none
      lastVideoIndex := none
      notifiers := s.notifiers.map (·.reset)
      videoNeedActivate := true
      audioNeedActivate := true }

theorem dropHeads_zero (s : BufferDispatcher) : s.dropHeads 0 = s := by
  simp [dropHeads, DataNotifier.shift_zero]

theorem dropHeads_tuned (s : BufferDispatcher) (n : Nat) (t : Tuning) :
    (s.tuned t).dropHeads n = (s.dropHeads n).tuned t := rfl

theorem dropHeads_dropHeads (s : BufferDispatcher) (m n : Nat) :
    (s.dropHeads m).dropHeads n = s.dropHeads (m + n) := by
  have hshift : (DataNotifier.shift n) ∘ (DataNotifier.shift m) = DataNotifier.shift (m + n) :=
    funext fun notifier => notifier.shift_shift n m
  simp only [dropHeads, DataNotifier.map_sub_sub, List.drop_drop, List.map_map, hshift]

/-- The listed keys are the positions of all key frames from the first listed one on. -/
def KeysListed (s : BufferDispatcher) : Prop :=
  s.keyIndexList <:+ s.circularBuffer.items.findIdxs DataSpec.isKeyVideoFrame

/-- The state after `n` heads were dropped, up to capacities and counters. -/
structure Drops (s : BufferDispatcher) (n : Nat) (s' : BufferDispatcher) : Prop where
  le : n ≤ s.circularBuffer.size
  eq : ∃ t, s' = (s.dropHeads n).tuned t
  keys : s.KeysListed → s'.KeysListed

theorem Drops.of_tuned (h : s' = s.tuned s'.tuning) (hkeys : s'.keyIndexList <:+ s.keyIndexList) :
    Drops s 0 s' := by
  refine ⟨Nat.zero_le _, ⟨s'.tuning, by rw [dropHeads_zero]; exact h⟩, fun hs => ?_⟩
  rw [h]
  exact hkeys.trans hs

theorem Drops.refl (s : BufferDispatcher) : Drops s 0 s := Drops.of_tuned rfl List.suffix_rfl

theorem Drops.trans (h : Drops s m s') (h' : Drops s' n s'') : Drops s (m + n) s'' := by
  obtain ⟨t, rfl⟩ := h.eq
  obtain ⟨t', rfl⟩ := h'.eq
  refine ⟨?_, ⟨t', ?_⟩, h'.keys ∘ h.keys⟩
  · have hle := h.le
    have hle' : n ≤ (s.circularBuffer.items.drop m).length := h'.le
    rw [List.length_drop] at hle'
    rw [CircularBuffer.size] at hle ⊢
    omega
  · rw [dropHeads_tuned, dropHeads_dropHeads]
    rfl

theorem updateIndex_keyIndexList (s : BufferDispatcher) :
    s.updateIndex.keyIndexList = popped s.keyIndexList := by
  have hpred : (fun keyIndex => if keyIndex > 0 then keyIndex - 1 else keyIndex) = (· - 1) := by
    funext k
    split <;> omega
  simp only [updateIndex, popped, hpred]

theorem popHead_drops (audio : Bool) (h : s.circularBuffer.items ≠ []) :
    Drops s 1 (s.popHead audio) := by
  refine ⟨List.length_pos_of_ne_nil h, ⟨(s.popHead audio).tuning, ?_⟩, ?_⟩
  · have hmap : s.notifiers.map DataNotifier.decremented = s.notifiers.map (·.shift 1) := by
      simp [DataNotifier.decremented_eq]
    simp only [popHead, updateIndex, hmap, Index.decremented_eq]
    rfl
  · intro hs
    rw [KeysListed, popHead, updateIndex_keyIndexList]
    exact popped_suffix hs

theorem setBufferCapacity_drops (s : BufferDispatcher) (capacity : Nat) :
    Drops s 0 (s.setBufferCapacity capacity) := by
  rw [setBufferCapacity]
  split
  · exact Drops.refl s
  · exact Drops.of_tuned rfl List.suffix_rfl

theorem restorePops_drops (h : n ≤ s.circularBuffer.size) : Drops s n (restorePops n s) := by
  induction n generalizing s with
  | zero => exact Drops.refl s
  | succ n ih =>
    have hne : s.circularBuffer.items ≠ [] := List.ne_nil_of_length_pos (by rw [← CircularBuffer.size]; omega)
    have hpop := popHead_drops true hne
    have hle : n ≤ (s.popHead true).circularBuffer.size := by
      change n ≤ (s.circularBuffer.items.drop 1).length
      rw [List.length_drop, ← CircularBuffer.size]
      omega
    have hdrops := hpop.trans (ih hle)
    rwa [Nat.add_comm] at hdrops

theorem restoreToNormalCapacity_drops (s : BufferDispatcher) :
    ∃ n, Drops s n s.restoreToNormalCapacity := by
  have hpops := restorePops_drops (Nat.sub_le s.circularBuffer.size INITIAL_BUFFER_CAPACITY)
  rw [restoreToNormalCapacity]
  generalize s.circularBuffer.size - INITIAL_BUFFER_CAPACITY = n at hpops ⊢
  exact ⟨n + 0, hpops.trans (Drops.of_tuned rfl List.suffix_rfl)⟩

theorem deleteLoop_drops (forceDelete : Bool) (size : Nat) (s : BufferDispatcher) :
    ∃ n, Drops s n (deleteLoop forceDelete size s).1 := by
  induction size generalizing s with
  | zero => exact ⟨0, Drops.refl s⟩
  | succ size ih =>
    rw [deleteLoop]
    split
    · exact ⟨0, Drops.refl s⟩
    · split
      · exact ⟨0, Drops.refl s⟩
      · rename_i head hhead
        have hne : s.circularBuffer.items ≠ [] := by
          intro hnil
          simp [hnil] at hhead
        obtain ⟨n, hn⟩ := ih (s.popHead head.isAudioData)
        exact ⟨1 + n, (popHead_drops _ hne).trans hn⟩

theorem deleteHeadDatas_drops (s : BufferDispatcher) (size : Nat) (forceDelete : Bool) :
    ∃ n, Drops s n (s.deleteHeadDatas size forceDelete) := by
  rw [deleteHeadDatas]
  split
  · exact ⟨0, Drops.refl s⟩
  · obtain ⟨n, hn⟩ := deleteLoop_drops forceDelete size s
    simp only
    split
    · exact ⟨n + 0, hn.trans (Drops.of_tuned rfl List.suffix_rfl)⟩
    · exact ⟨n, hn⟩

theorem eraseOldGopDatas_drops (h : s.dataMode ≠ .audioOnly) :
    ∃ n, Drops s n s.eraseOldGopDatas := by
  rw [eraseOldGopDatas, if_neg h]
  simp only
  have hkept : Drops s 0 (if s.nextKey > 0 then { s with keyIndexList := [s.nextKey] } else s) := by
    split
    · rename_i hpos
      refine Drops.of_tuned rfl (getLast_suffix ?_)
      cases hlast : s.keyIndexList.getLast? with
      | none => simp [nextKey, hlast] at hpos
      | some key => simp [nextKey, hlast]
    · exact Drops.refl s
  generalize (if s.nextKey > 0 then { s with keyIndexList := [s.nextKey] } else s) = kept at hkept ⊢
  obtain ⟨m, hm⟩ := deleteHeadDatas_drops kept s.nextKey false
  obtain ⟨n, hn⟩ := deleteHeadDatas_drops (kept.deleteHeadDatas s.nextKey false)
    (kept.deleteHeadDatas s.nextKey false).findNextDeleteVideoIndex true
  exact ⟨0 + m + n, (hkept.trans hm).trans hn⟩

theorem overflowPops_drops (h : overflowPops n s = .ok s') : Drops s n s' := by
  induction n generalizing s with
  | zero =>
    cases h
    exact Drops.refl _
  | succ n ih =>
    rw [overflowPops] at h
    split at h
    · cases h
    · rename_i head hhead
      have hne : s.circularBuffer.items ≠ [] := by
        intro hnil
        simp [hnil] at hhead
      have hdrops := (popHead_drops head.isAudioData hne).trans (ih h)
      rwa [Nat.add_comm] at hdrops

/-- The state after a flush, up to capacities and counters. -/
def Flushes (s s' : BufferDispatcher) : Prop := ∃ t, t.keyIndexList = [] ∧ s' = s.flushed.tuned t

theorem Flushes.of_tuned (h : s' = s.flushed.tuned s'.tuning) (hkeys : s'.keyIndexList = []) :
    Flushes s s' := ⟨s'.tuning, hkeys, h⟩

theorem flushBuffer_flushes (s : BufferDispatcher) : Flushes s s.flushBuffer :=
  Flushes.of_tuned rfl rfl

theorem Flushes.of_drops (h : Drops s n s') (h' : Flushes s' s'') : Flushes s s'' := by
  obtain ⟨t, rfl⟩ := h.eq
  obtain ⟨t', hkeys, rfl⟩ := h'
  refine ⟨t', hkeys, ?_⟩
  have hreset : DataNotifier.reset ∘ DataNotifier.shift n = DataNotifier.reset := rfl
  simp only [flushed, tuned, dropHeads, List.map_map, hreset]
  rfl

theorem Flushes.items (h : Flushes s s') : s'.circularBuffer.items = [] := by
  obtain ⟨t, -, rfl⟩ := h
  rfl

theorem Flushes.drops (h : Flushes s s') (h' : Drops s' n s'') : Flushes s s'' := by
  obtain ⟨t, ht, rfl⟩ := h
  obtain ⟨t', rfl⟩ := h'.eq
  have hkeys : t'.keyIndexList <:+ [] := by
    have hlisted : KeysListed (s.flushed.tuned t) := by simp [KeysListed, tuned, flushed, ht]
    simpa [KeysListed, tuned, dropHeads, flushed] using h'.keys hlisted
  refine ⟨t', List.suffix_nil.mp hkeys, ?_⟩
  have hreset : DataNotifier.shift n ∘ DataNotifier.reset = DataNotifier.reset := rfl
  simp only [flushed, tuned, dropHeads, List.map_map, hreset, CircularBuffer.clear]
  simp

theorem Drops.dataMode (h : Drops s n s') : s'.dataMode = s.dataMode := by
  obtain ⟨t, rfl⟩ := h.eq
  rfl

theorem Drops.keyOnly (h : Drops s n s') : s'.keyOnly = s.keyOnly := by
  obtain ⟨t, rfl⟩ := h.eq
  rfl

theorem Drops.size (h : Drops s n s') : s'.circularBuffer.size = s.circularBuffer.size - n := by
  obtain ⟨t, rfl⟩ := h.eq
  exact List.length_drop

theorem Drops.size_sub (h : Drops s n s') : s.circularBuffer.size - s'.circularBuffer.size = n := by
  have hsize := h.size
  have hle := h.le
  omega

theorem Drops.notifiers (h : Drops s n s') : s'.notifiers = s.notifiers.map (·.shift n) := by
  obtain ⟨t, rfl⟩ := h.eq
  rfl

theorem adaptCapacity_drops (s : BufferDispatcher) : ∃ n, Drops s n s.adaptCapacity := by
  have hextend : Drops s 0
      (if s.needExtendToDBCapacity then s.setBufferCapacity s.doubleBufferCapacity else s) := by
    split
    · exact setBufferCapacity_drops s s.doubleBufferCapacity
    · exact Drops.refl s
  rw [adaptCapacity]
  generalize (if s.needExtendToDBCapacity then s.setBufferCapacity s.doubleBufferCapacity else s) =
    extended at hextend ⊢
  split
  · obtain ⟨n, hn⟩ := restoreToNormalCapacity_drops extended
    exact ⟨0 + n, hextend.trans hn⟩
  · exact ⟨0, hextend⟩

/-- In audio mode a key frame makes the buffer empty itself. -/
def erasesAll (s : BufferDispatcher) (data : DataSpec) : Prop :=
  data.isKeyVideoFrame ∧ ¬ s.keyOnly ∧ s.dataMode = .audioOnly

theorem eraseForKey_drops {data : DataSpec} (h : ¬ s.erasesAll data) :
    ∃ n, Drops s n (s.eraseForKey data) := by
  rw [eraseForKey]
  split
  · rename_i hkey
    exact eraseOldGopDatas_drops fun hmode => h ⟨hkey.1, hkey.2, hmode⟩
  · exact ⟨0, Drops.refl s⟩

theorem makeRoom_drops {data : DataSpec} (h : s.makeRoom data = .ok s')
    (hkept : ¬ s.erasesAll data) : ∃ n, Drops s n s' := by
  obtain ⟨m, hm⟩ := adaptCapacity_drops s
  have hkept' : ¬ s.adaptCapacity.erasesAll data := by
    rw [erasesAll, hm.keyOnly, hm.dataMode]
    exact hkept
  obtain ⟨n, hn⟩ := eraseForKey_drops hkept'
  exact ⟨_, (hm.trans hn).trans (overflowPops_drops h)⟩

theorem makeRoom_flushes {data : DataSpec} (h : s.makeRoom data = .ok s')
    (herases : s.erasesAll data) : Flushes s s' := by
  obtain ⟨m, hm⟩ := adaptCapacity_drops s
  have hflush : Flushes s (s.adaptCapacity.eraseForKey data) := by
    rw [eraseForKey, if_pos ⟨herases.1, hm.keyOnly ▸ herases.2.1⟩, eraseOldGopDatas,
      if_pos (hm.dataMode ▸ herases.2.2)]
    exact Flushes.of_drops hm (flushBuffer_flushes _)
  exact hflush.drops (overflowPops_drops h)

theorem reCalculateCapacity_drops (s : BufferDispatcher) (keyFrame : Bool) :
    Drops s 0 (s.reCalculateCapacity keyFrame) := by
  simp only [reCalculateCapacity, setBufferCapacity]
  repeat' split
  all_goals exact Drops.of_tuned rfl List.suffix_rfl

def counted (s : BufferDispatcher) : BufferDispatcher := { s with specCount := s.specCount + 1 }

def newData (s : BufferDispatcher) (mediaData : MediaData) : DataSpec :=
  { mediaData, seq := s.specCount }

/-- `InputData` lets the frame into the buffer. -/
def accepts (s : BufferDispatcher) (mediaData : MediaData) : Prop :=
  mediaData.buff ≠ none ∧ (s.dataMode ≠ .audioOnly → s.waitingKey →
    (s.newData mediaData).isAudioData ∨ (s.newData mediaData).isKeyVideoFrame)

instance (s : BufferDispatcher) (m : MediaData) : Decidable (s.accepts m) :=
  inferInstanceAs (Decidable (_ ∧ (_ → _ → _ ∨ _)))

/-- The frame makes the buffer empty itself. -/
def flushesFor (s : BufferDispatcher) (mediaData : MediaData) : Prop :=
  (s.newData mediaData).isKeyVideoFrame ∧
    if s.dataMode = .audioOnly then s.keyOnly = false else s.waitingKey = true

instance (s : BufferDispatcher) (m : MediaData) : Decidable (s.flushesFor m) :=
  inferInstanceAs (Decidable (_ ∧ ite _ _ _))

/-- The dispatcher that `push_back` adds the frame to. -/
def roomFor (s : BufferDispatcher) (mediaData : MediaData) : Except Fault BufferDispatcher :=
  let data := s.newData mediaData
  if s.dataMode ≠ .audioOnly ∧ s.waitingKey ∧ ¬ data.isAudioData then
    makeRoom { s.counted.flushBuffer with
        baseCounter := u32 (s.baseCounter + 1)
        capacityEvaluating := true
        waitingKey := false } data
  else if s.dataMode ≠ .audioOnly ∧ ¬ s.waitingKey ∧ s.capacityEvaluating then
    (s.counted.reCalculateCapacity data.isKeyVideoFrame).makeRoom data
  else s.counted.makeRoom data

theorem inputData_of_accepts {m : MediaData} (ha : s.accepts m) : s.inputData (some m) = do
    let r ← s.roomFor m
    return r.appendData (s.newData m) := by
  obtain ⟨hbuff, haccepts⟩ := ha
  rw [inputData, if_neg hbuff, roomFor]
  change (if s.dataMode = .audioOnly then s.counted.writeDataIntoBuffer (s.newData m)
    else s.counted.preProcessDataSpec (s.newData m)) = _
  by_cases hmode : s.dataMode = .audioOnly
  · simp only [hmode, if_true, ne_eq, not_true_eq_false, false_and, if_false]
    rfl
  rw [if_neg hmode, preProcessDataSpec]
  change (if s.waitingKey then _ else if s.capacityEvaluating then _ else _) = _
  by_cases hwait : s.waitingKey
  · rw [if_pos hwait]
    by_cases haudio : (s.newData m).isAudioData
    · simp only [hwait, haudio, if_true, not_true_eq_false, and_false, false_and, if_false]
      rfl
    · have hkey := (haccepts hmode hwait).resolve_left haudio
      rw [if_neg haudio, if_neg (not_not.mpr hkey), if_pos ⟨hmode, hwait, haudio⟩]
      rfl
  · rw [if_neg hwait]
    by_cases heval : s.capacityEvaluating
    · rw [if_pos heval, if_neg (fun h => hwait h.2.1), if_pos ⟨hmode, hwait, heval⟩]
      rfl
    · rw [if_neg heval, if_neg (fun h => hwait h.2.1), if_neg (fun h => heval h.2.2)]
      rfl

theorem inputData_of_no_buff {mediaData : Option MediaData} (h : ∀ m ∈ mediaData, m.buff = none) :
    s.inputData mediaData = .ok s := by
  cases mediaData with
  | none => rfl
  | some m => rw [inputData, if_pos (h m rfl)]

theorem inputData_of_waiting {m : MediaData} (hbuff : m.buff ≠ none) (hno : ¬ s.accepts m) :
    s.inputData (some m) = .ok s.counted := by
  obtain ⟨hmode, hwait, hkind⟩ : s.dataMode ≠ .audioOnly ∧ s.waitingKey ∧
      ¬ ((s.newData m).isAudioData ∨ (s.newData m).isKeyVideoFrame) := by
    simpa [accepts, hbuff] using hno
  rw [inputData, if_neg hbuff]
  change (if s.dataMode = .audioOnly then _ else s.counted.preProcessDataSpec (s.newData m)) = _
  rw [if_neg hmode, preProcessDataSpec]
  change (if s.waitingKey then _ else _) = _
  rw [if_pos hwait, if_neg fun haudio => hkind (Or.inl haudio), if_pos fun hkey => hkind (Or.inr hkey)]

theorem inputData_accepted {m : MediaData} (ha : s.accepts m) (h : s.inputData (some m) = .ok s') :
    ∃ r, s.roomFor m = .ok r ∧ s' = r.appendData (s.newData m) := by
  rw [inputData_of_accepts ha] at h
  obtain ⟨r, hr, h⟩ := bind_eq_ok.mp h
  cases h
  exact ⟨r, hr, rfl⟩

/-- `InputData` either leaves the buffer alone or appends the frame to the room it made. -/
theorem inputData_cases {mediaData : Option MediaData} (h : s.inputData mediaData = .ok s') :
    s' = s ∧ (∀ m ∈ mediaData, m.buff = none) ∨
    (∃ m, mediaData = some m ∧ m.buff ≠ none ∧ s' = s.counted) ∨
    ∃ m r, mediaData = some m ∧ s.accepts m ∧ s.roomFor m = .ok r ∧ s' = r.appendData (s.newData m) := by
  by_cases hbuff : ∀ m ∈ mediaData, m.buff = none
  · left
    rw [inputData_of_no_buff hbuff] at h
    cases h
    exact ⟨rfl, hbuff⟩
  right
  cases mediaData with
  | none => exact absurd (by simp) hbuff
  | some m =>
    have hbuff : m.buff ≠ none := by simpa using hbuff
    by_cases ha : s.accepts m
    · right
      obtain ⟨r, hr, hs'⟩ := inputData_accepted ha h
      exact ⟨m, r, rfl, ha, hr, hs'⟩
    · left
      rw [inputData_of_waiting hbuff ha] at h
      cases h
      exact ⟨m, rfl, hbuff, rfl⟩

theorem roomFor_drops {m : MediaData} (ha : s.accepts m) (hf : ¬ s.flushesFor m)
    (h : s.roomFor m = .ok s') : ∃ n, Drops s.counted n s' := by
  have herases : ¬ s.counted.erasesAll (s.newData m) := by
    intro he
    apply hf
    refine ⟨he.1, ?_⟩
    have hmode : s.dataMode = .audioOnly := he.2.2
    rw [if_pos hmode]
    simpa [counted] using he.2.1
  rw [roomFor] at h
  split at h
  · rename_i hwait
    have hkey := (ha.2 hwait.1 hwait.2.1).resolve_left hwait.2.2
    exact absurd ⟨hkey, by rw [if_neg hwait.1]; exact hwait.2.1⟩ hf
  · split at h
    · rename_i heval
      have hd := reCalculateCapacity_drops s.counted (s.newData m).isKeyVideoFrame
      have herases' : ¬ (s.counted.reCalculateCapacity (s.newData m).isKeyVideoFrame).erasesAll
          (s.newData m) := by
        rw [erasesAll, hd.keyOnly, hd.dataMode]
        exact herases
      obtain ⟨n, hn⟩ := makeRoom_drops h herases'
      exact ⟨0 + n, hd.trans hn⟩
    · exact makeRoom_drops h herases

theorem roomFor_flushes {m : MediaData} (hf : s.flushesFor m) (h : s.roomFor m = .ok s') :
    Flushes s.counted s' := by
  obtain ⟨hkey, hf⟩ := hf
  have hvideo : ¬ (s.newData m).isAudioData := by
    intro haudio
    simp only [DataSpec.isKeyVideoFrame, DataSpec.isVideoData, DataSpec.isAudioData,
      Bool.and_eq_true, decide_eq_true_eq] at hkey haudio
    rw [haudio] at hkey
    exact absurd hkey.1 (by decide)
  by_cases hmode : s.dataMode = .audioOnly
  · rw [if_pos hmode] at hf
    have herases : s.counted.erasesAll (s.newData m) := ⟨hkey, by simpa [counted] using hf, hmode⟩
    rw [roomFor, if_neg (by simp [hmode]), if_neg (by simp [hmode])] at h
    exact makeRoom_flushes h herases
  · rw [if_neg hmode] at hf
    rw [roomFor, if_pos ⟨hmode, hf, hvideo⟩] at h
    have hflush : Flushes s.counted { s.counted.flushBuffer with
        baseCounter := u32 (s.baseCounter + 1)
        capacityEvaluating := true
        waitingKey := false } := Flushes.of_tuned rfl rfl
    obtain ⟨n, hn⟩ := makeRoom_drops h (fun he => hmode he.2.2)
    exact hflush.drops hn

end BufferDispatcher

end WifiDisplay
