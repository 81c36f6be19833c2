import WifiDisplay.BufferDispatcherPops

/-! The buffer keeps within its capacity, as long as no capacity is set below what it holds, no
restore goes above the maximum, and a buffer for one frame is not full of it when sound arrives. -/

namespace WifiDisplay

namespace BufferDispatcher

variable {s s' s'' : BufferDispatcher}

structure WithinCapacity (s : BufferDispatcher) : Prop where
  size : s.circularBuffer.size ≤ s.circularBuffer.capacity
  capacity : s.circularBuffer.capacity ≤ s.maxBufferCapacity

instance (s : BufferDispatcher) : Decidable s.WithinCapacity :=
  decidable_of_iff (s.circularBuffer.size ≤ s.circularBuffer.capacity ∧
      s.circularBuffer.capacity ≤ s.maxBufferCapacity)
    ⟨fun h => ⟨h.1, h.2⟩, fun h => ⟨h.size, h.capacity⟩⟩

/-- The invariant of a run. -/
structure Sized (s : BufferDispatcher) : Prop extends WithinCapacity s where
  capacity_pos : 0 < s.circularBuffer.capacity
  base_pos : 0 < s.baseBufferCapacity

theorem Sized.congr (h : Sized s) (hsize : s'.circularBuffer.size ≤ s.circularBuffer.size)
    (hcapacity : s'.circularBuffer.capacity = s.circularBuffer.capacity)
    (hmax : s'.maxBufferCapacity = s.maxBufferCapacity)
    (hbase : s'.baseBufferCapacity = s.baseBufferCapacity) : Sized s' where
  size := by rw [hcapacity]; exact hsize.trans h.size
  capacity := by rw [hcapacity, hmax]; exact h.capacity
  capacity_pos := hcapacity ▸ h.capacity_pos
  base_pos := hbase ▸ h.base_pos

/-- Frames leave the buffer, whose capacities stay. -/
structure Shrinks (s s' : BufferDispatcher) : Prop where
  size : s'.circularBuffer.size ≤ s.circularBuffer.size
  capacity : s'.circularBuffer.capacity = s.circularBuffer.capacity
  maxBufferCapacity : s'.maxBufferCapacity = s.maxBufferCapacity
  baseBufferCapacity : s'.baseBufferCapacity = s.baseBufferCapacity

theorem Shrinks.refl (s : BufferDispatcher) : Shrinks s s := ⟨Nat.le_refl _, rfl, rfl, rfl⟩

theorem Shrinks.trans (h : Shrinks s s') (h' : Shrinks s' s'') : Shrinks s s'' :=
  ⟨h'.size.trans h.size, h'.capacity.trans h.capacity,
    h'.maxBufferCapacity.trans h.maxBufferCapacity,
    h'.baseBufferCapacity.trans h.baseBufferCapacity⟩

theorem size_popHead (s : BufferDispatcher) (audio : Bool) :
    (s.popHead audio).circularBuffer.size = s.circularBuffer.size - 1 := List.length_drop

theorem popHead_shrinks (s : BufferDispatcher) (audio : Bool) : Shrinks s (s.popHead audio) :=
  ⟨by rw [size_popHead]; exact Nat.sub_le _ _, rfl, rfl, rfl⟩

theorem restorePops_spec (n : Nat) (hn : n ≤ s.circularBuffer.size) :
    Shrinks s (restorePops n s) ∧ (restorePops n s).circularBuffer.size = s.circularBuffer.size - n ∧
      ∀ p ∈ restorePopList n s, p.size ≠ 0 := by
  induction n generalizing s with
  | zero => exact ⟨Shrinks.refl s, rfl, List.forall_mem_nil _⟩
  | succ n ih =>
    have hpop := size_popHead s true
    obtain ⟨hshrinks, hsize, hpops⟩ := ih (s := s.popHead true) (by omega)
    have hne : (s.pop true).size ≠ 0 := by
      change s.circularBuffer.size ≠ 0
      omega
    refine ⟨(popHead_shrinks s true).trans hshrinks, ?_, List.forall_mem_cons.mpr ⟨hne, hpops⟩⟩
    rw [restorePops, hsize, hpop]
    omega

theorem deleteLoop_spec (forceDelete : Bool) (size : Nat) (s : BufferDispatcher) :
    Shrinks s (deleteLoop forceDelete size s).1 ∧
      ∀ p ∈ deletePopList forceDelete size s, p.size ≠ 0 := by
  induction size generalizing s with
  | zero => exact ⟨Shrinks.refl s, List.forall_mem_nil _⟩
  | succ size ih =>
    rw [deleteLoop, deletePopList]
    split
    · exact ⟨Shrinks.refl s, List.forall_mem_nil _⟩
    · cases hhead : s.circularBuffer.items.head? with
      | none => exact ⟨Shrinks.refl s, List.forall_mem_nil _⟩
      | some head =>
        obtain ⟨hshrinks, hpops⟩ := ih (s.popHead head.isAudioData)
        have hne : (s.pop head.isAudioData).size ≠ 0 := by
          intro h0
          rw [List.eq_nil_of_length_eq_zero h0] at hhead
          cases hhead
        exact ⟨(popHead_shrinks s _).trans hshrinks, List.forall_mem_cons.mpr ⟨hne, hpops⟩⟩

theorem overflowPops_spec (n : Nat) (hn : n ≤ s.circularBuffer.size) :
    (∃ r, overflowPops n s = .ok r ∧ Shrinks s r ∧
      r.circularBuffer.size = s.circularBuffer.size - n) ∧
      ∀ p ∈ overflowPopList n s, p.size ≠ 0 := by
  induction n generalizing s with
  | zero => exact ⟨⟨s, rfl, Shrinks.refl s, rfl⟩, List.forall_mem_nil _⟩
  | succ n ih =>
    rw [overflowPops, overflowPopList]
    cases hitems : s.circularBuffer.items with
    | nil =>
      rw [CircularBuffer.size, hitems] at hn
      cases hn
    | cons head rest =>
      have hpop := size_popHead s head.isAudioData
      obtain ⟨⟨r, hr, hshrinks, hsize⟩, hpops⟩ := ih (s := s.popHead head.isAudioData) (by omega)
      have hne : (s.pop head.isAudioData).size ≠ 0 := by
        change s.circularBuffer.size ≠ 0
        omega
      refine ⟨⟨r, hr, (popHead_shrinks s _).trans hshrinks, ?_⟩, List.forall_mem_cons.mpr ⟨hne, hpops⟩⟩
      rw [hsize, hpop]
      omega

theorem Sized.shrinks (h : Sized s) (hs : Shrinks s s') : Sized s' :=
  h.congr hs.size hs.capacity hs.maxBufferCapacity hs.baseBufferCapacity

theorem Sized.deleteHeadDatas (h : Sized s) (size : Nat) (forceDelete : Bool) :
    Sized (s.deleteHeadDatas size forceDelete) ∧
      (s.deleteHeadDatas size forceDelete).maxBufferCapacity = s.maxBufferCapacity ∧
      ∀ p ∈ deletePopList forceDelete size s, p.size ≠ 0 := by
  obtain ⟨hshrinks, hpops⟩ := deleteLoop_spec forceDelete size s
  have hloop := h.shrinks hshrinks
  simp only [BufferDispatcher.deleteHeadDatas]
  split
  · exact ⟨h, rfl, hpops⟩
  · split
    · rename_i hbase
      refine ⟨⟨⟨Nat.le_of_lt hbase.2.1, ?_⟩, hloop.base_pos, hloop.base_pos⟩,
        hshrinks.maxBufferCapacity, hpops⟩
      exact (Nat.le_of_lt hbase.2.2).trans hloop.capacity
    · exact ⟨hloop, hshrinks.maxBufferCapacity, hpops⟩

theorem Sized.eraseForKey (h : Sized s) (data : DataSpec) :
    Sized (s.eraseForKey data) ∧ ∀ p ∈ s.erasePops data, p.size ≠ 0 := by
  rw [BufferDispatcher.eraseForKey, erasePops, eraseOldGopDatas]
  by_cases hkey : data.isKeyVideoFrame ∧ ¬ s.keyOnly
  · rw [if_pos hkey]
    by_cases hmode : s.dataMode = .audioOnly
    · rw [if_pos hmode, if_neg fun hall => hall.2.2 hmode]
      exact ⟨⟨⟨Nat.zero_le _, h.capacity⟩, h.capacity_pos, h.base_pos⟩, List.forall_mem_nil _⟩
    · rw [if_neg hmode, if_pos ⟨hkey.1, hkey.2, hmode⟩]
      have hlisted : Sized (if s.nextKey > 0 then { s with keyIndexList := [s.nextKey] } else s) := by
        split
        · exact h.congr (Nat.le_refl _) rfl rfl rfl
        · exact h
      obtain ⟨hhead, -, hpops⟩ := hlisted.deleteHeadDatas s.nextKey false
      obtain ⟨hforced, -, hforcedPops⟩ := hhead.deleteHeadDatas
        (findNextDeleteVideoIndex (BufferDispatcher.deleteHeadDatas
          (if s.nextKey > 0 then { s with keyIndexList := [s.nextKey] } else s) s.nextKey false)) true
      exact ⟨hforced, List.forall_mem_append.mpr ⟨hpops, hforcedPops⟩⟩
  · rw [if_neg hkey, if_neg fun hall => hkey ⟨hall.1, hall.2.1⟩]
    exact ⟨h, List.forall_mem_nil _⟩

/-- A capacity that is set leaves room for what the buffer holds. -/
theorem Sized.setBufferCapacity (h : Sized s) {capacity : Nat}
    (hcapacity : capacity = 0 ∨ capacity > s.maxBufferCapacity ∨ s.circularBuffer.size ≤ capacity) :
    Sized (s.setBufferCapacity capacity) := by
  rw [BufferDispatcher.setBufferCapacity]
  split
  · exact h
  · rename_i hno
    obtain ⟨hne, hmax⟩ := not_or.mp hno
    exact ⟨⟨(hcapacity.resolve_left hne).resolve_left hmax, Nat.not_lt.mp hmax⟩,
      Nat.pos_of_ne_zero hne, h.base_pos⟩

theorem Sized.extended (h : Sized s) : Sized s.extended := by
  rw [BufferDispatcher.extended]
  split
  · rename_i hneed
    apply h.setBufferCapacity
    simp only [needExtendToDBCapacity, Bool.and_eq_true, decide_eq_true_eq] at hneed
    have hsize := h.size
    omega
  · exact h

theorem maxBufferCapacity_setBufferCapacity (s : BufferDispatcher) (capacity : Nat) :
    (s.setBufferCapacity capacity).maxBufferCapacity = s.maxBufferCapacity := by
  rw [setBufferCapacity]
  split <;> rfl

/-- A restore to the initial capacity keeps below the maximum. -/
def RestoresWithin (s : BufferDispatcher) : Prop :=
  s.needRestoreToNormalCapacity → INITIAL_BUFFER_CAPACITY ≤ s.maxBufferCapacity

instance (s : BufferDispatcher) : Decidable s.RestoresWithin := by
  unfold RestoresWithin
  infer_instance

theorem Sized.adaptCapacity (h : Sized s) (hrestore : s.extended.RestoresWithin) :
    Sized s.adaptCapacity ∧ ∀ p ∈ s.adaptPops, p.size ≠ 0 := by
  rw [adaptCapacity_eq, adaptPops]
  split
  · rename_i hneed
    obtain ⟨hshrinks, hsize, hpops⟩ := restorePops_spec (s := s.extended)
      (s.extended.circularBuffer.size - INITIAL_BUFFER_CAPACITY) (Nat.sub_le _ _)
    refine ⟨?_, hpops⟩
    rw [restoreToNormalCapacity]
    generalize restorePops _ s.extended = restored at hshrinks hsize ⊢
    have hinitial : 0 < INITIAL_BUFFER_CAPACITY := by decide
    refine ⟨⟨?_, ?_⟩, hinitial, hinitial⟩
    · change restored.circularBuffer.size ≤ INITIAL_BUFFER_CAPACITY
      omega
    · change INITIAL_BUFFER_CAPACITY ≤ restored.maxBufferCapacity
      rw [hshrinks.maxBufferCapacity]
      exact hrestore hneed
  · exact ⟨h.extended, List.forall_mem_nil _⟩

/-- The buffer holds the one frame that it has room for, and the new one is not a video frame. -/
def FullOfOne (s : BufferDispatcher) (data : DataSpec) : Prop :=
  s.circularBuffer.size = 1 ∧ s.circularBuffer.capacity = 1 ∧ ¬ data.isVideoData

instance (s : BufferDispatcher) (data : DataSpec) : Decidable (s.FullOfOne data) :=
  inferInstanceAs (Decidable (_ ∧ _ ∧ _))

theorem findNextDeleteVideoIndex_lt (h : 0 < s.circularBuffer.size) :
    s.findNextDeleteVideoIndex < s.circularBuffer.size := by
  rw [findNextDeleteVideoIndex]
  cases hfind : s.circularBuffer.items.findIdx? (·.isVideoData) with
  | none => exact h
  | some k => exact (List.findIdx?_eq_some_iff_findIdx_eq.mp hfind).1

theorem Sized.overflowCount_le (h : Sized s) {data : DataSpec} (hone : ¬ s.FullOfOne data) :
    s.overflowCount data ≤ s.circularBuffer.size := by
  have hpos := h.capacity_pos
  have hsize := h.size
  rw [overflowCount]
  split
  · split
    · exact findNextDeleteVideoIndex_lt (by omega)
    · rename_i hvideo
      have hne : s.circularBuffer.size ≠ 1 := fun h1 => hone ⟨h1, by omega, hvideo⟩
      omega
  · exact Nat.zero_le _

theorem eraseForKey_of_not_isVideoData {data : DataSpec} (h : ¬ data.isVideoData) :
    s.eraseForKey data = s := by
  rw [eraseForKey, if_neg]
  simp [DataSpec.isKeyVideoFrame, h]

/-- There is room for the frame that is pushed. -/
theorem Sized.makeRoom (h : Sized s) (hrestore : s.extended.RestoresWithin) {data : DataSpec}
    (hone : ¬ s.adaptCapacity.FullOfOne data) :
    (∃ r, s.makeRoom data = .ok r ∧ Sized r ∧ r.circularBuffer.size < r.circularBuffer.capacity) ∧
      ∀ p ∈ s.makeRoomPops data, p.size ≠ 0 := by
  obtain ⟨hadapted, hadaptPops⟩ := h.adaptCapacity hrestore
  obtain ⟨herased, herasePops⟩ := hadapted.eraseForKey data
  have hone' : ¬ (s.adaptCapacity.eraseForKey data).FullOfOne data := by
    intro hfull
    rw [eraseForKey_of_not_isVideoData hfull.2.2] at hfull
    exact hone hfull
  obtain ⟨⟨r, hr, hshrinks, hsize⟩, hoverflowPops⟩ := overflowPops_spec
    (s := s.adaptCapacity.eraseForKey data) _ (herased.overflowCount_le hone')
  refine ⟨⟨r, hr, herased.shrinks hshrinks, ?_⟩, ?_⟩
  · have hcount : (s.adaptCapacity.eraseForKey data).circularBuffer.size ≥
          (s.adaptCapacity.eraseForKey data).circularBuffer.capacity →
        0 < (s.adaptCapacity.eraseForKey data).overflowCount data := by
      intro hfull
      rw [overflowCount, if_pos hfull]
      exact Nat.succ_pos _
    have hcapacity := hshrinks.capacity
    have hpos := herased.capacity_pos
    have hle := herased.size
    omega
  · rw [makeRoomPops, List.forall_mem_append, List.forall_mem_append]
    exact ⟨⟨hadaptPops, herasePops⟩, hoverflowPops⟩

theorem capacity_setBufferCapacity (hpos : 0 < s.circularBuffer.capacity)
    (hle : s.circularBuffer.capacity ≤ s.maxBufferCapacity) (capacity : Nat) :
    0 < (s.setBufferCapacity capacity).circularBuffer.capacity ∧
      (s.setBufferCapacity capacity).circularBuffer.capacity ≤ s.maxBufferCapacity := by
  rw [setBufferCapacity]
  split
  · exact ⟨hpos, hle⟩
  · rename_i hno
    obtain ⟨hne, hmax⟩ := not_or.mp hno
    exact ⟨Nat.pos_of_ne_zero hne, Nat.not_lt.mp hmax⟩

theorem baseBufferCapacity_setBufferCapacity (s : BufferDispatcher) (capacity : Nat) :
    (s.setBufferCapacity capacity).baseBufferCapacity = s.baseBufferCapacity := by
  rw [setBufferCapacity]
  split <;> rfl

theorem Sized.reCalculateCapacity (h : Sized s) (keyFrame : Bool)
    (hroom : (s.reCalculateCapacity keyFrame).circularBuffer.size ≤
      (s.reCalculateCapacity keyFrame).circularBuffer.capacity) :
    Sized (s.reCalculateCapacity keyFrame) := by
  suffices hrest : 0 < (s.reCalculateCapacity keyFrame).circularBuffer.capacity ∧
      (s.reCalculateCapacity keyFrame).circularBuffer.capacity ≤
        (s.reCalculateCapacity keyFrame).maxBufferCapacity ∧
      0 < (s.reCalculateCapacity keyFrame).baseBufferCapacity from
    ⟨⟨hroom, hrest.2.1⟩, hrest.1, hrest.2.2⟩
  clear hroom
  rw [BufferDispatcher.reCalculateCapacity]
  split
  · obtain ⟨hpos, hle⟩ := capacity_setBufferCapacity (s := { s with
        baseCounter := u32 (s.baseCounter + 1)
        doubleBufferCapacity := min (u32 (min (s.circularBuffer.capacity +
          s.bufferCapacityIncrement) s.maxBufferCapacity * 2)) s.maxBufferCapacity })
      h.capacity_pos h.capacity
      (min (s.circularBuffer.capacity + s.bufferCapacityIncrement) s.maxBufferCapacity)
    rw [maxBufferCapacity_setBufferCapacity, baseBufferCapacity_setBufferCapacity]
    exact ⟨hpos, hle, h.base_pos⟩
  · split
    · have hbase (n : Nat) : 0 < max n INITIAL_BUFFER_CAPACITY :=
        Nat.lt_of_lt_of_le (by decide) (Nat.le_max_right n INITIAL_BUFFER_CAPACITY)
      obtain ⟨hpos, hle⟩ := capacity_setBufferCapacity (s := { s with
          baseCounter := u32 (s.baseCounter + 1)
          baseBufferCapacity := max (min (u32 (u32 (s.baseCounter + 1) +
            s.bufferCapacityIncrement)) s.maxBufferCapacity) INITIAL_BUFFER_CAPACITY
          doubleBufferCapacity := min (u32 (max (min (u32 (u32 (s.baseCounter + 1) +
            s.bufferCapacityIncrement)) s.maxBufferCapacity) INITIAL_BUFFER_CAPACITY * 2))
            s.maxBufferCapacity
          gop := u32 (s.baseCounter + 1)
          capacityEvaluating := ¬ u32 (s.baseCounter + 1) > 0 }) h.capacity_pos h.capacity
        (max (min (u32 (u32 (s.baseCounter + 1) + s.bufferCapacityIncrement)) s.maxBufferCapacity)
          INITIAL_BUFFER_CAPACITY)
      refine ⟨hpos, ?_, ?_⟩
      · simp only [maxBufferCapacity_setBufferCapacity]
        exact hle
      · simp only [baseBufferCapacity_setBufferCapacity]
        exact hbase _
    · exact ⟨h.capacity_pos, h.capacity, h.base_pos⟩

theorem Sized.prepared (h : Sized s) {m : MediaData}
    (hroom : (s.prepared m).circularBuffer.size ≤ (s.prepared m).circularBuffer.capacity) :
    Sized (s.prepared m) := by
  have hcounted : Sized s.counted := h.congr (Nat.le_refl _) rfl rfl rfl
  rw [BufferDispatcher.prepared] at hroom ⊢
  split
  · exact ⟨⟨Nat.zero_le _, h.capacity⟩, h.capacity_pos, h.base_pos⟩
  · rename_i hflush
    rw [if_neg hflush] at hroom
    split
    · rename_i heval
      rw [if_pos heval] at hroom
      exact hcounted.reCalculateCapacity _ hroom
    · exact hcounted

/-- No capacity is set below the size of the buffer, no restore goes above the maximum, and a
buffer for one frame is not full when a frame arrives that is no video frame. -/
def FitsOn (s : BufferDispatcher) : Call → Prop
  | .setBufferCapacity capacity =>
    capacity = 0 ∨ capacity > s.maxBufferCapacity ∨ s.circularBuffer.size ≤ capacity
  | .inputData (some m) => s.accepts m →
      (s.prepared m).circularBuffer.size ≤ (s.prepared m).circularBuffer.capacity ∧
        (s.prepared m).extended.RestoresWithin ∧
        ¬ (s.prepared m).adaptCapacity.FullOfOne (s.newData m)
  | _ => True

instance (s : BufferDispatcher) (call : Call) : Decidable (s.FitsOn call) := by
  unfold FitsOn
  split <;> infer_instance

theorem Sized.pops (h : Sized s) {call : Call} (hok : s.FitsOn call) :
    ∀ p ∈ s.pops call, p.size ≠ 0 := by
  rw [BufferDispatcher.pops.eq_def]
  split
  · rename_i m
    split
    · rename_i haccepts
      obtain ⟨hroom, hrestore, hone⟩ := hok haccepts
      obtain ⟨⟨r, hr, hsized, -⟩, hpops⟩ := (h.prepared hroom).makeRoom hrestore hone
      rw [List.forall_mem_append]
      refine ⟨hpops, ?_⟩
      rw [roomFor_eq, hr, pushPops]
      have hpos := hsized.capacity_pos
      split
      · rw [List.forall_mem_singleton]
        simp only
        omega
      · exact List.forall_mem_nil _
    · exact List.forall_mem_nil _
  · exact List.forall_mem_nil _

theorem size_appendData (hroom : s.circularBuffer.size < s.circularBuffer.capacity)
    (data : DataSpec) :
    (s.appendData data).circularBuffer.size = s.circularBuffer.size + 1 := by
  rw [← length_frames, ← length_frames, frames_appendData_of_lt hroom data, List.length_append,
    List.length_singleton]

theorem Sized.appendData (h : Sized s) (hroom : s.circularBuffer.size < s.circularBuffer.capacity)
    (data : DataSpec) : Sized (s.appendData data) := by
  have hsize := size_appendData hroom data
  obtain ⟨items, keyRedirect, heq, -⟩ := appendData_eq s data
  rw [listed_eq] at heq
  have hcapacity : (s.appendData data).circularBuffer.capacity = s.circularBuffer.capacity := by
    rw [heq]
    rfl
  refine ⟨⟨?_, ?_⟩, ?_, ?_⟩
  · omega
  · rw [hcapacity, heq]
    exact h.capacity
  · rw [hcapacity]
    exact h.capacity_pos
  · rw [heq]
    exact h.base_pos

/-- A call that meets the condition comes to its end and leaves the buffer within its capacity. -/
theorem Sized.exec (h : Sized s) {call : Call} (hok : s.FitsOn call) :
    ∃ s', s.exec call = .ok s' ∧ Sized s' := by
  rcases exec_cases s call with ⟨mediaData, rfl⟩ | rfl | ⟨capacity, rfl⟩ | ⟨s', hs', huntouched⟩
  · by_cases hbuff : ∀ m ∈ mediaData, m.buff = none
    · exact ⟨s, inputData_of_no_buff hbuff, h⟩
    · cases mediaData with
      | none => exact absurd (by simp) hbuff
      | some m =>
        have hbuff : m.buff ≠ none := by simpa using hbuff
        by_cases ha : s.accepts m
        · obtain ⟨hroom, hrestore, hone⟩ := hok ha
          obtain ⟨⟨r, hr, hsized, hlt⟩, -⟩ := (h.prepared hroom).makeRoom hrestore hone
          refine ⟨r.appendData (s.newData m), ?_, hsized.appendData hlt _⟩
          change s.inputData (some m) = _
          rw [inputData_of_accepts ha, roomFor_eq, hr]
          rfl
        · exact ⟨s.counted, inputData_of_waiting hbuff ha, h.congr (Nat.le_refl _) rfl rfl rfl⟩
  · exact ⟨_, rfl, ⟨Nat.zero_le _, h.capacity⟩, h.capacity_pos, h.base_pos⟩
  · exact ⟨_, rfl, h.setBufferCapacity hok⟩
  · exact ⟨s', hs', h.congr (size_of_frames huntouched.frames).le
      (congrArg Tuning.capacity huntouched.tuning) huntouched.maxBufferCapacity
      (congrArg Tuning.baseBufferCapacity huntouched.tuning)⟩

theorem sized_create {maxCapacity capacity : Nat} (hpos : 1 ≤ capacity) (hmax : capacity ≤ maxCapacity)
    (capacityIncrement : Nat) (dataMode : MediaDispacherMode) :
    Sized ((create maxCapacity capacityIncrement dataMode).setBufferCapacity capacity) := by
  have hinitial : 0 < INITIAL_BUFFER_CAPACITY := by decide
  rw [setBufferCapacity, if_neg]
  · exact ⟨⟨Nat.zero_le _, hmax⟩, hpos, hinitial⟩
  · rintro (h0 | hgt)
    · omega
    · exact absurd hgt (Nat.not_lt.mpr hmax)

/-- From any capacity that is set in the beginning, the buffer keeps within its capacity and the
capacity within its maximum, and nothing is taken from an empty buffer. -/
theorem run_withinCapacity {maxCapacity capacityIncrement capacity : Nat}
    {dataMode : MediaDispacherMode} {calls : List Call} (hpos : 1 ≤ capacity)
    (hmax : capacity ≤ maxCapacity)
    (run : GuardedRun exec FitsOn
      ((create maxCapacity capacityIncrement dataMode).setBufferCapacity capacity) calls s) :
    s.WithinCapacity ∧ ∀ call, s.FitsOn call →
      (∀ p ∈ s.pops call, p.size ≠ 0) ∧ ∃ s', s.exec call = .ok s' := by
  have hsized : Sized s := by
    refine run.invariant (I := Sized) (sized_create hpos hmax capacityIncrement dataMode) ?_
    intro s call s' h hok hexec
    obtain ⟨s'', hs'', hsized⟩ := h.exec hok
    rw [hexec] at hs''
    cases hs''
    exact hsized
  refine ⟨hsized.toWithinCapacity, fun call hok => ⟨hsized.pops hok, ?_⟩⟩
  obtain ⟨s', hs', -⟩ := hsized.exec hok
  exact ⟨s', hs'⟩

/-- A buffer for two frames, until the evaluation of the first group of pictures widens it. -/
theorem run_withinCapacity_two : ∃ s : BufferDispatcher,
    (s.circularBuffer.size = 3 ∧ s.circularBuffer.capacity = 500) ∧ s.WithinCapacity ∧
      ∃ s', s.exec .audio = .ok s' := by
  have hsome : (GuardedRun.check exec FitsOn
      ((create MAX_BUFFER_CAPACITY BUFFER_CAPACITY_INCREMENT .videoAudioMixed).setBufferCapacity 2)
      [.audio, .key, .audio, .key]).any (fun s => s.circularBuffer.size = 3 ∧
        s.circularBuffer.capacity = 500 ∧ s.FitsOn .audio) = true := by
    decide +kernel
  obtain ⟨s, hrun, hs⟩ := (Option.any_eq_true _ _).mp hsome
  obtain ⟨hsize, hcapacity, hok⟩ := of_decide_eq_true hs
  have hwithin := run_withinCapacity (by decide) (by decide) (GuardedRun.of_check hrun)
  exact ⟨s, ⟨hsize, hcapacity⟩, hwithin.1, (hwithin.2 .audio hok).2⟩

/-- A buffer for one frame holds a video frame; for the audio frame behind it two are to go. -/
theorem oneFrame_not_withinCapacity : ¬ ∀ (maxCapacity capacityIncrement capacity : Nat)
    (dataMode : MediaDispacherMode) (inputs : List (Option MediaData)),
    1 ≤ capacity → capacity ≤ maxCapacity → ∃ s,
      inputs.foldlM inputData
          ((create maxCapacity capacityIncrement dataMode).setBufferCapacity capacity) = .ok s ∧
        s.WithinCapacity := by
  intro hall
  obtain ⟨s, hs, -⟩ := hall MAX_BUFFER_CAPACITY BUFFER_CAPACITY_INCREMENT 1 .audioOnly
    [some { mediaType := .video }, some { mediaType := .audio }] (by decide) (by decide)
  have herror : (List.foldlM inputData
      ((create MAX_BUFFER_CAPACITY BUFFER_CAPACITY_INCREMENT .audioOnly).setBufferCapacity 1)
      [some { mediaType := .video }, some { mediaType := .audio }]).toOption.isNone = true := by
    decide +kernel
  rw [hs] at herror
  cases herror

end BufferDispatcher

end WifiDisplay
