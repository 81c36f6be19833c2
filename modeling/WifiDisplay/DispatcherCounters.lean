import WifiDisplay.BufferDispatcherPops

/-! The frame counters are those of the buffer, as long as a restore takes audio frames only and
`push_back` takes none. -/

namespace WifiDisplay

namespace BufferDispatcher

variable {s s' : BufferDispatcher} {limit : Nat}

def frameCount (s : BufferDispatcher) (type : MediaType) : Nat :=
  s.circularBuffer.items.countP (·.mediaData.mediaType = type)

structure Counted (s : BufferDispatcher) : Prop where
  audio : s.audioFrameCnt = s.frameCount .audio
  video : s.videoFrameCnt = s.frameCount .video

instance (s : BufferDispatcher) : Decidable s.Counted :=
  decidable_of_iff (s.audioFrameCnt = s.frameCount .audio ∧ s.videoFrameCnt = s.frameCount .video)
    ⟨fun h => ⟨h.1, h.2⟩, fun h => ⟨h.audio, h.video⟩⟩

theorem frameCount_eq (s : BufferDispatcher) (type : MediaType) :
    s.frameCount type = s.frames.countP (·.1.mediaType = type) := by
  rw [frameCount, frames, List.countP_map]
  rfl

/-- The counters are right, and too small for their type to matter. -/
structure Tallied (limit : Nat) (s : BufferDispatcher) : Prop extends Counted s where
  kinds : ∀ f ∈ s.frames, f.1.mediaType ≠ .av
  size : s.circularBuffer.size ≤ limit
  capacity : s.circularBuffer.capacity ≤ limit
  maxBufferCapacity : s.maxBufferCapacity ≤ limit

theorem Tallied.congr (h : Tallied limit s) (hframes : s'.frames = s.frames)
    (haudio : s'.audioFrameCnt = s.audioFrameCnt) (hvideo : s'.videoFrameCnt = s.videoFrameCnt)
    (hcapacity : s'.circularBuffer.capacity ≤ limit)
    (hmax : s'.maxBufferCapacity = s.maxBufferCapacity) : Tallied limit s' where
  audio := by rw [haudio, h.audio, frameCount_eq, frameCount_eq, hframes]
  video := by rw [hvideo, h.video, frameCount_eq, frameCount_eq, hframes]
  kinds := by rw [hframes]; exact h.kinds
  size := by rw [size_of_frames hframes]; exact h.size
  capacity := hcapacity
  maxBufferCapacity := hmax ▸ h.maxBufferCapacity

theorem decremented_succ {n : Nat} (h : n + 1 < 2 ^ 32) : decremented (n + 1) = n := by
  rw [decremented, u32]
  omega

theorem audioFrameCnt_popHead (s : BufferDispatcher) (audio : Bool) :
    (s.popHead audio).audioFrameCnt =
      if audio then decremented s.audioFrameCnt else s.audioFrameCnt := rfl

theorem videoFrameCnt_popHead (s : BufferDispatcher) (audio : Bool) :
    (s.popHead audio).videoFrameCnt =
      if audio then s.videoFrameCnt else decremented s.videoFrameCnt := rfl

/-- A frame leaves the buffer, and the counter of its type goes down. -/
theorem Tallied.popHead (hlimit : limit < 2 ^ 32) (h : Tallied limit s) {head : DataSpec}
    (hhead : s.circularBuffer.items.head? = some head) :
    Tallied limit (s.popHead head.isAudioData) ∧ (s.pop head.isAudioData).counter ≠ some 0 := by
  obtain ⟨rest, hitems⟩ : ∃ rest, s.circularBuffer.items = head :: rest := by
    cases hitems : s.circularBuffer.items with
    | nil =>
      rw [hitems] at hhead
      cases hhead
    | cons d rest =>
      rw [hitems] at hhead
      cases hhead
      exact ⟨rest, rfl⟩
  have hafter : (s.popHead head.isAudioData).circularBuffer.items = rest := by
    change s.circularBuffer.items.drop 1 = rest
    rw [hitems, List.drop_one, List.tail_cons]
  have hsize : rest.length + 1 ≤ limit := by
    have := h.size
    rwa [CircularBuffer.size, hitems, List.length_cons] at this
  have hcount (type : MediaType) : s.frameCount type =
      (s.popHead head.isAudioData).frameCount type +
        if head.mediaData.mediaType = type then 1 else 0 := by
    rw [frameCount, frameCount, hafter, hitems, List.countP_cons]
    simp only [decide_eq_true_eq]
  have hle (type : MediaType) : (s.popHead head.isAudioData).frameCount type ≤ rest.length := by
    rw [frameCount, hafter]
    exact List.countP_le_length
  have hkind : head.mediaData.mediaType ≠ .av := by
    apply h.kinds (head.mediaData, head.seq)
    rw [frames, hitems]
    exact List.mem_cons_self
  have hcountA := hcount .audio
  have hcountV := hcount .video
  have hleA := hle .audio
  have hleV := hle .video
  have hkinds : ∀ f ∈ (s.popHead head.isAudioData).frames, f.1.mediaType ≠ .av := by
    intro f hf
    apply h.kinds
    rw [frames, hitems]
    rw [frames, hafter] at hf
    exact List.mem_cons_of_mem _ hf
  have hsmall : (s.popHead head.isAudioData).circularBuffer.size ≤ limit := by
    rw [CircularBuffer.size, hafter]
    omega
  cases hmt : head.mediaData.mediaType with
  | av => exact absurd hmt hkind
  | audio =>
    have haudio : head.isAudioData = true := decide_eq_true hmt
    simp only [hmt, if_true, reduceCtorEq, if_false, Nat.add_zero] at hcountA hcountV
    refine ⟨⟨⟨?_, ?_⟩, hkinds, hsmall, h.capacity, h.maxBufferCapacity⟩, ?_⟩
    · rw [audioFrameCnt_popHead, if_pos haudio, h.audio, hcountA, decremented_succ (by omega)]
    · rw [videoFrameCnt_popHead, if_pos haudio, h.video, hcountV]
    · rw [pop, if_pos haudio, h.audio, hcountA]
      simp
  | video =>
    have haudio : head.isAudioData = false := by simp [DataSpec.isAudioData, hmt]
    simp only [hmt, if_true, reduceCtorEq, if_false, Nat.add_zero] at hcountA hcountV
    refine ⟨⟨⟨?_, ?_⟩, hkinds, hsmall, h.capacity, h.maxBufferCapacity⟩, ?_⟩
    · rw [audioFrameCnt_popHead, if_neg (by simp [haudio]), h.audio, hcountA]
    · rw [videoFrameCnt_popHead, if_neg (by simp [haudio]), h.video, hcountV,
        decremented_succ (by omega)]
    · rw [pop, if_neg (by simp [haudio]), h.video, hcountV]
      simp

theorem Tallied.restorePops (hlimit : limit < 2 ^ 32) {n : Nat} (h : Tallied limit s)
    (haudio : ∀ d ∈ s.circularBuffer.items.take n, d.isAudioData)
    (hn : n ≤ s.circularBuffer.size) :
    Tallied limit (restorePops n s) ∧ ∀ p ∈ restorePopList n s, p.counter ≠ some 0 := by
  induction n generalizing s with
  | zero => exact ⟨h, List.forall_mem_nil _⟩
  | succ n ih =>
    cases hitems : s.circularBuffer.items with
    | nil =>
      rw [CircularBuffer.size, hitems] at hn
      cases hn
    | cons head rest =>
      rw [hitems] at haudio
      have hhead : head.isAudioData = true := haudio head List.mem_cons_self
      have hfirst : s.circularBuffer.items.head? = some head := by
        rw [hitems]
        rfl
      obtain ⟨hpop, hcounter⟩ := h.popHead hlimit hfirst
      rw [hhead] at hpop hcounter
      have hafter : (s.popHead true).circularBuffer.items = rest := by
        change s.circularBuffer.items.drop 1 = rest
        rw [hitems]
        rfl
      obtain ⟨hrest, hpops⟩ := ih hpop
        (by
          rw [hafter]
          exact fun d hd => haudio d (List.mem_cons_of_mem _ hd))
        (by
          rw [CircularBuffer.size, hitems, List.length_cons] at hn
          rw [CircularBuffer.size, hafter]
          omega)
      exact ⟨hrest, List.forall_mem_cons.mpr ⟨hcounter, hpops⟩⟩

theorem Tallied.deleteLoop (hlimit : limit < 2 ^ 32) (h : Tallied limit s) (forceDelete : Bool)
    (size : Nat) : Tallied limit (deleteLoop forceDelete size s).1 ∧
      ∀ p ∈ deletePopList forceDelete size s, p.counter ≠ some 0 := by
  induction size generalizing s with
  | zero => exact ⟨h, List.forall_mem_nil _⟩
  | succ size ih =>
    rw [BufferDispatcher.deleteLoop, deletePopList]
    split
    · exact ⟨h, List.forall_mem_nil _⟩
    · cases hhead : s.circularBuffer.items.head? with
      | none => exact ⟨h, List.forall_mem_nil _⟩
      | some head =>
        obtain ⟨hpop, hcounter⟩ := h.popHead hlimit hhead
        obtain ⟨hrest, hpops⟩ := ih hpop
        exact ⟨hrest, List.forall_mem_cons.mpr ⟨hcounter, hpops⟩⟩

theorem Tallied.overflowPops (hlimit : limit < 2 ^ 32) {n : Nat} (h : Tallied limit s) :
    (∀ s', overflowPops n s = .ok s' → Tallied limit s') ∧
      ∀ p ∈ overflowPopList n s, p.counter ≠ some 0 := by
  induction n generalizing s with
  | zero =>
    refine ⟨fun s' hs' => ?_, List.forall_mem_nil _⟩
    cases hs'
    exact h
  | succ n ih =>
    rw [BufferDispatcher.overflowPops, overflowPopList]
    cases hhead : s.circularBuffer.items.head? with
    | none =>
      refine ⟨fun s' hs' => ?_, by simp⟩
      cases hs'
    | some head =>
      obtain ⟨hpop, hcounter⟩ := h.popHead hlimit hhead
      obtain ⟨hrest, hpops⟩ := ih hpop
      exact ⟨hrest, List.forall_mem_cons.mpr ⟨hcounter, hpops⟩⟩

theorem Tallied.setBufferCapacity (h : Tallied limit s) (capacity : Nat) :
    Tallied limit (s.setBufferCapacity capacity) := by
  rw [BufferDispatcher.setBufferCapacity]
  split
  · exact h
  · rename_i hcapacity
    have hmax := h.maxBufferCapacity
    exact h.congr rfl rfl rfl (by simp only [CircularBuffer.capacity_setCapacity]; omega) rfl

theorem Tallied.flushBuffer (h : Tallied limit s) : Tallied limit s.flushBuffer :=
  ⟨⟨rfl, rfl⟩, List.forall_mem_nil _, Nat.zero_le _, h.capacity, h.maxBufferCapacity⟩

theorem Tallied.reCalculateCapacity (h : Tallied limit s) (keyFrame : Bool) :
    Tallied limit (s.reCalculateCapacity keyFrame) := by
  have hset (s' : BufferDispatcher) (capacity : Nat) (hframes : s'.frames = s.frames)
      (haudio : s'.audioFrameCnt = s.audioFrameCnt) (hvideo : s'.videoFrameCnt = s.videoFrameCnt)
      (hcapacity : s'.circularBuffer.capacity = s.circularBuffer.capacity)
      (hmax : s'.maxBufferCapacity = s.maxBufferCapacity) :
      Tallied limit (s'.setBufferCapacity capacity) :=
    (h.congr hframes haudio hvideo (hcapacity ▸ h.capacity) hmax).setBufferCapacity capacity
  simp only [BufferDispatcher.reCalculateCapacity]
  split
  · exact hset _ _ rfl rfl rfl rfl rfl
  · split
    · have hbase := hset
        { s with
            baseCounter := u32 (s.baseCounter + 1)
            baseBufferCapacity := max (min (u32 (u32 (s.baseCounter + 1) +
              s.bufferCapacityIncrement)) s.maxBufferCapacity) INITIAL_BUFFER_CAPACITY
            doubleBufferCapacity := min (u32 (max (min (u32 (u32 (s.baseCounter + 1) +
              s.bufferCapacityIncrement)) s.maxBufferCapacity) INITIAL_BUFFER_CAPACITY * 2))
              s.maxBufferCapacity
            gop := u32 (s.baseCounter + 1)
            capacityEvaluating := ¬ u32 (s.baseCounter + 1) > 0 }
        (max (min (u32 (u32 (s.baseCounter + 1) + s.bufferCapacityIncrement)) s.maxBufferCapacity)
          INITIAL_BUFFER_CAPACITY) rfl rfl rfl rfl rfl
      exact hbase.congr rfl rfl rfl hbase.capacity rfl
    · exact h.congr rfl rfl rfl h.capacity rfl

theorem Tallied.extended (h : Tallied limit s) : Tallied limit s.extended := by
  rw [BufferDispatcher.extended]
  split
  · exact h.setBufferCapacity _
  · exact h

theorem Tallied.deleteHeadDatas (hlimit : limit < 2 ^ 32) (h : Tallied limit s) (size : Nat)
    (forceDelete : Bool) : Tallied limit (s.deleteHeadDatas size forceDelete) ∧
      ∀ p ∈ deletePopList forceDelete size s, p.counter ≠ some 0 := by
  obtain ⟨hloop, hpops⟩ := h.deleteLoop hlimit forceDelete size
  refine ⟨?_, hpops⟩
  simp only [BufferDispatcher.deleteHeadDatas]
  split
  · exact h
  · split
    · rename_i hbase
      refine hloop.congr rfl rfl rfl ?_ rfl
      exact Nat.le_trans (Nat.le_of_lt hbase.2.2) hloop.capacity
    · exact hloop

theorem Tallied.eraseForKey (hlimit : limit < 2 ^ 32) (h : Tallied limit s) (data : DataSpec) :
    Tallied limit (s.eraseForKey data) ∧ ∀ p ∈ s.erasePops data, p.counter ≠ some 0 := by
  rw [BufferDispatcher.eraseForKey, erasePops, eraseOldGopDatas]
  by_cases hkey : data.isKeyVideoFrame ∧ ¬ s.keyOnly
  · rw [if_pos hkey]
    by_cases hmode : s.dataMode = .audioOnly
    · rw [if_pos hmode, if_neg fun hall => hall.2.2 hmode]
      exact ⟨h.flushBuffer, List.forall_mem_nil _⟩
    · rw [if_neg hmode, if_pos ⟨hkey.1, hkey.2, hmode⟩]
      have hlisted : Tallied limit (if s.nextKey > 0 then { s with keyIndexList := [s.nextKey] } else s) := by
        split
        · exact h.congr rfl rfl rfl h.capacity rfl
        · exact h
      obtain ⟨hhead, hpops⟩ := hlisted.deleteHeadDatas hlimit s.nextKey false
      obtain ⟨hforced, hforcedPops⟩ := hhead.deleteHeadDatas hlimit
        (findNextDeleteVideoIndex (BufferDispatcher.deleteHeadDatas
          (if s.nextKey > 0 then { s with keyIndexList := [s.nextKey] } else s) s.nextKey false)) true
      exact ⟨hforced, List.forall_mem_append.mpr ⟨hpops, hforcedPops⟩⟩
  · rw [if_neg hkey, if_neg fun hall => hkey ⟨hall.1, hall.2.1⟩]
    exact ⟨h, List.forall_mem_nil _⟩

/-- The loop of the restore takes the counter of audio frames down, whatever it pops. -/
def RestoresAudio (s : BufferDispatcher) : Prop :=
  s.needRestoreToNormalCapacity →
    ∀ d ∈ s.circularBuffer.items.take (s.circularBuffer.size - INITIAL_BUFFER_CAPACITY), d.isAudioData

instance (s : BufferDispatcher) : Decidable s.RestoresAudio := by
  unfold RestoresAudio
  infer_instance

theorem Tallied.adaptCapacity (hlimit : limit < 2 ^ 32) (hinitial : INITIAL_BUFFER_CAPACITY ≤ limit)
    (h : Tallied limit s) (hrestore : s.extended.RestoresAudio) :
    Tallied limit s.adaptCapacity ∧ ∀ p ∈ s.adaptPops, p.counter ≠ some 0 := by
  rw [adaptCapacity_eq, adaptPops]
  split
  · rename_i hneed
    obtain ⟨hpops, hcounters⟩ := h.extended.restorePops hlimit (hrestore hneed) (Nat.sub_le _ _)
    refine ⟨?_, hcounters⟩
    rw [restoreToNormalCapacity]
    generalize BufferDispatcher.restorePops _ s.extended = restored at hpops ⊢
    exact hpops.congr rfl rfl rfl hinitial rfl
  · exact ⟨h.extended, List.forall_mem_nil _⟩

theorem Tallied.makeRoom (hlimit : limit < 2 ^ 32) (hinitial : INITIAL_BUFFER_CAPACITY ≤ limit)
    (h : Tallied limit s) (hrestore : s.extended.RestoresAudio) (data : DataSpec) :
    (∀ r, s.makeRoom data = .ok r → Tallied limit r) ∧
      ∀ p ∈ s.makeRoomPops data, p.counter ≠ some 0 := by
  obtain ⟨hadapted, hadaptPops⟩ := h.adaptCapacity hlimit hinitial hrestore
  obtain ⟨herased, herasePops⟩ := hadapted.eraseForKey hlimit data
  obtain ⟨hroom, hoverflowPops⟩ := herased.overflowPops hlimit
    (n := (s.adaptCapacity.eraseForKey data).overflowCount data)
  refine ⟨hroom, ?_⟩
  rw [makeRoomPops, List.forall_mem_append, List.forall_mem_append]
  exact ⟨⟨hadaptPops, herasePops⟩, hoverflowPops⟩

theorem Tallied.prepared (h : Tallied limit s) (m : MediaData) : Tallied limit (s.prepared m) := by
  have hcounted : Tallied limit s.counted := h.congr rfl rfl rfl h.capacity rfl
  rw [BufferDispatcher.prepared]
  split
  · exact hcounted.flushBuffer.congr rfl rfl rfl h.capacity rfl
  · split
    · exact hcounted.reCalculateCapacity _
    · exact hcounted

theorem frameCnts_pushBack (s : BufferDispatcher) (data : DataSpec) :
    (s.pushBack data).audioFrameCnt =
        (if data.isAudioData then u32 (s.audioFrameCnt + 1) else s.audioFrameCnt) ∧
      (s.pushBack data).videoFrameCnt =
        if data.isAudioData then s.videoFrameCnt else u32 (s.videoFrameCnt + 1) := by
  simp only [pushBack]
  split
  · exact ⟨rfl, rfl⟩
  · split <;> exact ⟨rfl, rfl⟩

theorem frameCnts_appendData (s : BufferDispatcher) (data : DataSpec) :
    (s.appendData data).audioFrameCnt = (s.pushBack data).audioFrameCnt ∧
      (s.appendData data).videoFrameCnt = (s.pushBack data).videoFrameCnt ∧
      (s.appendData data).circularBuffer.capacity = s.circularBuffer.capacity ∧
      (s.appendData data).maxBufferCapacity = s.maxBufferCapacity := by
  obtain ⟨items, keyRedirect, heq, -⟩ := appendData_eq s data
  rw [heq, listed_eq]
  exact ⟨rfl, rfl, rfl, rfl⟩

theorem Tallied.appendData (hlimit : limit < 2 ^ 32) (h : Tallied limit s) {data : DataSpec}
    (hkind : data.mediaData.mediaType ≠ .av) (hroom : s.circularBuffer.size < s.circularBuffer.capacity) :
    Tallied limit (s.appendData data) := by
  obtain ⟨haudio, hvideo, hcapacity, hmax⟩ := frameCnts_appendData s data
  have hframes := frames_appendData_of_lt hroom data
  have hsize : (s.appendData data).circularBuffer.size = s.circularBuffer.size + 1 := by
    rw [← length_frames, ← length_frames, hframes, List.length_append, List.length_singleton]
  have hcapacityLe := h.capacity
  have hsucc {n : Nat} (hn : n ≤ s.circularBuffer.size) : u32 (n + 1) = n + 1 := by
    rw [u32]
    omega
  have hle (type : MediaType) : s.frameCount type ≤ s.circularBuffer.size := List.countP_le_length
  have hcount (type : MediaType) : (s.appendData data).frameCount type =
      s.frameCount type + if data.mediaData.mediaType = type then 1 else 0 := by
    rw [frameCount_eq, frameCount_eq, hframes, List.countP_append, List.countP_singleton]
    simp only [decide_eq_true_eq]
  refine ⟨⟨?_, ?_⟩, ?_, by omega, hcapacity ▸ h.capacity, hmax ▸ h.maxBufferCapacity⟩
  · rw [haudio, (frameCnts_pushBack s data).1, hcount, h.audio, hsucc (hle .audio)]
    by_cases htype : data.mediaData.mediaType = .audio <;> simp [DataSpec.isAudioData, htype]
  · rw [hvideo, (frameCnts_pushBack s data).2, hcount, h.video, hsucc (hle .video)]
    cases htype : data.mediaData.mediaType with
    | av => exact absurd htype hkind
    | audio => simp [DataSpec.isAudioData, htype]
    | video => simp [DataSpec.isAudioData, htype]
  · rw [hframes, List.forall_mem_append]
    exact ⟨h.kinds, by simpa using hkind⟩

/-- The frame is an audio or a video frame, a restore takes audio frames only, and `push_back`
takes none. -/
def CountsOn (s : BufferDispatcher) : Call → Prop
  | .inputData (some m) => s.accepts m →
      m.mediaType ≠ .av ∧ (s.prepared m).extended.RestoresAudio ∧ pushPops (s.roomFor m) = []
  | _ => True

instance (s : BufferDispatcher) : DecidablePred s.CountsOn
  | .inputData (some _) | .inputData none | .flushBuffer | .setBufferCapacity .. | .enableKeyMode ..
  | .enableRapidMode .. | .enableKeyRedirect .. | .cancelReserve | .attachReceiver .. | .detachReceiver ..
  | .releaseAllReceiver | .requestRead .. | .awaitData .. | .clearDataBit .. | .clearReadBit ..
  | .readBufferData .. | .notifyReadReady .. | .notifyReadStart .. | .notifyReadStop ..
  | .enableReceiverKeyMode .. | .enableReceiverKeyRedirect .. | .expire .. | .notifyThreadWorker => by
    unfold CountsOn; infer_instance

theorem Tallied.pops (hlimit : limit < 2 ^ 32) (hinitial : INITIAL_BUFFER_CAPACITY ≤ limit)
    (h : Tallied limit s) {call : Call} (hok : s.CountsOn call) :
    ∀ p ∈ s.pops call, p.counter ≠ some 0 := by
  rw [BufferDispatcher.pops.eq_def]
  split
  · rename_i m
    split
    · rename_i haccepts
      obtain ⟨-, hrestore, hpush⟩ := hok haccepts
      rw [hpush, List.append_nil]
      exact ((h.prepared m).makeRoom hlimit hinitial hrestore _).2
    · exact List.forall_mem_nil _
  · exact List.forall_mem_nil _

theorem Tallied.exec (hlimit : limit < 2 ^ 32) (hinitial : INITIAL_BUFFER_CAPACITY ≤ limit)
    (h : Tallied limit s) {call : Call} (hok : s.CountsOn call) (hexec : s.exec call = .ok s') :
    Tallied limit s' := by
  rcases exec_cases s call with ⟨mediaData, rfl⟩ | rfl | ⟨capacity, rfl⟩ | ⟨s'', hs'', huntouched⟩
  · rcases inputData_cases hexec with ⟨rfl, -⟩ | ⟨m, -, -, rfl⟩ | ⟨m, r, rfl, ha, hr, rfl⟩
    · exact h
    · exact h.congr rfl rfl rfl h.capacity rfl
    · obtain ⟨hkind, hrestore, hpush⟩ := hok ha
      rw [hr, pushPops] at hpush
      have hroom : r.circularBuffer.size < r.circularBuffer.capacity := by
        by_contra hge
        rw [if_pos (Nat.not_lt.mp hge)] at hpush
        cases hpush
      have hmake := ((h.prepared m).makeRoom hlimit hinitial hrestore (s.newData m)).1 r
        (roomFor_eq s m ▸ hr)
      exact hmake.appendData hlimit hkind hroom
  · cases hexec
    exact h.flushBuffer
  · cases hexec
    exact h.setBufferCapacity capacity
  · rw [hexec] at hs''
    cases hs''
    exact h.congr huntouched.frames (congrArg Tuning.audioFrameCnt huntouched.tuning)
      (congrArg Tuning.videoFrameCnt huntouched.tuning)
      ((congrArg Tuning.capacity huntouched.tuning).trans_le h.capacity) huntouched.maxBufferCapacity

/-- The counters are those of the buffer after every call, and none of them is taken below zero. -/
theorem run_counted {maxCapacity capacityIncrement : Nat} (hmax : maxCapacity < 2 ^ 32)
    {dataMode : MediaDispacherMode} {calls : List Call}
    (run : GuardedRun exec CountsOn (create maxCapacity capacityIncrement dataMode) calls s) :
    s.Counted ∧ ∀ call, s.CountsOn call → ∀ p ∈ s.pops call, p.counter ≠ some 0 := by
  have hlimit : max maxCapacity INITIAL_BUFFER_CAPACITY < 2 ^ 32 := by
    rw [INITIAL_BUFFER_CAPACITY]
    omega
  have hinitial := Nat.le_max_right maxCapacity INITIAL_BUFFER_CAPACITY
  have htallied : Tallied (max maxCapacity INITIAL_BUFFER_CAPACITY) s := by
    refine run.invariant (I := Tallied (max maxCapacity INITIAL_BUFFER_CAPACITY)) ?_ ?_
    · exact ⟨⟨rfl, rfl⟩, List.forall_mem_nil _, Nat.zero_le _, hinitial, Nat.le_max_left _ _⟩
    · exact fun s call s' h hok hexec => h.exec hlimit hinitial hok hexec
  exact ⟨htallied.toCounted, fun call hok => htallied.pops hlimit hinitial hok⟩

/-- Two groups of pictures with sound. -/
theorem run_counted_twoKeys : ∃ s : BufferDispatcher,
    (s.audioFrameCnt = 2 ∧ s.videoFrameCnt = 3) ∧ s.Counted ∧
      ∀ p ∈ s.pops .key, p.counter ≠ some 0 := by
  have hsome : (GuardedRun.check exec CountsOn
      (create MAX_BUFFER_CAPACITY BUFFER_CAPACITY_INCREMENT .videoAudioMixed)
      [.key, .audio, .key, .video, .audio]).any
        (fun s => s.audioFrameCnt = 2 ∧ s.videoFrameCnt = 3 ∧ s.CountsOn .key) = true := by
    decide +kernel
  obtain ⟨s, hrun, hs⟩ := (Option.any_eq_true _ _).mp hsome
  obtain ⟨haudio, hvideo, hok⟩ := of_decide_eq_true hs
  have hcounted := run_counted (by decide) (GuardedRun.of_check hrun)
  exact ⟨s, ⟨haudio, hvideo⟩, hcounted.1, hcounted.2 .key hok⟩

/-- The capacity is set below the size of the buffer, and `push_back` takes a frame that stays
counted. -/
theorem lowerCapacity_not_counted : ¬ ∀ (maxCapacity capacityIncrement : Nat)
    (dataMode : MediaDispacherMode) (calls : List Call) (s : BufferDispatcher),
    maxCapacity < 2 ^ 32 →
      GuardedRun exec (fun _ _ => True) (create maxCapacity capacityIncrement dataMode) calls s →
        s.Counted := by
  intro hall
  have hsome : (GuardedRun.check exec (fun _ _ => True)
      (create MAX_BUFFER_CAPACITY BUFFER_CAPACITY_INCREMENT .videoAudioMixed)
      [.key, .key, .video, .video, .setBufferCapacity 1, .video]).any (fun s => ¬ s.Counted) = true := by
    decide +kernel
  obtain ⟨s, hrun, hs⟩ := (Option.any_eq_true _ _).mp hsome
  exact of_decide_eq_true hs (hall _ _ _ _ s (by decide) (GuardedRun.of_check hrun))

end BufferDispatcher

end WifiDisplay
