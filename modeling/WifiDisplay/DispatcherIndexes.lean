import WifiDisplay.BufferDispatcherSlots

/-! The index invariant: what `keyIndexList_`, the two last positions and the indexes of
the receivers say of the buffer. -/

namespace WifiDisplay

open QueuePositions

namespace BufferDispatcher

variable {s s' r : BufferDispatcher} {m : MediaData} {n : Nat}

/-- The indexes are right: the listed keys are the key frames from the first listed one
on, the last positions are those of the last frames, and no index is too large. -/
structure IndexesRight (s : BufferDispatcher) : Prop where
  increasing : s.keyIndexList.Pairwise (· < ·)
  keys : ∀ k ∈ s.keyIndexList.head?, s.keyIndexList =
    (s.circularBuffer.items.findIdxs DataSpec.isKeyVideoFrame).filter (k ≤ ·)
  keys_lt : ∀ k ∈ s.keyIndexList, k < s.circularBuffer.size
  lastAudio : s.lastAudioIndex = lastIdx DataSpec.isAudioData s.circularBuffer.items
  lastVideo : s.lastVideoIndex = lastIdx DataSpec.isVideoData s.circularBuffer.items
  indexes : ∀ n ∈ s.notifiers, (∀ i ∈ n.audioIndex, i < s.circularBuffer.size) ∧
    ∀ i ∈ n.videoIndex, i < s.circularBuffer.size

/-- The same, with the listed keys as a suffix of all positions of key frames. -/
structure Indexed (s : BufferDispatcher) : Prop where
  keys : s.KeysListed
  lastAudio : s.lastAudioIndex = lastIdx DataSpec.isAudioData s.circularBuffer.items
  lastVideo : s.lastVideoIndex = lastIdx DataSpec.isVideoData s.circularBuffer.items
  indexes : ∀ n ∈ s.notifiers, (∀ i ∈ n.audioIndex, i < s.circularBuffer.size) ∧
    ∀ i ∈ n.videoIndex, i < s.circularBuffer.size

theorem filter_of_suffix {ks ps : List Nat} {k : Nat} (hks : ks.head? = some k) (h : ks <:+ ps)
    (hps : ps.Pairwise (· < ·)) : ks = ps.filter (k ≤ ·) := by
  obtain ⟨front, rfl⟩ := h
  have hsplit := List.pairwise_append.mp hps
  have hfront : front.filter (k ≤ ·) = [] := by
    apply List.filter_eq_nil_iff.mpr
    intro j hj
    have hlt := hsplit.2.2 j hj k (List.mem_of_mem_head? hks)
    simpa using hlt
  have hback : ks.filter (k ≤ ·) = ks := by
    apply List.filter_eq_self.mpr
    intro j hj
    cases ks with
    | nil => cases hks
    | cons k' ks =>
      cases hks
      rcases List.mem_cons.mp hj with rfl | hj
      · simp
      · have hlt := (List.pairwise_cons.mp hsplit.2.1).1 j hj
        simpa using Nat.le_of_lt hlt
  rw [List.filter_append, hfront, hback, List.nil_append]

theorem Indexed.right (h : Indexed s) : IndexesRight s where
  increasing := sorted_of_suffix h.keys
  keys := fun _ hk => filter_of_suffix hk h.keys List.pairwise_findIdxs
  keys_lt := fun _ hk => (lt_of_suffix h.keys hk).1
  lastAudio := h.lastAudio
  lastVideo := h.lastVideo
  indexes := h.indexes

theorem findIdxs_of_frames {p : DataSpec → Bool}
    (hp : ∀ d d' : DataSpec, d.mediaData = d'.mediaData → p d = p d') (h : s'.frames = s.frames) :
    s'.circularBuffer.items.findIdxs p = s.circularBuffer.items.findIdxs p := by
  have hcomp : p = (fun f : MediaData × Nat => p ⟨f.1, 0, f.2⟩) ∘
      fun d : DataSpec => (d.mediaData, d.seq) := funext fun d => hp _ _ rfl
  rw [hcomp, ← List.findIdxs_map, ← List.findIdxs_map]
  exact congrArg (fun l => l.findIdxs fun f : MediaData × Nat => p ⟨f.1, 0, f.2⟩) h

theorem isKeyVideoFrame_congr (d d' : DataSpec) (h : d.mediaData = d'.mediaData) :
    d.isKeyVideoFrame = d'.isKeyVideoFrame := by
  rw [DataSpec.isKeyVideoFrame, DataSpec.isKeyVideoFrame, DataSpec.isVideoData, DataSpec.isVideoData, h]

theorem isAudioData_congr (d d' : DataSpec) (h : d.mediaData = d'.mediaData) :
    d.isAudioData = d'.isAudioData := by rw [DataSpec.isAudioData, DataSpec.isAudioData, h]

theorem isVideoData_congr (d d' : DataSpec) (h : d.mediaData = d'.mediaData) :
    d.isVideoData = d'.isVideoData := by rw [DataSpec.isVideoData, DataSpec.isVideoData, h]

theorem KeysListed.of_still (h : s.KeysListed) (hs : Still s s') : s'.KeysListed := by
  rw [KeysListed, hs.keyIndexList, findIdxs_of_frames isKeyVideoFrame_congr hs.frames]
  exact h

theorem Indexed.of_still (h : Indexed s) (hs : Still s s')
    (hindexes : ∀ n ∈ s'.notifiers, (∀ i ∈ n.audioIndex, i < s.circularBuffer.size) ∧
      ∀ i ∈ n.videoIndex, i < s.circularBuffer.size) : Indexed s' := by
  refine ⟨h.keys.of_still hs, ?_, ?_, ?_⟩
  · rw [hs.lastAudioIndex, h.lastAudio, lastIdx, lastIdx, findIdxs_of_frames isAudioData_congr hs.frames]
  · rw [hs.lastVideoIndex, h.lastVideo, lastIdx, lastIdx, findIdxs_of_frames isVideoData_congr hs.frames]
  · rw [size_of_frames hs.frames]
    exact hindexes

theorem Indexed.quiet (h : Indexed s) (hq : Quiet s s') : Indexed s' :=
  h.of_still hq.toStill (hq.forall_notifiers (P := fun n => (∀ i ∈ n.audioIndex,
    i < s.circularBuffer.size) ∧ ∀ i ∈ n.videoIndex, i < s.circularBuffer.size) (fun _ => Iff.rfl)
      h.indexes)

theorem Indexed.read (h : Indexed s) (receiverId : Nat) (type : MediaType) :
    Indexed (s.readBufferData receiverId type).2 := by
  rcases readBufferData_spec s receiverId type with heq | ⟨n, i, d, hreads⟩
  · rw [heq]
    exact h
  · apply h.of_still hreads.still
    rw [hreads.notifiers]
    intro n' hn'
    obtain ⟨n₀, hn₀, rfl⟩ := List.mem_map.mp hn'
    have hi : i < s.circularBuffer.size := (List.getElem?_eq_some_iff.mp hreads.data).1
    have hnext := findNextIndex_lt hi type (s.keyMode n)
    obtain ⟨haudio, hvideo⟩ := h.indexes n₀ hn₀
    split
    · cases type
      · exact ⟨by simpa [DataNotifier.setReadIndexes] using hnext,
          by simpa [DataNotifier.setReadIndexes] using hnext⟩
      · exact ⟨by simpa [DataNotifier.setReadIndexes] using hnext, hvideo⟩
      · exact ⟨haudio, by simpa [DataNotifier.setReadIndexes] using hnext⟩
    · exact ⟨haudio, hvideo⟩

theorem Indexed.attach (h : Indexed s) (receiver : BufferReceiver) :
    Indexed (s.attachReceiver receiver) := by
  rcases attachReceiver_eq s receiver with ⟨-, heq⟩ | ⟨-, heq⟩
  · rw [heq]
    exact h
  rw [heq]
  refine ⟨h.keys, h.lastAudio, h.lastVideo, ?_⟩
  intro n hn
  rcases List.mem_append.mp hn with hn | hn
  · exact h.indexes n hn
  rw [List.mem_singleton.mp hn]
  change (∀ i ∈ s.attachIndexes.1, i < s.circularBuffer.size) ∧
    ∀ i ∈ s.attachIndexes.2, i < s.circularBuffer.size
  rw [attachIndexes]
  by_cases hempty : s.circularBuffer.items = []
  · simp [hempty]
  have hpos : s.circularBuffer.size - 1 < s.circularBuffer.size :=
    Nat.sub_lt (List.length_pos_of_ne_nil hempty) Nat.one_pos
  rw [if_neg hempty]
  by_cases hmode : s.dataMode = .audioOnly
  · rw [if_pos hmode]
    simpa using hpos
  rw [if_neg hmode]
  cases hkey : s.keyIndexList.getLast? with
  | none =>
    refine ⟨fun i hi => ?_, by simp⟩
    rw [h.lastAudio] at hi
    exact (lastIdx_lt hi).1
  | some key =>
    have hlt : key < s.circularBuffer.size := (lt_of_suffix h.keys (List.mem_of_getLast? hkey)).1
    have hnext := findNextIndex_lt hlt .audio s.keyOnly
    refine ⟨fun i hi => ?_, by simpa using hlt⟩
    simp only at hi
    split at hi
    · cases hi
    · cases hi
      exact hnext

theorem Indexed.detach (h : Indexed s) (receiverId : Nat) : Indexed (s.detachReceiver receiverId) := by
  rw [detachReceiver]
  split
  · exact h
  · rename_i n _
    obtain ⟨recvBitRef, heq⟩ := detachNotifier_cases s n
    rw [heq]
    exact ⟨h.keys, h.lastAudio, h.lastVideo, fun n hn => h.indexes n (List.mem_filter.mp hn).1⟩

theorem Indexed.release (h : Indexed s) : Indexed s.releaseAllReceiver := by
  obtain ⟨recvBitRef, heq⟩ := releaseAllReceiver_eq s
  rw [heq]
  exact ⟨h.keys, h.lastAudio, h.lastVideo, by simp⟩

theorem Indexed.of_flushes (h : Flushes s s') : Indexed s' := by
  obtain ⟨t, ht, rfl⟩ := h
  refine ⟨?_, rfl, rfl, ?_⟩
  · rw [KeysListed, tuned, ht]
    exact List.nil_suffix
  · intro n hn
    obtain ⟨n₀, -, rfl⟩ := List.mem_map.mp hn
    simp [DataNotifier.reset]

/-- Dropping heads keeps the last position of every type of which a frame is left. -/
theorem lastIdx_drops {p : DataSpec → Bool} {last : Index} {items : List DataSpec}
    (h : last = lastIdx p items) (hleft : ∀ i ∈ lastIdx p items, n ≤ i) :
    last.map (· - n) = lastIdx p (items.drop n) := by
  cases hlast : lastIdx p items with
  | none =>
    rw [h, hlast, lastIdx_drop_none hlast]
    rfl
  | some i =>
    rw [h, hlast, lastIdx_drop hlast (hleft i hlast)]
    rfl

/-- A frame of the other type is left, if one is in the buffer. -/
def LeavesOther (s : BufferDispatcher) (m : MediaData) (n : Nat) : Prop :=
  (m.mediaType = .audio → ∀ i ∈ lastIdx DataSpec.isVideoData s.circularBuffer.items, n ≤ i) ∧
    (m.mediaType = .video → ∀ i ∈ lastIdx DataSpec.isAudioData s.circularBuffer.items, n ≤ i)

/-- The room that is made for a frame: none of another type gets lost as a whole, and
`push_back` drops nothing by itself. -/
def MakesRoom (s : BufferDispatcher) (m : MediaData) (r : BufferDispatcher) : Prop :=
  m.mediaType ≠ .av ∧ r.circularBuffer.size < r.circularBuffer.capacity ∧
    (s.flushesFor m ∨ s.LeavesOther m (s.circularBuffer.size - r.circularBuffer.size))

/-- What the room for a frame says of the indexes, but for those of the frame's type. -/
structure IndexedBut (m : MediaData) (r : BufferDispatcher) : Prop where
  keys : r.KeysListed
  lastAudio : m.mediaType = .video → r.lastAudioIndex = lastIdx DataSpec.isAudioData r.circularBuffer.items
  lastVideo : m.mediaType = .audio → r.lastVideoIndex = lastIdx DataSpec.isVideoData r.circularBuffer.items
  indexes : ∀ n ∈ r.notifiers, (∀ i ∈ n.audioIndex, i ≤ r.circularBuffer.size) ∧
    ∀ i ∈ n.videoIndex, i ≤ r.circularBuffer.size

theorem Indexed.but (h : Indexed s) : IndexedBut m s :=
  ⟨h.keys, fun _ => h.lastAudio, fun _ => h.lastVideo,
    fun n hn => ⟨fun i hi => Nat.le_of_lt ((h.indexes n hn).1 i hi),
      fun i hi => Nat.le_of_lt ((h.indexes n hn).2 i hi)⟩⟩

theorem Indexed.drops (h : Indexed s) (hd : Drops s n r) (hleft : s.LeavesOther m n) :
    IndexedBut m r := by
  have hkeys := hd.keys h.keys
  have hsize := hd.size
  have hle := hd.le
  obtain ⟨t, rfl⟩ := hd.eq
  refine ⟨hkeys, fun hm => lastIdx_drops h.lastAudio (hleft.2 hm),
    fun hm => lastIdx_drops h.lastVideo (hleft.1 hm), ?_⟩
  intro n' hn'
  obtain ⟨n₀, hn₀, rfl⟩ := List.mem_map.mp hn'
  obtain ⟨haudio, hvideo⟩ := h.indexes n₀ hn₀
  constructor
  · intro i hi
    obtain ⟨j, hj, rfl⟩ := Option.map_eq_some_iff.mp hi
    have hlt := haudio j hj
    omega
  · intro i hi
    obtain ⟨j, hj, rfl⟩ := Option.map_eq_some_iff.mp hi
    have hlt := hvideo j hj
    omega

theorem findIdxs_appendData {p : DataSpec → Bool} {data : DataSpec}
    (hp : ∀ d d' : DataSpec, d.mediaData = d'.mediaData → p d = p d')
    (h : r.circularBuffer.size < r.circularBuffer.capacity) :
    (r.appendData data).circularBuffer.items.findIdxs p =
      (r.circularBuffer.items ++ [data]).findIdxs p := by
  let r' : BufferDispatcher := { r with
    circularBuffer := { r.circularBuffer with items := r.circularBuffer.items ++ [data] } }
  have hframes : (r.appendData data).frames = r'.frames := by
    rw [frames_appendData_of_lt h, frames, frames, List.map_append]
    rfl
  exact findIdxs_of_frames (s := r') hp hframes

theorem KeysListed.append (h : r.KeysListed) (hroom : r.circularBuffer.size < r.circularBuffer.capacity)
    (data : DataSpec) : (r.appendData data).KeysListed := by
  obtain ⟨items, keyRedirect, heq, -⟩ := appendData_eq r data
  have hkeys : (r.appendData data).keyIndexList =
      if data.isKeyVideoFrame then r.keyIndexList ++ [r.circularBuffer.size] else r.keyIndexList := by
    rw [heq, listed_eq, lastPosition_eq hroom]
  rw [KeysListed, hkeys, findIdxs_appendData isKeyVideoFrame_congr hroom]
  exact suffix_concat h

/-- A frame of audio or video appended to the room that was made for it sets the indexes right. -/
theorem IndexedBut.append (h : IndexedBut m r) (hm : m.mediaType ≠ .av)
    (hroom : r.circularBuffer.size < r.circularBuffer.capacity) {data : DataSpec}
    (hdata : data.mediaData = m) : Indexed (r.appendData data) := by
  have hlast : r.lastPosition data = r.circularBuffer.size := lastPosition_eq hroom
  have hsize : (r.appendData data).circularBuffer.size = r.circularBuffer.size + 1 := by
    have hlen := congrArg List.length (frames_appendData_of_lt hroom data)
    simpa [frames, CircularBuffer.size] using hlen
  obtain ⟨items, keyRedirect, heq, -⟩ := appendData_eq r data
  have hlastAudio : (r.appendData data).lastAudioIndex =
      if data.isAudioData then some r.circularBuffer.size else r.lastAudioIndex := by
    rw [heq, listed_eq, hlast]
  have hlastVideo : (r.appendData data).lastVideoIndex =
      if data.isAudioData then r.lastVideoIndex else some r.circularBuffer.size := by
    rw [heq, listed_eq, hlast]
  have htype : data.isAudioData = !data.isVideoData := by
    rw [DataSpec.isAudioData, DataSpec.isVideoData, hdata]
    cases htype : m.mediaType with
    | av => exact absurd htype hm
    | audio => rfl
    | video => rfl
  refine ⟨h.keys.append hroom data, ?_, ?_, ?_⟩
  · rw [hlastAudio, lastIdx, findIdxs_appendData isAudioData_congr hroom, ← lastIdx, lastIdx_concat]
    by_cases haudio : data.isAudioData
    · simp [haudio, CircularBuffer.size]
    · have hvideo : m.mediaType = .video := by
        rw [htype] at haudio
        simpa [DataSpec.isVideoData, hdata] using haudio
      simp [haudio, h.lastAudio hvideo]
  · rw [hlastVideo, lastIdx, findIdxs_appendData isVideoData_congr hroom, ← lastIdx, lastIdx_concat]
    by_cases haudio : data.isAudioData
    · have hvideo : data.isVideoData = false := by
        rw [htype] at haudio
        simpa using haudio
      have hm' : m.mediaType = .audio := by simpa [DataSpec.isAudioData, hdata] using haudio
      simp [haudio, hvideo, h.lastVideo hm']
    · have hvideo : data.isVideoData = true := by
        rw [htype] at haudio
        simpa using haudio
      simp [haudio, hvideo, CircularBuffer.size]
  · intro n' hn'
    obtain ⟨n, hn, rfl⟩ := mem_notifiers_appendData hn'
    obtain ⟨haudio, hvideo⟩ := h.indexes n hn
    rw [hsize]
    constructor
    · intro i hi
      rw [audioIndex_appended] at hi
      split at hi
      · cases hi
        omega
      · exact Nat.lt_succ_of_le (haudio i hi)
    · intro i hi
      rcases videoIndex_appended_or r data n with hsame | ⟨-, hnew⟩
      · rw [hsame] at hi
        exact Nat.lt_succ_of_le (hvideo i hi)
      · rw [hnew] at hi
        cases hi
        omega

instance (s : BufferDispatcher) (m : MediaData) (r : BufferDispatcher) : Decidable (s.MakesRoom m r) :=
  inferInstanceAs (Decidable (_ ∧ _ ∧ (_ ∨ ((_ → _) ∧ (_ → _)))))

/-- The condition on a call: `InputData` makes room for an audio or a video frame so that
none of another type gets lost as a whole, and `push_back` drops nothing by itself. -/
def KeepsIndexes (s : BufferDispatcher) : Call → Prop
  | .inputData (some m) => s.accepts m → ∀ r ∈ (s.roomFor m).toOption, s.MakesRoom m r
  | _ => True

instance (s : BufferDispatcher) (call : Call) : Decidable (s.KeepsIndexes call) :=
  match call with
  | .inputData (some m) =>
    inferInstanceAs (Decidable (s.accepts m → ∀ r ∈ (s.roomFor m).toOption, s.MakesRoom m r))
  | .inputData none | .flushBuffer | .setBufferCapacity _ | .enableKeyMode _ | .enableRapidMode _
  | .enableKeyRedirect _ | .cancelReserve | .attachReceiver _ | .detachReceiver _
  | .releaseAllReceiver | .requestRead _ _ | .awaitData _ _ | .clearDataBit _ _ | .clearReadBit _ _
  | .readBufferData _ _ | .notifyReadReady _ _ | .notifyReadStart _ | .notifyReadStop _
  | .enableReceiverKeyMode _ _ | .enableReceiverKeyRedirect _ _ | .expire _
  | .notifyThreadWorker => isTrue trivial

theorem Indexed.input {mediaData : Option MediaData} (h : Indexed s)
    (hok : s.KeepsIndexes (.inputData mediaData)) (hs' : s.inputData mediaData = .ok s') :
    Indexed s' := by
  rcases inputData_cases hs' with ⟨rfl, -⟩ | ⟨m, -, -, rfl⟩ | ⟨m, r, rfl, ha, hr, rfl⟩
  · exact h
  · exact ⟨h.keys, h.lastAudio, h.lastVideo, h.indexes⟩
  obtain ⟨hm, hroom, hleft⟩ := hok ha r (by simp [hr, Except.toOption])
  have hcounted : Indexed s.counted := ⟨h.keys, h.lastAudio, h.lastVideo, h.indexes⟩
  by_cases hf : s.flushesFor m
  · exact (Indexed.of_flushes (roomFor_flushes hf hr)).but.append hm hroom rfl
  · obtain ⟨n, hn⟩ := roomFor_drops ha hf hr
    have hleft := hleft.resolve_left hf
    rw [show s.circularBuffer.size = s.counted.circularBuffer.size from rfl, hn.size_sub] at hleft
    exact (hcounted.drops hn hleft).append hm hroom rfl

theorem Indexed.exec {call : Call} (h : Indexed s) (hok : s.KeepsIndexes call)
    (hs' : s.exec call = .ok s') : Indexed s' := by
  cases call
  case inputData => exact h.input hok hs'
  case flushBuffer =>
    cases hs'
    exact Indexed.of_flushes (flushBuffer_flushes s)
  case cancelReserve =>
    cases hs'
    exact h.of_still (cancelReserve_still s) h.indexes
  case attachReceiver receiver =>
    cases hs'
    exact h.attach receiver
  case detachReceiver receiverId =>
    cases hs'
    exact h.detach receiverId
  case releaseAllReceiver =>
    cases hs'
    exact h.release
  case readBufferData receiverId type =>
    cases hs'
    exact h.read receiverId type
  all_goals exact h.quiet (exec_quiet (by trivial) hs')

end BufferDispatcher

/-- In every run whose `InputData` calls meet the condition, the indexes are right after
every call. -/
theorem History.run_indexesRight {maxCapacity capacityIncrement : Nat}
    {dataMode : MediaDispacherMode} {calls : List Call} {h : History}
    (run : History.Run (fun h call => h.dispatcher.KeepsIndexes call) maxCapacity capacityIncrement
      dataMode calls h) : h.dispatcher.IndexesRight := by
  have hindexed : h.dispatcher.Indexed := by
    apply GuardedRun.invariant (I := fun h => h.dispatcher.Indexed) _ _ run
    · exact ⟨List.nil_suffix, rfl, rfl, by simp [BufferDispatcher.create]⟩
    · exact fun _ _ _ hi hok hstep => hi.exec hok (History.step_ok hstep).1
  exact hindexed.right

/-- A receiver reads a key frame and the one audio frame behind it; the next key frame but
one erases both. -/
def eraseAudioCalls : List Call :=
  [.attachReceiver { receiverId := 1 }, .key, .audio, .key, .readBufferData 1 .video,
    .readBufferData 1 .audio, .key]

/-- The last audio index stays 0 when the last audio frame is gone. -/
theorem History.eraseAudio_not_indexesRight :
    ¬ ∀ maxCapacity capacityIncrement dataMode calls h,
      History.Run (fun _ _ => True) maxCapacity capacityIncrement dataMode calls h →
        h.dispatcher.IndexesRight := by
  intro hall
  obtain ⟨h, hrun⟩ := Option.isSome_iff_exists.mp
    (show (History.runOf (fun _ _ => True) eraseAudioCalls).isSome by decide +kernel)
  have hstale : (History.runOf (fun _ _ => True) eraseAudioCalls).all fun h =>
      h.dispatcher.lastAudioIndex ≠ lastIdx DataSpec.isAudioData h.dispatcher.circularBuffer.items := by
    decide +kernel
  rw [hrun] at hstale
  have hright := hall _ _ _ _ h (GuardedRun.of_check hrun)
  simp [hright.lastAudio] at hstale

/-- With another audio frame behind the second key frame. -/
theorem History.run_keepAudio_indexesRight :
    ∃ h, History.Run (fun h call => h.dispatcher.KeepsIndexes call) MAX_BUFFER_CAPACITY
        BUFFER_CAPACITY_INCREMENT .videoAudioMixed
        [.attachReceiver { receiverId := 1 }, .key, .audio, .key, .audio, .readBufferData 1 .video,
          .readBufferData 1 .audio, .key] h ∧ h.dispatcher.circularBuffer.size = 3 ∧
      h.dispatcher.IndexesRight := by
  obtain ⟨h, hrun⟩ := Option.isSome_iff_exists.mp
    (show (History.runOf (fun h call => h.dispatcher.KeepsIndexes call)
      [.attachReceiver { receiverId := 1 }, .key, .audio, .key, .audio, .readBufferData 1 .video,
        .readBufferData 1 .audio, .key]).isSome by decide +kernel)
  have hsize : (History.runOf (fun h call => h.dispatcher.KeepsIndexes call)
      [.attachReceiver { receiverId := 1 }, .key, .audio, .key, .audio, .readBufferData 1 .video,
        .readBufferData 1 .audio, .key]).all fun h => h.dispatcher.circularBuffer.size = 3 := by
    decide +kernel
  rw [hrun] at hsize
  exact ⟨h, GuardedRun.of_check hrun, by simpa using hsize,
    History.run_indexesRight (GuardedRun.of_check hrun)⟩

end WifiDisplay
