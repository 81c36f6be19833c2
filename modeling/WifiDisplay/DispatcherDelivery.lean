import WifiDisplay.DispatcherIndexes

/-! Delivery by type: the audio index of a receiver stays at an audio frame and its video
index at a video frame. -/

namespace WifiDisplay

open QueuePositions

/-- The type of the frame at a position. -/
def typeAt (frames : List (MediaData × Nat)) (i : Nat) : Option MediaType :=
  frames[i]?.map (·.1.mediaType)

theorem typeAt_append {frames : List (MediaData × Nat)} {i : Nat} {type : MediaType}
    (h : typeAt frames i = some type) (more : List (MediaData × Nat)) :
    typeAt (frames ++ more) i = some type := by
  obtain ⟨f, hf, rfl⟩ := Option.map_eq_some_iff.mp h
  have hlt := (List.getElem?_eq_some_iff.mp hf).1
  rw [typeAt, List.getElem?_append_left hlt, hf]
  rfl

theorem typeAt_last (frames : List (MediaData × Nat)) (f : MediaData × Nat) :
    typeAt (frames ++ [f]) frames.length = some f.1.mediaType := by
  simp [typeAt]

/-- The indexes are at frames of their types. -/
def DataNotifier.Typed (frames : List (MediaData × Nat)) (n : DataNotifier) : Prop :=
  (∀ i ∈ n.audioIndex, typeAt frames i = some .audio) ∧
    ∀ i ∈ n.videoIndex, typeAt frames i = some .video

theorem DataNotifier.Typed.append {frames : List (MediaData × Nat)} {n : DataNotifier}
    (h : n.Typed frames) (more : List (MediaData × Nat)) : n.Typed (frames ++ more) :=
  ⟨fun i hi => typeAt_append (h.1 i hi) more, fun i hi => typeAt_append (h.2 i hi) more⟩

theorem DataNotifier.Typed.setReadIndexes {frames : List (MediaData × Nat)} {n : DataNotifier}
    {type : MediaType} {i : Nat} (h : n.Typed frames) (hav : type ≠ .av)
    (hi : typeAt frames i = some type) : (n.setReadIndexes (some i) type).Typed frames := by
  cases type with
  | av => exact absurd rfl hav
  | audio => exact ⟨fun j hj => by cases hj; exact hi, h.2⟩
  | video => exact ⟨h.1, fun j hj => by cases hj; exact hi⟩

namespace BufferDispatcher

variable {s s' r : BufferDispatcher} {m : MediaData} {mixed : Nat → Bool}

/-- A read of audio or of video hands over a frame of that type, if its receiver is none
of those that read audio and video together. -/
def DeliversByType (mixed : Nat → Bool) (s : BufferDispatcher) : Prop :=
  ∀ receiverId type data, mixed receiverId = false → type ≠ .av →
    (s.readBufferData receiverId type).1 = some data → data.mediaData.mediaType = type

structure Typed (mixed : Nat → Bool) (s : BufferDispatcher) : Prop where
  keys : s.KeysListed
  typed : ∀ n ∈ s.notifiers, mixed n.receiverId = false → n.Typed s.frames

theorem typeAt_frames {i : Nat} {d : DataSpec} (h : s.circularBuffer.items[i]? = some d) :
    typeAt s.frames i = some d.mediaData.mediaType := by
  simp [typeAt, frames, h]

theorem Typed.readsAt {receiverId : Nat} {type : MediaType} {n : DataNotifier} {i : Nat}
    {d : DataSpec} (h : Typed mixed s) (hmixed : mixed receiverId = false) (hav : type ≠ .av)
    (hat : s.ReadsAt receiverId type n i d) : typeAt s.frames i = some type := by
  obtain ⟨hn, hid⟩ := mem_of_find hat.found
  have htyped := h.typed n hn (hid ▸ hmixed)
  have hi := hat.index
  cases type with
  | av => exact absurd rfl hav
  | audio => exact htyped.1 i hi
  | video => exact htyped.2 i hi

theorem Typed.delivers (h : Typed mixed s) : s.DeliversByType mixed := by
  intro receiverId type data hmixed hav hdata
  rcases readBufferData_spec s receiverId type with heq | ⟨n, i, d, hreads⟩
  · rw [heq] at hdata
    cases hdata
  · have htype := h.readsAt hmixed hav hreads.toReadsAt
    rw [typeAt_frames hreads.data] at htype
    rw [hreads.out_eq hdata]
    exact Option.some_inj.mp htype

theorem typeAt_findNextIndex {type : MediaType} {i : Nat} (hav : type ≠ .av)
    (hi : typeAt s.frames i = some type) (keyMode : Bool) :
    typeAt s.frames (s.findNextIndex i type keyMode) = some type := by
  rcases findNextIndex_cases s i type keyMode with ⟨heq, -⟩ | ⟨-, -, d, hd, hwanted⟩
  · rw [heq]
    exact hi
  · have hw := (hwanted hav).1
    have htype : d.mediaData.mediaType = type := by
      simp only [wanted, Bool.and_eq_true, decide_eq_true_eq] at hw
      exact hw.1
    rw [typeAt_frames hd, htype]

theorem Typed.read (h : Typed mixed s) {receiverId : Nat} {type : MediaType}
    (hok : type = .av → mixed receiverId) : Typed mixed (s.readBufferData receiverId type).2 := by
  rcases readBufferData_spec s receiverId type with heq | ⟨n, i, d, hreads⟩
  · rw [heq]
    exact h
  refine ⟨h.keys.of_still hreads.still, ?_⟩
  rw [hreads.notifiers, hreads.still.frames]
  intro n' hn' hmixed
  obtain ⟨n₀, hn₀, rfl⟩ := List.mem_map.mp hn'
  by_cases hid : n₀.receiverId = receiverId
  · simp only [hid, if_true] at hmixed ⊢
    have hmixed₀ : mixed receiverId = false := by cases type <;> exact hid ▸ hmixed
    have hav : type ≠ .av := by
      intro hav
      rw [hok hav] at hmixed₀
      cases hmixed₀
    exact (h.typed n₀ hn₀ (hid ▸ hmixed₀)).setReadIndexes hav
      (typeAt_findNextIndex hav (h.readsAt hmixed₀ hav hreads.toReadsAt) _)
  · rw [if_neg hid] at hmixed ⊢
    exact h.typed n₀ hn₀ hmixed

/-- Where a new receiver would get an audio index without looking for an audio frame, an
audio frame is there: at the last position in audio mode, and at the last audio index if
no key is listed. -/
def StartsAtAudio (s : BufferDispatcher) : Prop :=
  s.circularBuffer.items ≠ [] →
    if s.dataMode = .audioOnly then typeAt s.frames (s.circularBuffer.size - 1) = some .audio
    else s.keyIndexList = [] → ∀ i ∈ s.lastAudioIndex, typeAt s.frames i = some .audio

theorem Typed.attach (h : Typed mixed s) {receiver : BufferReceiver}
    (hok : s.Attaches receiver → mixed receiver.receiverId = false → s.StartsAtAudio) :
    Typed mixed (s.attachReceiver receiver) := by
  rcases attachReceiver_eq s receiver with ⟨-, heq⟩ | ⟨ha, heq⟩
  · rw [heq]
    exact h
  rw [heq]
  refine ⟨h.keys, ?_⟩
  intro n hn hmixed
  rcases List.mem_append.mp hn with hn | hn
  · exact h.typed n hn hmixed
  rw [List.mem_singleton.mp hn] at hmixed ⊢
  have hstarts := hok ha hmixed
  change (∀ i ∈ s.attachIndexes.1, typeAt s.frames i = some .audio) ∧
    ∀ i ∈ s.attachIndexes.2, typeAt s.frames i = some .video
  rw [attachIndexes]
  by_cases hempty : s.circularBuffer.items = []
  · simp [hempty]
  have hstarts := hstarts hempty
  rw [if_neg hempty]
  by_cases hmode : s.dataMode = .audioOnly
  · rw [if_pos hmode] at hstarts
    simpa [hmode] using hstarts
  rw [if_neg hmode] at hstarts
  rw [if_neg hmode]
  cases hkey : s.keyIndexList.getLast? with
  | none => exact ⟨hstarts (List.getLast?_eq_none_iff.mp hkey), by simp⟩
  | some key =>
    obtain ⟨hlt, hkeyFrame⟩ := lt_of_suffix h.keys (List.mem_of_getLast? hkey)
    have hitem := List.getElem?_eq_getElem hlt
    constructor
    · intro i hi
      simp only at hi
      rcases findNextIndex_cases s key .audio s.keyOnly with ⟨hsame, -⟩ | ⟨hnext, -, d, hd, hwanted⟩
      · rw [if_pos hsame] at hi
        cases hi
      · rw [if_neg (Nat.ne_of_gt hnext)] at hi
        cases hi
        have hw := (hwanted (by decide)).1
        simp only [wanted, Bool.and_eq_true, decide_eq_true_eq] at hw
        rw [typeAt_frames hd, hw.1]
    · rintro i ⟨⟩
      simp only [DataSpec.isKeyVideoFrame, DataSpec.isVideoData, Bool.and_eq_true,
        decide_eq_true_eq] at hkeyFrame
      rw [typeAt_frames hitem, hkeyFrame.1]

theorem Typed.detach (h : Typed mixed s) (receiverId : Nat) :
    Typed mixed (s.detachReceiver receiverId) := by
  rw [detachReceiver]
  split
  · exact h
  · rename_i n _
    obtain ⟨recvBitRef, heq⟩ := detachNotifier_cases s n
    rw [heq]
    exact ⟨h.keys, fun n hn => h.typed n (List.mem_filter.mp hn).1⟩

theorem Typed.release (h : Typed mixed s) : Typed mixed s.releaseAllReceiver := by
  obtain ⟨recvBitRef, heq⟩ := releaseAllReceiver_eq s
  rw [heq]
  exact ⟨h.keys, by simp⟩

theorem Typed.quiet (h : Typed mixed s) (hq : Quiet s s') : Typed mixed s' := by
  refine ⟨h.keys.of_still hq.toStill, ?_⟩
  rw [hq.frames]
  exact hq.forall_notifiers (P := fun n => mixed n.receiverId = false → n.Typed s.frames)
    (fun _ => Iff.rfl) h.typed

/-- The frames with the new one behind them. -/
def withFrame (s : BufferDispatcher) (m : MediaData) : List (MediaData × Nat) :=
  s.frames ++ [(m, s.specCount)]

/-- The `n` heads that leave for a frame take no typed receiver's index to a frame of
another type. -/
def Reaims (mixed : Nat → Bool) (s : BufferDispatcher) (m : MediaData) (n : Nat) : Prop :=
  ∀ n' ∈ s.notifiers, mixed n'.receiverId = false →
    (∀ i ∈ n'.audioIndex, i < n → typeAt (s.withFrame m) n = some .audio) ∧
      ∀ i ∈ n'.videoIndex, i < n → typeAt (s.withFrame m) n = some .video

/-- An index that moved with the dropped heads is at the same frame, or at the first that is left. -/
theorem typeAt_shifted {frames : List (MediaData × Nat)} {n i : Nat} {type : MediaType}
    (hi : typeAt frames i = some type) (hn : i < n → typeAt frames n = some type) :
    typeAt (frames.drop n) (i - n) = some type := by
  by_cases hlt : i < n
  · rw [typeAt, List.getElem?_drop, Nat.sub_eq_zero_of_le (Nat.le_of_lt hlt), Nat.add_zero]
    exact hn hlt
  · rw [typeAt, List.getElem?_drop, Nat.add_sub_cancel' (Nat.not_lt.mp hlt)]
    exact hi

theorem Typed.drops {n : Nat} (h : Typed mixed s) (hd : Drops s.counted n r) (hreaims : s.Reaims mixed m n) :
    ∀ n' ∈ r.notifiers, mixed n'.receiverId = false → n'.Typed (r.frames ++ [(m, s.specCount)]) := by
  have hframes : r.frames ++ [(m, s.specCount)] = (s.withFrame m).drop n := by
    rw [hd.frames, withFrame, List.drop_append_of_le_length]
    · rfl
    · rw [length_frames]
      exact hd.le
  rw [hd.notifiers, hframes]
  intro n' hn' hmixed
  obtain ⟨n₀, hn₀, rfl⟩ := List.mem_map.mp hn'
  obtain ⟨haudio, hvideo⟩ := h.typed n₀ hn₀ hmixed
  obtain ⟨hreaudio, hrevideo⟩ := hreaims n₀ hn₀ hmixed
  constructor
  · intro i hi
    obtain ⟨j, hj, rfl⟩ := Option.map_eq_some_iff.mp hi
    exact typeAt_shifted (typeAt_append (haudio j hj) _) (hreaudio j hj)
  · intro i hi
    obtain ⟨j, hj, rfl⟩ := Option.map_eq_some_iff.mp hi
    exact typeAt_shifted (typeAt_append (hvideo j hj) _) (hrevideo j hj)

theorem Typed.append {data : DataSpec} (hkeys : r.KeysListed)
    (hroom : r.circularBuffer.size < r.circularBuffer.capacity)
    (htyped : ∀ n ∈ r.notifiers, mixed n.receiverId = false →
      n.Typed (r.frames ++ [(data.mediaData, data.seq)])) : Typed mixed (r.appendData data) := by
  refine ⟨hkeys.append hroom data, ?_⟩
  have hlast := typeAt_last r.frames (data.mediaData, data.seq)
  rw [length_frames, ← lastPosition_eq hroom] at hlast
  rw [frames_appendData_of_lt hroom]
  intro n' hn' hmixed
  obtain ⟨n, hn, rfl⟩ := mem_notifiers_appendData hn'
  have hid : (r.appended data n).receiverId = n.receiverId :=
    congrArg (·.1) (slot_appended r data n)
  rw [hid] at hmixed
  obtain ⟨haudio, hvideo⟩ := htyped n hn hmixed
  constructor
  · intro i hi
    rw [audioIndex_appended] at hi
    split at hi
    · rename_i hnew
      cases hi
      have htype : data.mediaData.mediaType = .audio := by
        simpa [DataSpec.isAudioData] using (Bool.and_eq_true_iff.mp hnew.1).2
      rw [hlast, htype]
    · exact haudio i hi
  · intro i hi
    rcases videoIndex_appended_or r data n with hsame | ⟨hkey, hnew⟩
    · rw [hsame] at hi
      exact hvideo i hi
    · rw [hnew] at hi
      cases hi
      have htype : data.mediaData.mediaType = .video := by
        simp only [DataSpec.isKeyVideoFrame, DataSpec.isVideoData, Bool.and_eq_true,
          decide_eq_true_eq] at hkey
        exact hkey.1
      rw [hlast, htype]

theorem Typed.of_flushes (h : Flushes s r) : Typed mixed r := by
  obtain ⟨t, ht, rfl⟩ := h
  refine ⟨?_, ?_⟩
  · rw [KeysListed, tuned, ht]
    exact List.nil_suffix
  · intro n hn _
    obtain ⟨n₀, -, rfl⟩ := List.mem_map.mp hn
    simp [DataNotifier.Typed, DataNotifier.reset]

/-- The condition on a call: `push_back` drops nothing by itself and the heads that leave
for a frame take no index to a frame of another type, a new receiver starts at an audio
frame, and only receivers in `mixed` read audio and video together. -/
def KeepsTypes (mixed : Nat → Bool) (s : BufferDispatcher) : Call → Prop
  | .inputData (some m) => s.accepts m → ∀ r ∈ (s.roomFor m).toOption,
      r.circularBuffer.size < r.circularBuffer.capacity ∧
        (s.flushesFor m ∨ s.Reaims mixed m (s.circularBuffer.size - r.circularBuffer.size))
  | .attachReceiver receiver =>
    s.Attaches receiver → mixed receiver.receiverId = false → s.StartsAtAudio
  | .readBufferData receiverId type => type = .av → mixed receiverId
  | _ => True

theorem Typed.input {mediaData : Option MediaData} (h : Typed mixed s)
    (hok : s.KeepsTypes mixed (.inputData mediaData)) (hs' : s.inputData mediaData = .ok s') :
    Typed mixed s' := by
  rcases inputData_cases hs' with ⟨rfl, -⟩ | ⟨m, -, -, rfl⟩ | ⟨m, r, rfl, ha, hr, rfl⟩
  · exact h
  · exact ⟨h.keys, h.typed⟩
  obtain ⟨hroom, hreaims⟩ := hok ha r (by simp [hr, Except.toOption])
  by_cases hf : s.flushesFor m
  · have hflushed : Typed mixed _ := Typed.of_flushes (roomFor_flushes hf hr)
    exact Typed.append hflushed.keys hroom fun n hn hmixed => (hflushed.typed n hn hmixed).append _
  · obtain ⟨n, hn⟩ := roomFor_drops ha hf hr
    have hreaims := hreaims.resolve_left hf
    rw [show s.circularBuffer.size = s.counted.circularBuffer.size from rfl, hn.size_sub] at hreaims
    exact Typed.append (hn.keys h.keys) hroom (h.drops hn hreaims)

theorem Typed.exec {call : Call} (h : Typed mixed s) (hok : s.KeepsTypes mixed call)
    (hs' : s.exec call = .ok s') : Typed mixed s' := by
  cases call
  case inputData => exact h.input hok hs'
  case flushBuffer =>
    cases hs'
    exact Typed.of_flushes (flushBuffer_flushes s)
  case cancelReserve =>
    cases hs'
    have hstill := cancelReserve_still s
    refine ⟨h.keys.of_still hstill, ?_⟩
    rw [hstill.frames]
    exact h.typed
  case attachReceiver receiver =>
    cases hs'
    exact h.attach hok
  case detachReceiver receiverId =>
    cases hs'
    exact h.detach receiverId
  case releaseAllReceiver =>
    cases hs'
    exact h.release
  case readBufferData receiverId type =>
    cases hs'
    exact h.read hok
  all_goals exact h.quiet (exec_quiet (by trivial) hs')

section Decidable

instance (frames : List (MediaData × Nat)) (n : DataNotifier) : Decidable (n.Typed frames) :=
  inferInstanceAs (Decidable ((∀ i ∈ n.audioIndex, _) ∧ ∀ i ∈ n.videoIndex, _))

instance (s : BufferDispatcher) (m : MediaData) (n : Nat) : Decidable (s.Reaims mixed m n) :=
  inferInstanceAs (Decidable (∀ n' ∈ s.notifiers, _ → (∀ i ∈ n'.audioIndex, _ → _) ∧
    ∀ i ∈ n'.videoIndex, _ → _))

instance (s : BufferDispatcher) : Decidable s.StartsAtAudio :=
  inferInstanceAs (Decidable (_ → ite _ _ (_ → ∀ i ∈ s.lastAudioIndex, _)))

instance (s : BufferDispatcher) (call : Call) : Decidable (s.KeepsTypes mixed call) :=
  match call with
  | .inputData (some m) =>
    inferInstanceAs (Decidable (s.accepts m → ∀ r ∈ (s.roomFor m).toOption, _ ∧ (_ ∨ _)))
  | .attachReceiver _ => inferInstanceAs (Decidable (_ → _ → s.StartsAtAudio))
  | .readBufferData _ _ => inferInstanceAs (Decidable (_ → _))
  | .inputData none | .flushBuffer | .setBufferCapacity _ | .enableKeyMode _ | .enableRapidMode _
  | .enableKeyRedirect _ | .cancelReserve | .detachReceiver _
  | .releaseAllReceiver | .requestRead _ _ | .awaitData _ _ | .clearDataBit _ _ | .clearReadBit _ _
  | .notifyReadReady _ _ | .notifyReadStart _ | .notifyReadStop _
  | .enableReceiverKeyMode _ _ | .enableReceiverKeyRedirect _ _ | .expire _
  | .notifyThreadWorker => isTrue trivial

end Decidable

end BufferDispatcher

/-- In every run whose calls meet the condition, reads deliver by type after every call. -/
theorem History.run_deliversByType {mixed : Nat → Bool} {maxCapacity capacityIncrement : Nat}
    {dataMode : MediaDispacherMode} {calls : List Call} {h : History}
    (run : History.Run (fun h call => h.dispatcher.KeepsTypes mixed call) maxCapacity
      capacityIncrement dataMode calls h) : h.dispatcher.DeliversByType mixed := by
  have htyped : h.dispatcher.Typed mixed := by
    apply GuardedRun.invariant (I := fun h => h.dispatcher.Typed mixed) _ _ run
    · exact ⟨List.nil_suffix, by simp [BufferDispatcher.create]⟩
    · exact fun _ _ _ hi hok hstep => hi.exec hok (History.step_ok hstep).1
  exact htyped.delivers

/-- The audio frame that the audio index was at is erased, and the index stays 0, where a
key frame is. -/
theorem History.eraseAudio_hands_video :
    ¬ ∀ maxCapacity capacityIncrement dataMode calls h,
      History.Run (fun _ _ => True) maxCapacity capacityIncrement dataMode calls h →
        h.dispatcher.DeliversByType fun _ => false := by
  intro hall
  obtain ⟨h, hrun⟩ := Option.isSome_iff_exists.mp
    (show (History.runOf (fun _ _ => True) eraseAudioCalls).isSome by decide +kernel)
  have hvideo : (History.runOf (fun _ _ => True) eraseAudioCalls).all fun h =>
      (h.dispatcher.readBufferData 1 .audio).1.any (·.isVideoData) := by
    decide +kernel
  rw [hrun] at hvideo
  obtain ⟨d, hd, htype⟩ := (Option.any_eq_true _ _).mp hvideo
  have hright := hall _ _ _ _ h (GuardedRun.of_check hrun) 1 .audio d rfl (by decide) hd
  simp [DataSpec.isVideoData, hright] at htype

/-- With another audio frame behind the second key frame, that one is handed over. -/
theorem History.run_keepAudio_deliversByType :
    ∃ h d, History.Run (fun h call => h.dispatcher.KeepsTypes (fun _ => false) call)
        MAX_BUFFER_CAPACITY BUFFER_CAPACITY_INCREMENT .videoAudioMixed
        [.attachReceiver { receiverId := 1 }, .key, .audio, .key, .audio, .readBufferData 1 .video,
          .readBufferData 1 .audio, .key] h ∧
      (h.dispatcher.readBufferData 1 .audio).1 = some d ∧ d.mediaData.mediaType = .audio := by
  obtain ⟨h, hrun⟩ := Option.isSome_iff_exists.mp
    (show (History.runOf (fun h call => h.dispatcher.KeepsTypes (fun _ => false) call)
      [.attachReceiver { receiverId := 1 }, .key, .audio, .key, .audio, .readBufferData 1 .video,
        .readBufferData 1 .audio, .key]).isSome by decide +kernel)
  have hhanded : (History.runOf (fun h call => h.dispatcher.KeepsTypes (fun _ => false) call)
      [.attachReceiver { receiverId := 1 }, .key, .audio, .key, .audio, .readBufferData 1 .video,
        .readBufferData 1 .audio, .key]).all fun h =>
        (h.dispatcher.readBufferData 1 .audio).1.isSome := by
    decide +kernel
  rw [hrun] at hhanded
  obtain ⟨d, hd⟩ := Option.isSome_iff_exists.mp hhanded
  exact ⟨h, d, GuardedRun.of_check hrun, hd,
    History.run_deliversByType (GuardedRun.of_check hrun) 1 .audio d rfl (by decide) hd⟩

end WifiDisplay
