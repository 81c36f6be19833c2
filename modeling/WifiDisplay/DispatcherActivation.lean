import WifiDisplay.BufferDispatcherSlots

/-! Activation: while a receiver has no index, the flag is up that makes the next frame give it one. -/

namespace WifiDisplay

namespace BufferDispatcher

variable {s s' r : BufferDispatcher} {m : MediaData}

/-- The activation flags are up while a receiver waits for an index. -/
structure Armed (s : BufferDispatcher) : Prop where
  audio : ∀ n ∈ s.notifiers, n.audioIndex = none → s.audioNeedActivate = true
  video : s.dataMode ≠ .audioOnly → ∀ n ∈ s.notifiers, n.videoIndex = none →
    s.videoNeedActivate = true

/-- Activation is not lost: the flags are up, and the next audio frame and the next key
frame give every receiver an index. -/
structure ActivationKept (s : BufferDispatcher) : Prop extends Armed s where
  nextAudio : ∀ m s', m.buff ≠ none → m.mediaType = .audio → s.inputData (some m) = .ok s' →
    ∀ n ∈ s'.notifiers, n.audioIndex ≠ none
  nextKey : s.dataMode ≠ .audioOnly → ∀ m s', m.buff ≠ none → m.mediaType = .video → m.keyFrame →
    s.inputData (some m) = .ok s' → ∀ n ∈ s'.notifiers, n.videoIndex ≠ none

theorem Armed.of_still (h : Armed s) (hs : Still s s')
    (hnotifiers : ∀ n' ∈ s'.notifiers, ∃ n ∈ s.notifiers,
      (n'.audioIndex = none → n.audioIndex = none) ∧ (n'.videoIndex = none → n.videoIndex = none)) :
    Armed s' := by
  constructor
  · intro n' hn' hnone
    obtain ⟨n, hn, haudio, -⟩ := hnotifiers n' hn'
    rw [hs.audioNeedActivate]
    exact h.audio n hn (haudio hnone)
  · intro hmode n' hn' hnone
    obtain ⟨n, hn, -, hvideo⟩ := hnotifiers n' hn'
    rw [hs.videoNeedActivate]
    exact h.video (hs.dataMode ▸ hmode) n hn (hvideo hnone)

theorem Armed.quiet (h : Armed s) (hq : Quiet s s') : Armed s' := by
  apply h.of_still hq.toStill
  intro n' hn'
  obtain ⟨n, hn, hbare⟩ := hq.mem hn'
  have haudio : n'.audioIndex = n.audioIndex := congrArg (·.audioIndex) hbare
  have hvideo : n'.videoIndex = n.videoIndex := congrArg (·.videoIndex) hbare
  exact ⟨n, hn, fun hnone => haudio ▸ hnone, fun hnone => hvideo ▸ hnone⟩

/-- A read takes no index away. -/
theorem Armed.read (h : Armed s) (receiverId : Nat) (type : MediaType) :
    Armed (s.readBufferData receiverId type).2 := by
  rcases readBufferData_spec s receiverId type with heq | ⟨n, i, d, hreads⟩
  · rw [heq]
    exact h
  apply h.of_still hreads.still
  rw [hreads.notifiers]
  intro n' hn'
  obtain ⟨n₀, hn₀, rfl⟩ := List.mem_map.mp hn'
  refine ⟨n₀, hn₀, ?_⟩
  by_cases hid : n₀.receiverId = receiverId
  · rw [if_pos hid]
    cases type <;> simp [DataNotifier.setReadIndexes]
  · rw [if_neg hid]
    exact ⟨id, id⟩

/-- Without a key in the list the video flag is up; with one, the audio flag is up or will
be put up, or an audio frame follows the last key. -/
def ArmsReceiver (s : BufferDispatcher) : Prop :=
  s.circularBuffer.items ≠ [] → s.dataMode ≠ .audioOnly →
    (s.keyIndexList = [] → s.videoNeedActivate) ∧
      ∀ key ∈ s.keyIndexList.getLast?, s.audioNeedActivate ∨ s.lastAudioIndex = none ∨
        ∃ f ∈ s.frames.drop (key + 1), f.1.mediaType = .audio

theorem Armed.attach (h : Armed s) {receiver : BufferReceiver}
    (hok : s.Attaches receiver → s.ArmsReceiver) : Armed (s.attachReceiver receiver) := by
  rcases attachReceiver_eq s receiver with ⟨-, heq⟩ | ⟨ha, heq⟩
  · rw [heq]
    exact h
  rw [heq]
  have harms := hok ha
  constructor
  · intro n hn hnone
    rcases List.mem_append.mp hn with hn | hn
    · simp [h.audio n hn hnone]
    rw [List.mem_singleton.mp hn] at hnone
    replace hnone : s.attachIndexes.1 = none := hnone
    by_cases hempty : s.circularBuffer.items = []
    · simp [hempty]
    by_cases hmode : s.dataMode = .audioOnly
    · simp [attachIndexes, hempty, hmode] at hnone
    have harms := harms hempty hmode
    rw [attachIndexes, if_neg hempty, if_neg hmode] at hnone
    cases hkey : s.keyIndexList.getLast? with
    | none =>
      rw [hkey] at hnone
      simp [hmode, show s.lastAudioIndex = none from hnone]
    | some key =>
      rw [hkey] at hnone
      rcases harms.2 key hkey with hneed | hlast | ⟨f, hf, htype⟩
      · simp [hneed]
      · simp [hmode, hlast]
      · exfalso
        obtain ⟨i, hi⟩ := List.mem_iff_getElem?.mp hf
        rw [List.getElem?_drop, frames, List.getElem?_map] at hi
        obtain ⟨d, hd, rfl⟩ := Option.map_eq_some_iff.mp hi
        have hwanted : wanted s.keyOnly .audio d = true := by
          have htype : d.mediaData.mediaType = .audio := htype
          simp [wanted, htype]
        rcases findNextIndex_cases s key .audio s.keyOnly with ⟨-, hno, -⟩ | ⟨hnext, -⟩
        · rw [hno (by decide) _ d (by omega) hd] at hwanted
          cases hwanted
        · simp [Nat.ne_of_gt hnext] at hnone
  · intro hmode n hn hnone
    rcases List.mem_append.mp hn with hn | hn
    · simp [h.video hmode n hn hnone]
    rw [List.mem_singleton.mp hn] at hnone
    replace hnone : s.attachIndexes.2 = none := hnone
    by_cases hempty : s.circularBuffer.items = []
    · simp [hempty]
    have harms := harms hempty hmode
    rw [attachIndexes, if_neg hempty, if_neg hmode] at hnone
    cases hkey : s.keyIndexList.getLast? with
    | none => simp [harms.1 (List.getLast?_eq_none_iff.mp hkey)]
    | some key =>
      rw [hkey] at hnone
      cases hnone

theorem Armed.detach (h : Armed s) (receiverId : Nat) : Armed (s.detachReceiver receiverId) := by
  rw [detachReceiver]
  split
  · exact h
  · rename_i n _
    obtain ⟨recvBitRef, heq⟩ := detachNotifier_cases s n
    rw [heq]
    exact ⟨fun n hn => h.audio n (List.mem_filter.mp hn).1,
      fun hmode n hn => h.video hmode n (List.mem_filter.mp hn).1⟩

theorem Armed.release (s : BufferDispatcher) : Armed s.releaseAllReceiver := by
  obtain ⟨recvBitRef, heq⟩ := releaseAllReceiver_eq s
  rw [heq]
  exact ⟨by simp, by simp⟩

theorem Armed.of_flushes (h : Flushes s s') : Armed s' := by
  obtain ⟨t, -, rfl⟩ := h
  exact ⟨fun _ _ _ => rfl, fun _ _ _ _ => rfl⟩

theorem Armed.drops {n : Nat} (h : Armed s) (hd : Drops s n s') : Armed s' := by
  obtain ⟨t, rfl⟩ := hd.eq
  constructor
  · intro n' hn' hnone
    obtain ⟨n₀, hn₀, rfl⟩ := List.mem_map.mp hn'
    exact h.audio n₀ hn₀ (by simpa using hnone)
  · intro hmode n' hn' hnone
    obtain ⟨n₀, hn₀, rfl⟩ := List.mem_map.mp hn'
    exact h.video hmode n₀ hn₀ (by simpa using hnone)

theorem Armed.room (h : Armed s) (ha : s.accepts m) (hr : s.roomFor m = .ok r) : Armed r := by
  by_cases hf : s.flushesFor m
  · exact Armed.of_flushes (roomFor_flushes hf hr)
  · obtain ⟨n, hn⟩ := roomFor_drops ha hf hr
    exact Armed.drops (s := s.counted) ⟨h.audio, h.video⟩ hn

section Append

variable (r : BufferDispatcher) (data : DataSpec)

theorem audioNeedActivate_appendData : (r.appendData data).audioNeedActivate =
    (r.audioNeedActivate && !(data.isAudioData && r.notifiers.any (·.audioIndex = none))) := by
  obtain ⟨items, keyRedirect, heq, -⟩ := appendData_eq r data
  rw [heq, listed_eq]

theorem videoNeedActivate_appendData : (r.appendData data).videoNeedActivate =
    (r.videoNeedActivate && !(data.isKeyVideoFrame && (r.notifiers.map
      (·.keyJump (r.jumps data) (r.lastPosition data))).any (·.videoIndex = none))) := by
  obtain ⟨items, keyRedirect, heq, -⟩ := appendData_eq r data
  rw [heq, listed_eq]

theorem dataMode_appendData : (r.appendData data).dataMode = r.dataMode := by
  obtain ⟨items, keyRedirect, heq, -⟩ := appendData_eq r data
  rw [heq, listed_eq]

end Append

/-- A receiver that still has no audio index after a frame had none before, and the frame
did not activate it. -/
theorem audioIndex_still_none {data : DataSpec} {n' : DataNotifier}
    (hn' : n' ∈ (r.appendData data).notifiers) (hnone : n'.audioIndex = none) :
    ∃ n ∈ r.notifiers, n.audioIndex = none ∧ (r.audioNeedActivate && data.isAudioData) = false := by
  obtain ⟨n, hn, rfl⟩ := mem_notifiers_appendData hn'
  rw [audioIndex_appended] at hnone
  by_cases hactive : (r.audioNeedActivate && data.isAudioData) ∧ n.audioIndex = none
  · rw [if_pos hactive] at hnone
    cases hnone
  · rw [if_neg hactive] at hnone
    refine ⟨n, hn, hnone, ?_⟩
    by_contra hneed
    exact hactive ⟨by simpa using hneed, hnone⟩

theorem videoIndex_still_none {data : DataSpec} {n' : DataNotifier}
    (hn' : n' ∈ (r.appendData data).notifiers) (hnone : n'.videoIndex = none) :
    ∃ n ∈ r.notifiers, n.videoIndex = none ∧ (r.videoNeedActivate && data.isKeyVideoFrame) = false := by
  obtain ⟨n, hn, rfl⟩ := mem_notifiers_appendData hn'
  rw [videoIndex_appended] at hnone
  split at hnone
  · cases hnone
  rw [videoIndex_activated] at hnone
  split at hnone
  · cases hnone
  · rename_i hactive
    refine ⟨n, hn, hnone, ?_⟩
    by_contra hneed
    exact hactive (Or.inr ⟨by simpa [and_comm] using hneed, hnone⟩)

theorem Armed.append (h : Armed r) (data : DataSpec) : Armed (r.appendData data) := by
  constructor
  · intro n' hn' hnone
    obtain ⟨n, hn, hindex, hneed⟩ := audioIndex_still_none hn' hnone
    rw [h.audio n hn hindex, Bool.true_and] at hneed
    rw [audioNeedActivate_appendData, h.audio n hn hindex, hneed]
    rfl
  · intro hmode n' hn' hnone
    rw [dataMode_appendData] at hmode
    obtain ⟨n, hn, hindex, hneed⟩ := videoIndex_still_none hn' hnone
    rw [h.video hmode n hn hindex, Bool.true_and] at hneed
    rw [videoNeedActivate_appendData, h.video hmode n hn hindex, hneed]
    rfl

theorem dataMode_room (ha : s.accepts m) (hr : s.roomFor m = .ok r) : r.dataMode = s.dataMode := by
  by_cases hf : s.flushesFor m
  · obtain ⟨t, -, rfl⟩ := roomFor_flushes hf hr
    rfl
  · obtain ⟨n, hn⟩ := roomFor_drops ha hf hr
    exact hn.dataMode

theorem Armed.kept (h : Armed s) : ActivationKept s := by
  refine { h with nextAudio := ?_, nextKey := ?_ }
  · intro m s' hbuff htype hs' n' hn' hnone
    have haudio : (s.newData m).isAudioData = true := by simp [newData, DataSpec.isAudioData, htype]
    have ha : s.accepts m := ⟨hbuff, fun _ _ => Or.inl haudio⟩
    obtain ⟨r, hr, rfl⟩ := inputData_accepted ha hs'
    obtain ⟨n, hn, hindex, hneed⟩ := audioIndex_still_none hn' hnone
    rw [(h.room ha hr).audio n hn hindex, haudio] at hneed
    cases hneed
  · intro hmode m s' hbuff htype hkeyFrame hs' n' hn' hnone
    have hkey : (s.newData m).isKeyVideoFrame = true := by
      simp [newData, DataSpec.isKeyVideoFrame, DataSpec.isVideoData, htype, hkeyFrame]
    have ha : s.accepts m := ⟨hbuff, fun _ _ => Or.inr hkey⟩
    obtain ⟨r, hr, rfl⟩ := inputData_accepted ha hs'
    obtain ⟨n, hn, hindex, hneed⟩ := videoIndex_still_none hn' hnone
    rw [(h.room ha hr).video (dataMode_room ha hr ▸ hmode) n hn hindex, hkey] at hneed
    cases hneed

/-- The condition on a call: a receiver that is attached without an index finds the flag up. -/
def KeepsActivation (s : BufferDispatcher) : Call → Prop
  | .attachReceiver receiver => s.Attaches receiver → s.ArmsReceiver
  | _ => True

theorem Armed.exec {call : Call} (h : Armed s) (hok : s.KeepsActivation call)
    (hs' : s.exec call = .ok s') : Armed s' := by
  cases call
  case inputData mediaData =>
    rcases inputData_cases hs' with ⟨rfl, -⟩ | ⟨m, -, -, rfl⟩ | ⟨m, r, rfl, ha, hr, rfl⟩
    · exact h
    · exact ⟨h.audio, h.video⟩
    · exact (h.room ha hr).append _
  case flushBuffer =>
    cases hs'
    exact Armed.of_flushes (flushBuffer_flushes s)
  case cancelReserve =>
    cases hs'
    exact h.of_still (cancelReserve_still s) fun n hn => ⟨n, hn, id, id⟩
  case attachReceiver receiver =>
    cases hs'
    exact h.attach hok
  case detachReceiver receiverId =>
    cases hs'
    exact h.detach receiverId
  case releaseAllReceiver =>
    cases hs'
    exact Armed.release s
  case readBufferData receiverId type =>
    cases hs'
    exact h.read receiverId type
  all_goals exact h.quiet (exec_quiet (by trivial) hs')

instance (s : BufferDispatcher) : Decidable s.ArmsReceiver :=
  inferInstanceAs (Decidable (_ → _ → (_ → _) ∧ ∀ key ∈ s.keyIndexList.getLast?,
    _ ∨ _ ∨ ∃ f ∈ s.frames.drop (key + 1), _))

instance (s : BufferDispatcher) (call : Call) : Decidable (s.KeepsActivation call) :=
  match call with
  | .attachReceiver receiver => inferInstanceAs (Decidable (s.Attaches receiver → s.ArmsReceiver))
  | .inputData _ | .flushBuffer | .setBufferCapacity _ | .enableKeyMode _ | .enableRapidMode _
  | .enableKeyRedirect _ | .cancelReserve | .detachReceiver _ | .releaseAllReceiver
  | .requestRead _ _ | .awaitData _ _ | .clearDataBit _ _ | .clearReadBit _ _
  | .readBufferData _ _ | .notifyReadReady _ _ | .notifyReadStart _ | .notifyReadStop _
  | .enableReceiverKeyMode _ _ | .enableReceiverKeyRedirect _ _ | .expire _
  | .notifyThreadWorker => isTrue trivial

end BufferDispatcher

/-- In every run whose attachments meet the condition, activation is not lost after every call. -/
theorem History.run_activationKept {maxCapacity capacityIncrement : Nat}
    {dataMode : MediaDispacherMode} {calls : List Call} {h : History}
    (run : History.Run (fun h call => h.dispatcher.KeepsActivation call) maxCapacity
      capacityIncrement dataMode calls h) : h.dispatcher.ActivationKept := by
  have harmed : h.dispatcher.Armed := by
    apply GuardedRun.invariant (I := fun h => h.dispatcher.Armed) _ _ run
    · exact ⟨by simp [BufferDispatcher.create], by simp [BufferDispatcher.create]⟩
    · exact fun _ _ _ hi hok hstep => hi.exec hok (History.step_ok hstep).1
  exact harmed.kept

/-- A receiver that comes after the last audio frame, which a key frame follows. -/
def attachLateCalls : List Call :=
  [.attachReceiver { receiverId := 1 }, .key, .audio, .key, .detachReceiver 1,
    .attachReceiver { receiverId := 1 }]

/-- It gets no audio index, and the next audio frame will not give it one. -/
theorem History.attachLate_not_activationKept :
    ¬ ∀ maxCapacity capacityIncrement dataMode calls h,
      History.Run (fun _ _ => True) maxCapacity capacityIncrement dataMode calls h →
        h.dispatcher.ActivationKept := by
  intro hall
  obtain ⟨h, hrun⟩ := Option.isSome_iff_exists.mp
    (show (History.runOf (fun _ _ => True) attachLateCalls).isSome by decide +kernel)
  have hlost : (History.runOf (fun _ _ => True) attachLateCalls).all fun h =>
      h.dispatcher.audioNeedActivate = false ∧ h.dispatcher.notifiers.any (·.audioIndex = none) := by
    decide +kernel
  rw [hrun] at hlost
  obtain ⟨hdown, hany⟩ : h.dispatcher.audioNeedActivate = false ∧
      h.dispatcher.notifiers.any (·.audioIndex = none) = true := by simpa using hlost
  obtain ⟨n, hn, hnone⟩ := List.any_eq_true.mp hany
  have hkept := hall _ _ _ _ h (GuardedRun.of_check hrun)
  rw [hkept.audio n hn (by simpa using hnone)] at hdown
  cases hdown

/-- A receiver that comes before the first audio frame has no audio index, and gets one. -/
theorem History.run_attachEarly_activationKept :
    ∃ h n, History.Run (fun h call => h.dispatcher.KeepsActivation call) MAX_BUFFER_CAPACITY
        BUFFER_CAPACITY_INCREMENT .videoAudioMixed
        [.attachReceiver { receiverId := 1 }, .key, .attachReceiver { receiverId := 2 }] h ∧
      n ∈ h.dispatcher.notifiers ∧ n.audioIndex = none ∧ h.dispatcher.audioNeedActivate = true := by
  obtain ⟨h, hrun⟩ := Option.isSome_iff_exists.mp
    (show (History.runOf (fun h call => h.dispatcher.KeepsActivation call)
      [.attachReceiver { receiverId := 1 }, .key, .attachReceiver { receiverId := 2 }]).isSome by
        decide +kernel)
  have hwaits : (History.runOf (fun h call => h.dispatcher.KeepsActivation call)
      [.attachReceiver { receiverId := 1 }, .key, .attachReceiver { receiverId := 2 }]).all fun h =>
        h.dispatcher.notifiers.any (·.audioIndex = none) := by decide +kernel
  rw [hrun] at hwaits
  obtain ⟨n, hn, hnone⟩ := List.any_eq_true.mp (show h.dispatcher.notifiers.any _ = true from hwaits)
  have hindex : n.audioIndex = none := by simpa using hnone
  exact ⟨h, n, GuardedRun.of_check hrun, hn, hindex,
    (History.run_activationKept (GuardedRun.of_check hrun)).audio n hn hindex⟩

end WifiDisplay
