import WifiDisplay.DispatcherDelivery
import WifiDisplay.BufferDispatcherPops
import WifiDisplay.DispatcherReadFlagRuns
import WifiDisplay.QueueReader

/-! Delivery in order: what a receiver was handed stands behind its index, and what it was
not handed is still to come. -/

namespace WifiDisplay

open QueuePositions QueueReader

/-- The frames that reads of this type are about. -/
def MediaType.covers (type : MediaType) (m : MediaData) : Bool := type = .av || m.mediaType = type

theorem covers_of_ne_av {type : MediaType} (hav : type ≠ .av) (m : MediaData) :
    type.covers m = true ↔ m.mediaType = type := by simp [MediaType.covers, hav]

namespace DataNotifier

variable (n : DataNotifier) (type : MediaType)

theorem getReceiverReadIndex_shift (k : Nat) :
    (n.shift k).getReceiverReadIndex type = (n.getReceiverReadIndex type).map (· - k) := by
  cases type with
  | audio | video => rfl
  | av =>
    simp only [getReceiverReadIndex, shift_audioIndex, shift_videoIndex]
    cases n.audioIndex <;> cases n.videoIndex <;> simp [Nat.sub_min_sub_right]

@[simp] theorem getReceiverReadIndex_reset : n.reset.getReceiverReadIndex type = none := by
  cases type <;> rfl

theorem getReceiverReadIndex_bare {n n' : DataNotifier} (h : n'.bare = n.bare) (type : MediaType) :
    n'.getReceiverReadIndex type = n.getReceiverReadIndex type := by
  have haudio : n'.audioIndex = n.audioIndex := congrArg (·.audioIndex) h
  have hvideo : n'.videoIndex = n.videoIndex := congrArg (·.videoIndex) h
  cases type <;> simp [getReceiverReadIndex, haudio, hvideo]

end DataNotifier

namespace BufferDispatcher

variable {s s' r : BufferDispatcher} {m : MediaData} {mixed : Nat → Bool}

/-- No index is behind the end of the buffer. -/
structure InRange (s : BufferDispatcher) : Prop where
  lastAudio : ∀ i ∈ s.lastAudioIndex, i ≤ s.circularBuffer.size
  audio : ∀ n ∈ s.notifiers, ∀ i ∈ n.audioIndex, i ≤ s.circularBuffer.size
  video : ∀ n ∈ s.notifiers, ∀ i ∈ n.videoIndex, i ≤ s.circularBuffer.size

theorem InRange.index (h : InRange s) {n : DataNotifier} (hn : n ∈ s.notifiers) {type : MediaType}
    {i : Nat} (hi : n.getReceiverReadIndex type = some i) : i ≤ s.circularBuffer.size := by
  have haudio := h.audio n hn
  have hvideo := h.video n hn
  cases type with
  | audio => exact haudio i hi
  | video => exact hvideo i hi
  | av =>
    rw [DataNotifier.getReceiverReadIndex] at hi
    cases ha : n.audioIndex with
    | none =>
      rw [ha] at hi
      exact hvideo i hi
    | some a =>
      have hle := haudio a ha
      cases hv : n.videoIndex with
      | none =>
        simp only [ha, hv] at hi
        cases hi
        exact hle
      | some v =>
        simp only [ha, hv] at hi
        cases hi
        omega

theorem InRange.of_still (h : InRange s) (hs : Still s s')
    (hnotifiers : ∀ n' ∈ s'.notifiers, ∃ n ∈ s.notifiers, n'.audioIndex = n.audioIndex ∧
      n'.videoIndex = n.videoIndex) : InRange s' := by
  have hsize := size_of_frames hs.frames
  refine ⟨?_, ?_, ?_⟩
  · rw [hs.lastAudioIndex, hsize]
    exact h.lastAudio
  · intro n' hn'
    obtain ⟨n, hn, haudio, -⟩ := hnotifiers n' hn'
    rw [haudio, hsize]
    exact h.audio n hn
  · intro n' hn'
    obtain ⟨n, hn, -, hvideo⟩ := hnotifiers n' hn'
    rw [hvideo, hsize]
    exact h.video n hn

theorem InRange.read (h : InRange s) (receiverId : Nat) (type : MediaType) :
    InRange (s.readBufferData receiverId type).2 := by
  rcases readBufferData_spec s receiverId type with heq | ⟨n, i, d, hreads⟩
  · rw [heq]
    exact h
  have hsize := size_of_frames hreads.still.frames
  have hi : i < s.circularBuffer.size := (List.getElem?_eq_some_iff.mp hreads.data).1
  have hnext := Nat.le_of_lt (findNextIndex_lt hi type (s.keyMode n))
  refine ⟨?_, ?_, ?_⟩
  · rw [hreads.still.lastAudioIndex, hsize]
    exact h.lastAudio
  · rw [hreads.notifiers, hsize]
    intro n' hn' j hj
    obtain ⟨n₀, hn₀, rfl⟩ := List.mem_map.mp hn'
    split at hj
    · cases type with
      | video => exact h.audio n₀ hn₀ j hj
      | audio | av =>
        cases hj
        exact hnext
    · exact h.audio n₀ hn₀ j hj
  · rw [hreads.notifiers, hsize]
    intro n' hn' j hj
    obtain ⟨n₀, hn₀, rfl⟩ := List.mem_map.mp hn'
    split at hj
    · cases type with
      | audio => exact h.video n₀ hn₀ j hj
      | video | av =>
        cases hj
        exact hnext
    · exact h.video n₀ hn₀ j hj

theorem attachIndexes_le (h : InRange s) (hkeys : s.KeysListed) :
    (∀ i ∈ s.attachIndexes.1, i ≤ s.circularBuffer.size) ∧
      ∀ i ∈ s.attachIndexes.2, i ≤ s.circularBuffer.size := by
  rw [attachIndexes]
  by_cases hempty : s.circularBuffer.items = []
  · simp [hempty]
  rw [if_neg hempty]
  by_cases hmode : s.dataMode = .audioOnly
  · rw [if_pos hmode]
    simp
  rw [if_neg hmode]
  cases hkey : s.keyIndexList.getLast? with
  | none => exact ⟨h.lastAudio, by simp⟩
  | some key =>
    have hlt : key < s.circularBuffer.size := (lt_of_suffix hkeys (List.mem_of_getLast? hkey)).1
    have hnext := findNextIndex_lt hlt .audio s.keyOnly
    refine ⟨fun i hi => ?_, by simpa using Nat.le_of_lt hlt⟩
    simp only at hi
    split at hi
    · cases hi
    · cases hi
      exact Nat.le_of_lt hnext

theorem InRange.attach (h : InRange s) (hkeys : s.KeysListed) (receiver : BufferReceiver) :
    InRange (s.attachReceiver receiver) := by
  rcases attachReceiver_eq s receiver with ⟨-, heq⟩ | ⟨-, heq⟩
  · rw [heq]
    exact h
  obtain ⟨haudio, hvideo⟩ := attachIndexes_le h hkeys
  rw [heq]
  refine ⟨h.lastAudio, ?_, ?_⟩
  · intro n hn
    rcases List.mem_append.mp hn with hn | hn
    · exact h.audio n hn
    · rw [List.mem_singleton.mp hn]
      exact haudio
  · intro n hn
    rcases List.mem_append.mp hn with hn | hn
    · exact h.video n hn
    · rw [List.mem_singleton.mp hn]
      exact hvideo

theorem InRange.subset (h : InRange s) (hlast : s'.lastAudioIndex = s.lastAudioIndex)
    (hsize : s'.circularBuffer.size = s.circularBuffer.size) (hsub : s'.notifiers ⊆ s.notifiers) :
    InRange s' := by
  refine ⟨?_, ?_, ?_⟩
  · rw [hlast, hsize]
    exact h.lastAudio
  · rw [hsize]
    exact fun n hn => h.audio n (hsub hn)
  · rw [hsize]
    exact fun n hn => h.video n (hsub hn)

theorem InRange.of_flushes (h : Flushes s r) : InRange r := by
  obtain ⟨t, -, rfl⟩ := h
  refine ⟨?_, ?_, ?_⟩
  · rintro i ⟨⟩
  all_goals
    intro n hn i hi
    obtain ⟨n₀, -, rfl⟩ := List.mem_map.mp hn
    cases hi

theorem InRange.drops {k : Nat} (h : InRange s) (hd : Drops s k r) : InRange r := by
  have hsize := hd.size
  have hle := hd.le
  obtain ⟨t, rfl⟩ := hd.eq
  refine ⟨?_, ?_, ?_⟩
  · intro i hi
    obtain ⟨j, hj, rfl⟩ := Option.map_eq_some_iff.mp hi
    have hlt := h.lastAudio j hj
    omega
  · intro n hn i hi
    obtain ⟨n₀, hn₀, rfl⟩ := List.mem_map.mp hn
    obtain ⟨j, hj, rfl⟩ := Option.map_eq_some_iff.mp hi
    have hlt := h.audio n₀ hn₀ j hj
    omega
  · intro n hn i hi
    obtain ⟨n₀, hn₀, rfl⟩ := List.mem_map.mp hn
    obtain ⟨j, hj, rfl⟩ := Option.map_eq_some_iff.mp hi
    have hlt := h.video n₀ hn₀ j hj
    omega

theorem InRange.room (h : InRange s) (ha : s.accepts m) (hr : s.roomFor m = .ok r) : InRange r := by
  by_cases hf : s.flushesFor m
  · exact InRange.of_flushes (roomFor_flushes hf hr)
  · obtain ⟨k, hk⟩ := roomFor_drops ha hf hr
    exact InRange.drops (s := s.counted) ⟨h.lastAudio, h.audio, h.video⟩ hk

theorem InRange.append (h : InRange r) (hroom : r.circularBuffer.size < r.circularBuffer.capacity)
    (data : DataSpec) : InRange (r.appendData data) := by
  have hlast : r.lastPosition data = r.circularBuffer.size := lastPosition_eq hroom
  have hsize : (r.appendData data).circularBuffer.size = r.circularBuffer.size + 1 := by
    have hlen := congrArg List.length (frames_appendData_of_lt hroom data)
    simpa [frames, CircularBuffer.size] using hlen
  refine ⟨?_, ?_, ?_⟩
  · obtain ⟨items, keyRedirect, heq, -⟩ := appendData_eq r data
    have hindex : (r.appendData data).lastAudioIndex =
        if data.isAudioData then some r.circularBuffer.size else r.lastAudioIndex := by
      rw [heq, listed_eq, hlast]
    rw [hindex, hsize]
    intro i hi
    split at hi
    · cases hi
      exact Nat.le_succ _
    · exact Nat.le_succ_of_le (h.lastAudio i hi)
  · rw [hsize]
    intro n' hn' i hi
    obtain ⟨n, hn, rfl⟩ := mem_notifiers_appendData hn'
    rw [audioIndex_appended, hlast] at hi
    split at hi
    · cases hi
      exact Nat.le_succ _
    · exact Nat.le_succ_of_le (h.audio n hn i hi)
  · rw [hsize]
    intro n' hn' i hi
    obtain ⟨n, hn, rfl⟩ := mem_notifiers_appendData hn'
    rcases videoIndex_appended_or r data n with hsame | ⟨-, hnew⟩
    · rw [hsame] at hi
      exact Nat.le_succ_of_le (h.video n hn i hi)
    · rw [hnew, hlast] at hi
      cases hi
      exact Nat.le_succ _

/-- Nothing is there to read for a receiver without an index, and the next frame it can
read gives it one. -/
structure Dormant (s : BufferDispatcher) (type : MediaType) : Prop where
  absent : ∀ d ∈ s.circularBuffer.items, type.covers d.mediaData = false
  audio : type ≠ .video → s.audioNeedActivate = true
  video : type ≠ .audio → s.videoNeedActivate = true
  waits : type ≠ .audio → s.dataMode ≠ .audioOnly → s.waitingKey = true

theorem Dormant.of_still {type : MediaType} (h : Dormant s type) (hs : Still s s') : Dormant s' type := by
  refine ⟨fun d' hd' => ?_, ?_, ?_, ?_⟩
  · obtain ⟨p, hp⟩ := List.mem_iff_getElem?.mp hd'
    obtain ⟨d, hd, hmedia, -⟩ := getElem?_of_frames hs.frames hp
    rw [← hmedia]
    exact h.absent d (List.mem_of_getElem? hd)
  · rw [hs.audioNeedActivate]
    exact h.audio
  · rw [hs.videoNeedActivate]
    exact h.video
  · rw [hs.dataMode, hs.waitingKey]
    exact h.waits

theorem Dormant.flush (s : BufferDispatcher) (type : MediaType) : Dormant s.flushBuffer type :=
  ⟨fun _ hd => absurd hd List.not_mem_nil, fun _ => rfl, fun _ => rfl, fun _ _ => rfl⟩

/-- The condition on a call: reads deliver by type, audio mode gets audio alone, a new
receiver comes to a slot whose bit no buffered frame carries, a receiver reads either audio and
video together or each by itself, and `CancelReserve` changes no flag of an attached receiver. -/
def KeepsOrder (mixed : Nat → Bool) (s : BufferDispatcher) : Call → Prop
  | .inputData (some m) => s.KeepsTypes mixed (.inputData (some m)) ∧
      (s.accepts m → s.dataMode = .audioOnly → m.mediaType = .audio)
  | .attachReceiver receiver => s.KeepsTypes mixed (.attachReceiver receiver) ∧
      (s.Attaches receiver → ∀ d ∈ s.circularBuffer.items, d.reserveFlag.getLsbD s.newIndex = false)
  | .readBufferData receiverId type => type = .av ↔ mixed receiverId
  | .cancelReserve => ∀ n ∈ s.notifiers, ∀ d ∈ s.circularBuffer.items,
      d.reserveFlag.getLsbD n.readIndex = decide (n.readIndex < 8)
  | _ => True

theorem KeepsOrder.keepsTypes {call : Call} (h : s.KeepsOrder mixed call) : s.KeepsTypes mixed call := by
  cases call
  case inputData mediaData =>
    cases mediaData with
    | none => trivial
    | some m => exact h.1
  case attachReceiver => exact h.1
  case readBufferData => exact h.mp
  all_goals trivial

theorem InRange.exec {call : Call} (h : InRange s) (hkeys : s.KeysListed)
    (hok : s.KeepsTypes mixed call) (hs' : s.exec call = .ok s') : InRange s' := by
  cases call
  case inputData =>
    rcases inputData_cases hs' with ⟨rfl, -⟩ | ⟨m, -, -, rfl⟩ | ⟨m, r, rfl, ha, hr, rfl⟩
    · exact h
    · exact ⟨h.lastAudio, h.audio, h.video⟩
    · exact (h.room ha hr).append (hok ha r (by simp [hr, Except.toOption])).1 _
  case flushBuffer =>
    cases hs'
    exact InRange.of_flushes (flushBuffer_flushes s)
  case cancelReserve =>
    cases hs'
    exact h.of_still (cancelReserve_still s) fun n hn => ⟨n, hn, rfl, rfl⟩
  case attachReceiver receiver =>
    cases hs'
    exact h.attach hkeys receiver
  case detachReceiver receiverId =>
    cases hs'
    rw [detachReceiver]
    split
    · exact h
    · rename_i n _
      obtain ⟨recvBitRef, heq⟩ := detachNotifier_cases s n
      rw [heq]
      exact h.subset rfl rfl fun _ hn => (List.mem_filter.mp hn).1
  case releaseAllReceiver =>
    cases hs'
    obtain ⟨recvBitRef, heq⟩ := releaseAllReceiver_eq s
    rw [heq]
    exact h.subset rfl rfl (List.nil_subset _)
  case readBufferData receiverId type =>
    cases hs'
    exact h.read receiverId type
  all_goals
    have hquiet := exec_quiet (by trivial) hs'
    apply h.of_still hquiet.toStill
    intro n' hn'
    obtain ⟨n, hn, hbare⟩ := hquiet.mem hn'
    exact ⟨n, hn, congrArg (·.audioIndex) hbare, congrArg (·.videoIndex) hbare⟩

section Room

theorem waitingKey_restorePops (k : Nat) (s : BufferDispatcher) :
    (restorePops k s).waitingKey = s.waitingKey := by
  induction k generalizing s with
  | zero => rfl
  | succ k ih => exact (ih _).trans rfl

theorem waitingKey_setBufferCapacity (s : BufferDispatcher) (capacity : Nat) :
    (s.setBufferCapacity capacity).waitingKey = s.waitingKey := by
  rw [setBufferCapacity]
  split <;> rfl

theorem waitingKey_adaptCapacity (s : BufferDispatcher) : s.adaptCapacity.waitingKey = s.waitingKey := by
  have hextended : s.extended.waitingKey = s.waitingKey := by
    rw [extended]
    split
    · exact waitingKey_setBufferCapacity s _
    · rfl
  rw [adaptCapacity_eq]
  split
  · simp only [restoreToNormalCapacity]
    rw [waitingKey_restorePops, hextended]
  · exact hextended

theorem waitingKey_overflowPops {k : Nat} (h : overflowPops k s = .ok r) :
    r.waitingKey = s.waitingKey := by
  induction k generalizing s with
  | zero =>
    cases h
    rfl
  | succ k ih =>
    rw [overflowPops] at h
    split at h
    · cases h
    · exact (ih h).trans rfl

/-- An audio frame does not end the wait for a key frame. -/
theorem waitingKey_roomFor (haudio : (s.newData m).isAudioData = true) (hwait : s.waitingKey = true)
    (hr : s.roomFor m = .ok r) : r.waitingKey = true := by
  have hkey := not_isKeyVideoFrame_of_isAudioData haudio
  rw [roomFor, if_neg (by simp [haudio]), if_neg (by simp [hwait]), makeRoom, eraseForKey,
    if_neg (by simp [hkey])] at hr
  rw [waitingKey_overflowPops hr, waitingKey_adaptCapacity]
  exact hwait

/-- A notifier in the room for a frame: reset by a flush, or moved with the dropped heads. -/
theorem mem_room (ha : s.accepts m) (hr : s.roomFor m = .ok r) {n₁ : DataNotifier}
    (hn₁ : n₁ ∈ r.notifiers) : ∃ n ∈ s.notifiers, Roomed s r n n₁ ∧
      (s.flushesFor m ∧ Flushes s.counted r ∧ n₁ = n.reset ∨
        ∃ k, ¬ s.flushesFor m ∧ Drops s.counted k r ∧ n₁ = n.shift k) := by
  by_cases hf : s.flushesFor m
  · have hflushes := roomFor_flushes hf hr
    have hitems := hflushes.items
    obtain ⟨t, -, heq⟩ := id hflushes
    have hmem : n₁ ∈ s.notifiers.map (·.reset) := by
      rw [heq] at hn₁
      exact hn₁
    obtain ⟨n, hn, rfl⟩ := List.mem_map.mp hmem
    exact ⟨n, hn, ⟨rfl, rfl, Or.inl ⟨hitems, rfl⟩⟩, Or.inl ⟨hf, hflushes, rfl⟩⟩
  · obtain ⟨k, hk⟩ := roomFor_drops ha hf hr
    rw [hk.notifiers] at hn₁
    obtain ⟨n, hn, rfl⟩ := List.mem_map.mp hn₁
    have hitems : r.circularBuffer.items = s.circularBuffer.items.drop k := by
      obtain ⟨t, rfl⟩ := hk.eq
      rfl
    exact ⟨n, hn, ⟨rfl, rfl, Or.inr ⟨k, hitems, rfl⟩⟩, Or.inr ⟨k, hf, hk, rfl⟩⟩

end Room

section Append

variable {n₁ : DataNotifier}

/-- A frame takes the video index of a receiver to itself, gives one to a receiver without
one, or leaves it. -/
theorem videoIndex_appended_cases (r : BufferDispatcher) (data : DataSpec) (n₁ : DataNotifier) :
    (r.appended data n₁).videoIndex = n₁.videoIndex ∨
      (r.appended data n₁).videoIndex = some (r.lastPosition data) ∧
        (n₁.videoIndex = none ∨ r.Taken data n₁) := by
  rw [videoIndex_appended, videoIndex_activated]
  by_cases hredirects : r.redirects data = true ∧ n₁.isKeyRedirectReceiver = true
  · rw [if_pos hredirects]
    exact Or.inr ⟨rfl, Or.inr (Or.inr hredirects)⟩
  rw [if_neg hredirects]
  split
  · rename_i hactive
    right
    rcases hactive with hjumps | hneed
    · exact ⟨rfl, Or.inr (Or.inl hjumps)⟩
    · exact ⟨rfl, Or.inl hneed.2⟩
  · exact Or.inl rfl

theorem audioIndex_appended_cases (r : BufferDispatcher) (data : DataSpec) (n₁ : DataNotifier) :
    (r.appended data n₁).audioIndex = n₁.audioIndex ∨
      (r.appended data n₁).audioIndex = some (r.lastPosition data) ∧ n₁.audioIndex = none := by
  rw [audioIndex_appended]
  split
  · rename_i hactive
    exact Or.inr ⟨rfl, hactive.2⟩
  · exact Or.inl rfl

/-- An index stays, or the new frame takes a video index to itself. -/
theorem getReceiverReadIndex_appended (r : BufferDispatcher) (data : DataSpec) {type : MediaType} {i : Nat}
    (haudio : ∀ j ∈ n₁.audioIndex, j ≤ r.lastPosition data)
    (hvideo : ∀ j ∈ n₁.videoIndex, j ≤ r.lastPosition data)
    (hi : n₁.getReceiverReadIndex type = some i) :
    ∃ j, (r.appended data n₁).getReceiverReadIndex type = some j ∧
      (j = i ∨ i ≤ j ∧ j ≤ r.lastPosition data ∧ n₁.videoIndex = some i ∧ r.Taken data n₁) := by
  cases type with
  | audio =>
    rcases audioIndex_appended_cases r data n₁ with hsame | ⟨-, hnone⟩
    · exact ⟨i, hsame.trans hi, Or.inl rfl⟩
    · cases hnone.symm.trans hi
  | video =>
    rcases videoIndex_appended_cases r data n₁ with hsame | ⟨hlast, hnone | htaken⟩
    · exact ⟨i, hsame.trans hi, Or.inl rfl⟩
    · cases hnone.symm.trans hi
    · exact ⟨_, hlast, Or.inr ⟨hvideo i hi, Nat.le_refl _, hi, htaken⟩⟩
  | av =>
    simp only [DataNotifier.getReceiverReadIndex] at hi ⊢
    cases ha : n₁.audioIndex with
    | none =>
      rw [ha] at hi
      have hle := hvideo i hi
      rcases videoIndex_appended_cases r data n₁ with hv | ⟨hv, hnone | htaken⟩
      · rcases audioIndex_appended_cases r data n₁ with hsame | ⟨hnew, -⟩
        · exact ⟨i, by rw [hsame, ha, hv]; exact hi, Or.inl rfl⟩
        · refine ⟨i, ?_, Or.inl rfl⟩
          simp only [hnew, hv, show n₁.videoIndex = some i from hi]
          rw [Nat.min_eq_right hle]
      · cases hnone.symm.trans hi
      · refine ⟨r.lastPosition data, ?_, Or.inr ⟨hle, Nat.le_refl _, hi, htaken⟩⟩
        rcases audioIndex_appended_cases r data n₁ with hsame | ⟨hnew, -⟩
        · rw [hsame, ha, hv]
        · simp [hnew, hv]
    | some a =>
      have hsame : (r.appended data n₁).audioIndex = some a := by
        rcases audioIndex_appended_cases r data n₁ with hsame | ⟨-, hnone⟩
        · rw [hsame, ha]
        · cases hnone.symm.trans ha
      have hle := haudio a ha
      cases hv : n₁.videoIndex with
      | none =>
        simp only [ha, hv] at hi
        cases hi
        rcases videoIndex_appended_cases r data n₁ with hold | ⟨hnew, -⟩
        · exact ⟨i, by simp only [hsame, hold, hv], Or.inl rfl⟩
        · exact ⟨i, by simp only [hsame, hnew, Nat.min_eq_left hle], Or.inl rfl⟩
      | some v =>
        simp only [ha, hv, Option.some.injEq] at hi
        rcases videoIndex_appended_cases r data n₁ with hold | ⟨hnew, hnone | htaken⟩
        · exact ⟨i, by simp only [hsame, hold, hv, hi], Or.inl rfl⟩
        · cases hnone.symm.trans hv
        · refine ⟨a, by simp only [hsame, hnew, Nat.min_eq_left hle], ?_⟩
          rcases Nat.le_total a v with hav | hva
          · exact Or.inl (by omega)
          · exact Or.inr ⟨by omega, hle, by rw [show v = i by omega], htaken⟩

theorem getReceiverReadIndex_appended_none (r : BufferDispatcher) (data : DataSpec) {type : MediaType}
    (hi : n₁.getReceiverReadIndex type = none) :
    (r.appended data n₁).getReceiverReadIndex type = none ∨
      (r.appended data n₁).getReceiverReadIndex type = some (r.lastPosition data) := by
  have haudio := audioIndex_appended_cases r data n₁
  have hvideo := videoIndex_appended_cases r data n₁
  cases type with
  | audio =>
    rcases haudio with hsame | ⟨hnew, -⟩
    · exact Or.inl (hsame.trans hi)
    · exact Or.inr hnew
  | video =>
    rcases hvideo with hsame | ⟨hnew, -⟩
    · exact Or.inl (hsame.trans hi)
    · exact Or.inr hnew
  | av =>
    obtain ⟨ha, hv⟩ : n₁.audioIndex = none ∧ n₁.videoIndex = none := by
      simp only [DataNotifier.getReceiverReadIndex] at hi
      cases ha : n₁.audioIndex <;> cases hv : n₁.videoIndex <;> simp_all
    rcases haudio with haudio | ⟨haudio, -⟩ <;> rcases hvideo with hvideo | ⟨hvideo, -⟩ <;>
      simp [DataNotifier.getReceiverReadIndex, haudio, hvideo, ha, hv]

end Append

end BufferDispatcher

end WifiDisplay
