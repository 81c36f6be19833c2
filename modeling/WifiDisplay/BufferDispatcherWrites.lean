import WifiDisplay.BufferDispatcherReads

/-! What appending a frame does: the new last position, the receivers that it activates
or redirects, and the flags that a redirection sets. -/

namespace WifiDisplay

namespace BufferDispatcher

variable {s s' : BufferDispatcher} {data : DataSpec}

/-- The position of the frame that `push_back` adds. -/
def lastPosition (s : BufferDispatcher) (data : DataSpec) : Nat :=
  (s.circularBuffer.pushBack { data with reserveFlag := 0 }).size - 1

theorem lastPosition_eq {data : DataSpec} (h : s.circularBuffer.size < s.circularBuffer.capacity) :
    s.lastPosition data = s.circularBuffer.size := by
  rw [lastPosition, CircularBuffer.size, CircularBuffer.items_pushBack _ h, List.length_append]
  rfl

end BufferDispatcher

namespace DataNotifier

/-- A key frame sets the video index of the receivers in key mode if no key is listed. -/
def keyJump (jump : Bool) (last : Nat) (n : DataNotifier) : DataNotifier :=
  if jump ∧ n.isKeyModeReceiver then { n with videoIndex := some last } else n

def activateAudio (need : Bool) (last : Nat) (n : DataNotifier) : DataNotifier :=
  if need ∧ n.audioIndex = none then { n with audioIndex := some last } else n

def activateVideo (need : Bool) (last : Nat) (n : DataNotifier) : DataNotifier :=
  if need ∧ n.videoIndex = none then { n with videoIndex := some last } else n

def redirected (need rapidMode : Bool) (last : Nat) (n : DataNotifier) : DataNotifier :=
  if need ∧ n.isKeyRedirectReceiver then
    { n with
        videoIndex := some last
        receiver := if rapidMode then n.receiver
          else n.receiver.map fun r => { r with keyRedirect := false } }
  else n

@[simp] theorem keyJump_false (last : Nat) (n : DataNotifier) : n.keyJump false last = n := rfl

@[simp] theorem activateAudio_false (last : Nat) (n : DataNotifier) :
    n.activateAudio false last = n := rfl

@[simp] theorem activateVideo_false (last : Nat) (n : DataNotifier) :
    n.activateVideo false last = n := rfl

@[simp] theorem redirected_false (rapidMode : Bool) (last : Nat) (n : DataNotifier) :
    n.redirected false rapidMode last = n := rfl

section Indexes

variable (need rapidMode : Bool) (last : Nat) (n : DataNotifier)

@[simp] theorem audioIndex_keyJump : (n.keyJump need last).audioIndex = n.audioIndex := by
  rw [keyJump]
  split <;> rfl

@[simp] theorem audioIndex_activateVideo : (n.activateVideo need last).audioIndex = n.audioIndex := by
  rw [activateVideo]
  split <;> rfl

@[simp] theorem audioIndex_redirected :
    (n.redirected need rapidMode last).audioIndex = n.audioIndex := by
  rw [redirected]
  split <;> rfl

theorem audioIndex_activateAudio : (n.activateAudio need last).audioIndex =
    if need ∧ n.audioIndex = none then some last else n.audioIndex := by
  rw [activateAudio]
  split <;> rfl

@[simp] theorem videoIndex_activateAudio : (n.activateAudio need last).videoIndex = n.videoIndex := by
  rw [activateAudio]
  split <;> rfl

theorem videoIndex_keyJump : (n.keyJump need last).videoIndex =
    if need ∧ n.isKeyModeReceiver then some last else n.videoIndex := by
  rw [keyJump]
  split <;> rfl

theorem videoIndex_activateVideo : (n.activateVideo need last).videoIndex =
    if need ∧ n.videoIndex = none then some last else n.videoIndex := by
  rw [activateVideo]
  split <;> rfl

theorem videoIndex_redirected : (n.redirected need rapidMode last).videoIndex =
    if need ∧ n.isKeyRedirectReceiver then some last else n.videoIndex := by
  rw [redirected]
  split <;> rfl

end Indexes

end DataNotifier

namespace BufferDispatcher

variable {s s' : BufferDispatcher} {data : DataSpec}

theorem not_isAudioData_of_isKeyVideoFrame (h : data.isKeyVideoFrame) : data.isAudioData = false := by
  simp only [DataSpec.isKeyVideoFrame, DataSpec.isVideoData, Bool.and_eq_true,
    decide_eq_true_eq] at h
  simp [DataSpec.isAudioData, h.1]

theorem not_isKeyVideoFrame_of_isAudioData (h : data.isAudioData) : data.isKeyVideoFrame = false := by
  by_contra hkey
  rw [not_isAudioData_of_isKeyVideoFrame (by simpa using hkey)] at h
  cases h

/-- The key mode receivers jump to a new key frame. -/
def jumps (s : BufferDispatcher) (data : DataSpec) : Bool :=
  data.isKeyVideoFrame && s.keyIndexList = []

theorem pushBack_eq (s : BufferDispatcher) (data : DataSpec) :
    s.pushBack data = { s with
      circularBuffer := s.circularBuffer.pushBack { data with reserveFlag := 0 }
      lastAudioIndex := if data.isAudioData then some (s.lastPosition data) else s.lastAudioIndex
      lastVideoIndex := if data.isAudioData then s.lastVideoIndex else some (s.lastPosition data)
      notifiers := s.notifiers.map (·.keyJump (s.jumps data) (s.lastPosition data))
      dataBitRef := (s.pushBack data).dataBitRef
      audioFrameCnt := (s.pushBack data).audioFrameCnt
      videoFrameCnt := (s.pushBack data).videoFrameCnt } := by
  have hjump (h : data.isKeyVideoFrame = false) :
      s.notifiers.map (·.keyJump (s.jumps data) (s.lastPosition data)) = s.notifiers := by
    simp [jumps, h]
  by_cases haudio : data.isAudioData
  · simp only [pushBack, if_pos haudio, activeDataRef, if_true,
      hjump (not_isKeyVideoFrame_of_isAudioData haudio)]
    rfl
  by_cases hactive : ¬ s.keyOnly ∨ data.isKeyVideoFrame
  · have hmap : s.notifiers.map (·.keyJump (s.jumps data) (s.lastPosition data)) =
        s.notifiers.map fun n =>
          if data.isKeyVideoFrame ∧ n.isKeyModeReceiver ∧ s.keyIndexList = [] then
            { n with videoIndex := some (s.lastPosition data) }
          else n := by
      apply List.map_congr_left
      intro n _
      by_cases hkey : data.isKeyVideoFrame <;> by_cases hmode : n.isKeyModeReceiver <;>
        simp [DataNotifier.keyJump, jumps, hkey, hmode]
    simp only [pushBack, if_neg haudio, activeDataRef, reduceCtorEq, if_false, hmap]
    rw [if_pos hactive]
    rfl
  · have hkey : data.isKeyVideoFrame = false := by
      by_contra h
      exact hactive (Or.inr (by simpa using h))
    simp only [pushBack, if_neg haudio, hjump hkey]
    rw [if_neg hactive]
    rfl

theorem activate_eq (s : BufferDispatcher) (data : DataSpec) :
    s.activate data = { s with
      notifiers := s.notifiers.map
        (·.activateAudio (s.audioNeedActivate && data.isAudioData) (s.circularBuffer.size - 1))
      audioNeedActivate := s.audioNeedActivate &&
        !(data.isAudioData && s.notifiers.any (·.audioIndex = none)) } := by
  rw [activate]
  by_cases h : s.audioNeedActivate ∧ data.isAudioData
  · rw [if_pos h, activateReceiverIndex, if_neg (by decide)]
    simp [DataNotifier.activateAudio, h]
  · rw [if_neg h]
    have hneed : (s.audioNeedActivate && data.isAudioData) = false := by simpa using h
    have hafter : (s.audioNeedActivate &&
        !(data.isAudioData && s.notifiers.any (·.audioIndex = none))) = s.audioNeedActivate := by
      cases haudio : data.isAudioData with
      | false => simp
      | true =>
        rw [haudio, Bool.and_true] at hneed
        simp [hneed]
    simp only [hneed, hafter, DataNotifier.activateAudio_false, List.map_id']

theorem listKey_eq (s : BufferDispatcher) :
    s.listKey = { s with
      keyIndexList := s.keyIndexList ++ [s.circularBuffer.size - 1]
      notifiers := s.notifiers.map
        (·.activateVideo s.videoNeedActivate (s.circularBuffer.size - 1))
      videoNeedActivate := s.videoNeedActivate && !s.notifiers.any (·.videoIndex = none) } := by
  rw [listKey]
  simp only
  by_cases h : s.videoNeedActivate
  · simp [h, activateReceiverIndex, DataNotifier.activateVideo]
  · simp [h]

/-- What appending a frame makes of a notifier before a redirection. -/
def activated (s : BufferDispatcher) (data : DataSpec) (n : DataNotifier) : DataNotifier :=
  ((n.keyJump (s.jumps data) (s.lastPosition data)).activateAudio
    (s.audioNeedActivate && data.isAudioData) (s.lastPosition data)).activateVideo
      (data.isKeyVideoFrame && s.videoNeedActivate) (s.lastPosition data)

/-- The dispatcher with the frame appended, before a redirection. -/
def listed (s : BufferDispatcher) (data : DataSpec) : BufferDispatcher :=
  if data.isKeyVideoFrame then ((s.pushBack data).activate data).listKey
  else (s.pushBack data).activate data

theorem listed_eq (s : BufferDispatcher) (data : DataSpec) :
    s.listed data = { s with
      circularBuffer := s.circularBuffer.pushBack { data with reserveFlag := 0 }
      keyIndexList := if data.isKeyVideoFrame then s.keyIndexList ++ [s.lastPosition data]
        else s.keyIndexList
      lastAudioIndex := if data.isAudioData then some (s.lastPosition data) else s.lastAudioIndex
      lastVideoIndex := if data.isAudioData then s.lastVideoIndex else some (s.lastPosition data)
      notifiers := s.notifiers.map (s.activated data)
      audioNeedActivate := s.audioNeedActivate &&
        !(data.isAudioData && s.notifiers.any (·.audioIndex = none))
      videoNeedActivate := s.videoNeedActivate && !(data.isKeyVideoFrame &&
        (s.notifiers.map (·.keyJump (s.jumps data) (s.lastPosition data))).any (·.videoIndex = none))
      dataBitRef := (s.pushBack data).dataBitRef
      audioFrameCnt := (s.pushBack data).audioFrameCnt
      videoFrameCnt := (s.pushBack data).videoFrameCnt } := by
  have hsize : (s.circularBuffer.pushBack { data with reserveFlag := 0 }).size - 1 =
      s.lastPosition data := rfl
  by_cases hkey : data.isKeyVideoFrame
  · have haudio := not_isAudioData_of_isKeyVideoFrame hkey
    have hactivated : s.activated data = fun n => (n.keyJump (s.jumps data)
        (s.lastPosition data)).activateVideo s.videoNeedActivate (s.lastPosition data) := by
      funext n
      simp [activated, haudio, hkey]
    rw [hactivated, listed, if_pos hkey, listKey_eq, activate_eq, pushBack_eq]
    simp only [hsize, haudio, hkey, Bool.and_false, Bool.false_and, Bool.not_false, Bool.and_true,
      Bool.true_and, DataNotifier.activateAudio_false, List.map_map, if_true,
      Bool.false_eq_true, if_false]
    rfl
  · have hkey' : data.isKeyVideoFrame = false := by simpa using hkey
    have hjumps : s.jumps data = false := by simp [jumps, hkey']
    have hactivated : s.activated data = fun n => n.activateAudio
        (s.audioNeedActivate && data.isAudioData) (s.lastPosition data) := by
      funext n
      simp [activated, hjumps, hkey']
    rw [hactivated, listed, if_neg hkey, activate_eq, pushBack_eq]
    simp only [hsize, hkey', hjumps, Bool.false_and, Bool.not_false, Bool.and_true,
      DataNotifier.keyJump_false, List.map_id', Bool.false_eq_true, if_false]

theorem foldl_redirectReceiver (ns : List DataNotifier) (s : BufferDispatcher) (last : Nat) :
    ∃ items, ns.foldl (redirectReceiver · last) s =
        { s with circularBuffer := { s.circularBuffer with items } } ∧
      Marks (fun i k => ∃ n ∈ ns, s.findReceiverIndex n.receiverId = some k ∧
        ∃ c, n.videoIndex = some c ∧ c ≤ i ∧ i < last) s.circularBuffer.items items := by
  induction ns generalizing s with
  | nil => exact ⟨_, rfl, (Marks.refl _).congr (by simp)⟩
  | cons n ns ih =>
    have hfirst : ∃ items, s.redirectReceiver last n =
          { s with circularBuffer := { s.circularBuffer with items } } ∧
        Marks (fun i k => s.findReceiverIndex n.receiverId = some k ∧
          ∃ c, n.videoIndex = some c ∧ c ≤ i ∧ i < last) s.circularBuffer.items items := by
      cases hindex : n.videoIndex with
      | none =>
        refine ⟨_, by simp only [redirectReceiver, hindex], (Marks.refl _).congr (by simp)⟩
      | some c =>
        refine ⟨_, by simp only [redirectReceiver, hindex]; exact setReceiverReadFlags_eq _ _ _ _, ?_⟩
        have hmarks := marks_setReceiverReadFlags s n.receiverId c last
        rw [setReceiverReadFlags_eq] at hmarks
        exact hmarks.congr fun i _ k _ => by simp; tauto
    obtain ⟨items, heq, hmarks⟩ := hfirst
    obtain ⟨items', heq', hmarks'⟩ := ih (s.redirectReceiver last n)
    rw [heq] at heq' hmarks'
    refine ⟨items', by rw [List.foldl_cons, heq, heq'], (hmarks.trans hmarks').congr ?_⟩
    intro i _ k _
    simp only [List.mem_cons, exists_eq_or_imp]
    rfl

/-- Whether the new frame redirects receivers. -/
def redirects (s : BufferDispatcher) (data : DataSpec) : Bool := data.isKeyVideoFrame && s.keyRedirect

/-- The frame `i` is between the index of a redirected receiver and the new key frame. -/
def PassedByRedirect (s : BufferDispatcher) (last i k : Nat) : Prop :=
  ∃ n ∈ s.notifiers, n.isKeyRedirectReceiver ∧ s.findReceiverIndex n.receiverId = some k ∧
    ∃ c, n.videoIndex = some c ∧ c ≤ i ∧ i < last

theorem onKeyRedirect_eq (s : BufferDispatcher) {last : Nat} (hlast : s.keyIndexList.getLast? = some last) :
    ∃ items, s.onKeyRedirect = { s with
        circularBuffer := { s.circularBuffer with items }
        notifiers := s.notifiers.map (·.redirected true s.rapidMode last) } ∧
      Marks (fun i k => s.PassedByRedirect last i k) s.circularBuffer.items items := by
  obtain ⟨items, heq, hmarks⟩ :=
    foldl_redirectReceiver (s.notifiers.filter (·.isKeyRedirectReceiver)) s last
  refine ⟨items, ?_, hmarks.congr fun i _ k _ => ?_⟩
  · simp only [onKeyRedirect, hlast, heq, DataNotifier.redirected, true_and]
  · simp only [PassedByRedirect, List.mem_filter, and_assoc]

/-- Appending a frame: the frame joins the buffer, receivers are activated, and a
redirection marks the frames that it passes. -/
theorem appendData_eq (s : BufferDispatcher) (data : DataSpec) :
    ∃ items keyRedirect, s.appendData data = { s.listed data with
        circularBuffer := { (s.listed data).circularBuffer with items }
        notifiers := (s.listed data).notifiers.map
          (·.redirected (s.redirects data) s.rapidMode (s.lastPosition data))
        keyRedirect
        continueNotify := true } ∧
      Marks (fun i k => s.redirects data ∧ (s.listed data).PassedByRedirect (s.lastPosition data) i k)
        (s.listed data).circularBuffer.items items := by
  by_cases hredirects : s.redirects data
  · obtain ⟨hkey, hredirect⟩ : data.isKeyVideoFrame ∧ s.keyRedirect := by
      simpa [redirects] using hredirects
    have hlast : (s.listed data).keyIndexList.getLast? = some (s.lastPosition data) := by
      rw [listed_eq]
      simp [hkey]
    have hon : (s.listed data).keyRedirect = true := by
      rw [listed_eq]
      exact hredirect
    have hrapid : (s.listed data).rapidMode = s.rapidMode := by rw [listed_eq]
    obtain ⟨items, heq, hmarks⟩ := onKeyRedirect_eq (s.listed data) hlast
    refine ⟨items, false, ?_, hmarks.congr fun i _ k _ => by simp [hredirects]⟩
    have happend : s.appendData data =
        { (s.listed data).redirect with continueNotify := true } := by
      rw [appendData, listed, if_pos hkey]
      simp only [hkey, if_true]
    rw [happend, redirect, if_pos hon, heq, hredirects, ← hrapid]
  · have hredirects' : s.redirects data = false := by simpa using hredirects
    refine ⟨_, (s.listed data).keyRedirect, ?_, (Marks.refl _).congr (by simp [hredirects'])⟩
    have happend : s.appendData data = { s.listed data with continueNotify := true } := by
      by_cases hkey : data.isKeyVideoFrame
      · have hoff : (s.listed data).keyRedirect = false := by
          rw [listed_eq]
          simpa [redirects, hkey] using hredirects'
        have hnothing : (s.listed data).redirect = s.listed data := by
          rw [redirect, if_neg (by simp [hoff])]
        rw [← hnothing, appendData, listed, if_pos hkey]
        simp only [hkey, if_true]
      · rw [appendData, listed, if_neg hkey]
        simp only [hkey, Bool.false_eq_true, if_false]
    simp only [happend, hredirects', DataNotifier.redirected_false, List.map_id']

theorem audioIndex_activated (s : BufferDispatcher) (data : DataSpec) (n : DataNotifier) :
    (s.activated data n).audioIndex =
      if (s.audioNeedActivate && data.isAudioData) ∧ n.audioIndex = none then
        some (s.lastPosition data)
      else n.audioIndex := by
  rw [activated, DataNotifier.audioIndex_activateVideo, DataNotifier.audioIndex_activateAudio,
    DataNotifier.audioIndex_keyJump]

theorem videoIndex_activated (s : BufferDispatcher) (data : DataSpec) (n : DataNotifier) :
    (s.activated data n).videoIndex =
      if s.jumps data ∧ n.isKeyModeReceiver ∨
          (data.isKeyVideoFrame && s.videoNeedActivate) ∧ n.videoIndex = none then
        some (s.lastPosition data)
      else n.videoIndex := by
  rw [activated, DataNotifier.videoIndex_activateVideo, DataNotifier.videoIndex_activateAudio,
    DataNotifier.videoIndex_keyJump]
  by_cases hjump : s.jumps data ∧ n.isKeyModeReceiver
  · simp [hjump]
  · simp [hjump]

theorem receiver_activated (s : BufferDispatcher) (data : DataSpec) (n : DataNotifier) :
    (s.activated data n).receiver = n.receiver := by
  simp only [activated, DataNotifier.activateVideo, DataNotifier.activateAudio, DataNotifier.keyJump]
  repeat' split
  all_goals rfl

theorem videoIndex_activated_or (s : BufferDispatcher) (data : DataSpec) (n : DataNotifier) :
    (s.activated data n).videoIndex = n.videoIndex ∨
      data.isKeyVideoFrame ∧ (s.activated data n).videoIndex = some (s.lastPosition data) := by
  rw [videoIndex_activated]
  split
  · rename_i h
    right
    refine ⟨?_, rfl⟩
    rcases h with ⟨hjump, -⟩ | ⟨hneed, -⟩
    · rw [jumps, Bool.and_eq_true] at hjump
      exact hjump.1
    · rw [Bool.and_eq_true] at hneed
      exact hneed.1
  · exact Or.inl rfl

/-- What becomes of a notifier when a frame is appended. -/
def appended (s : BufferDispatcher) (data : DataSpec) (n : DataNotifier) : DataNotifier :=
  (s.activated data n).redirected (s.redirects data) s.rapidMode (s.lastPosition data)

theorem notifiers_appendData (s : BufferDispatcher) (data : DataSpec) :
    (s.appendData data).notifiers = s.notifiers.map (s.appended data) := by
  obtain ⟨items, keyRedirect, heq, -⟩ := appendData_eq s data
  rw [heq, listed_eq]
  exact List.map_map

theorem mem_notifiers_appendData {n' : DataNotifier} (hn' : n' ∈ (s.appendData data).notifiers) :
    ∃ n ∈ s.notifiers, n' = s.appended data n := by
  rw [notifiers_appendData] at hn'
  obtain ⟨n, hn, rfl⟩ := List.mem_map.mp hn'
  exact ⟨n, hn, rfl⟩

theorem audioIndex_appended (s : BufferDispatcher) (data : DataSpec) (n : DataNotifier) :
    (s.appended data n).audioIndex =
      if (s.audioNeedActivate && data.isAudioData) ∧ n.audioIndex = none then
        some (s.lastPosition data)
      else n.audioIndex := by
  rw [appended, DataNotifier.audioIndex_redirected, audioIndex_activated]

theorem videoIndex_appended (s : BufferDispatcher) (data : DataSpec) (n : DataNotifier) :
    (s.appended data n).videoIndex =
      if s.redirects data ∧ n.isKeyRedirectReceiver then some (s.lastPosition data)
      else (s.activated data n).videoIndex := by
  rw [appended, DataNotifier.videoIndex_redirected, DataNotifier.isKeyRedirectReceiver,
    DataNotifier.isKeyRedirectReceiver, receiver_activated]

theorem videoIndex_appended_or (s : BufferDispatcher) (data : DataSpec) (n : DataNotifier) :
    (s.appended data n).videoIndex = n.videoIndex ∨
      data.isKeyVideoFrame ∧ (s.appended data n).videoIndex = some (s.lastPosition data) := by
  rw [videoIndex_appended]
  split
  · rename_i h
    have hkey : data.isKeyVideoFrame = true ∧ s.keyRedirect = true := by
      simpa [redirects] using h.1
    exact Or.inr ⟨hkey.1, rfl⟩
  · exact videoIndex_activated_or s data n

/-- How many frames `push_back` drops by itself. -/
def selfDrops (s : BufferDispatcher) : Nat := if s.circularBuffer.size ≥ s.circularBuffer.capacity then 1 else 0

theorem selfDrops_eq_zero (h : s.circularBuffer.size < s.circularBuffer.capacity) : s.selfDrops = 0 :=
  if_neg (Nat.not_le.mpr h)

theorem items_pushBack (s : BufferDispatcher) (data : DataSpec) :
    (s.circularBuffer.pushBack data).items = s.circularBuffer.items.drop s.selfDrops ++ [data] := by
  rw [CircularBuffer.pushBack, selfDrops]
  split <;> rfl

theorem lastPosition_eq_length (s : BufferDispatcher) (data : DataSpec) :
    s.lastPosition data = (s.circularBuffer.items.drop s.selfDrops).length := by
  rw [lastPosition, CircularBuffer.size, items_pushBack, List.length_append]
  rfl

theorem items_listed (s : BufferDispatcher) (data : DataSpec) :
    (s.listed data).circularBuffer.items =
      s.circularBuffer.items.drop s.selfDrops ++ [{ data with reserveFlag := 0 }] := by
  rw [listed_eq]
  exact items_pushBack s _

/-- The new frame is last, and those before it come from the room that was made. -/
theorem getElem?_listed {p : Nat} {d : DataSpec}
    (hd : (s.listed data).circularBuffer.items[p]? = some d) :
    p < s.lastPosition data ∧ s.circularBuffer.items[s.selfDrops + p]? = some d ∨
      p = s.lastPosition data ∧ d = { data with reserveFlag := 0 } := by
  rw [items_listed] at hd
  by_cases hp : p < s.lastPosition data
  · left
    rw [lastPosition_eq_length] at hp
    rw [List.getElem?_append_left hp, List.getElem?_drop] at hd
    exact ⟨by rwa [lastPosition_eq_length], hd⟩
  · right
    rw [lastPosition_eq_length] at hp ⊢
    rw [List.getElem?_append_right (Nat.not_lt.mp hp)] at hd
    obtain ⟨hzero, hdata⟩ := List.getElem?_eq_some_iff.mp hd
    rw [List.length_singleton] at hzero
    refine ⟨by omega, ?_⟩
    rw [← hdata]
    simp

theorem frames_appendData (s : BufferDispatcher) (data : DataSpec) :
    (s.appendData data).frames = s.frames.drop s.selfDrops ++ [(data.mediaData, data.seq)] := by
  obtain ⟨items, keyRedirect, heq, hmarks⟩ := appendData_eq s data
  rw [heq]
  change items.map _ = _
  rw [hmarks.frames, items_listed, List.map_append, List.map_drop]
  rfl

theorem frames_appendData_of_lt (h : s.circularBuffer.size < s.circularBuffer.capacity)
    (data : DataSpec) : (s.appendData data).frames = s.frames ++ [(data.mediaData, data.seq)] := by
  rw [frames_appendData, selfDrops_eq_zero h, List.drop_zero]

end BufferDispatcher

end WifiDisplay
