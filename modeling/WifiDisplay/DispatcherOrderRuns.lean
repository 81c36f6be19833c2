import WifiDisplay.DispatcherActivation
import WifiDisplay.DispatcherOrderReads

/-! Delivery in order over whole runs: what a new frame and the other calls do to the
receivers, and what reads deliver in the end. -/

namespace WifiDisplay

open QueueReader

namespace History

open BufferDispatcher

variable {h h' : History} {call : Call} {mixed : Nat → Bool} {n n' : DataNotifier}

section Input

variable {m : MediaData} {r : BufferDispatcher} {n₁ : DataNotifier} {T : MediaType}

/-- A notifier in the room for a frame, reset by a flush or moved with the dropped heads. -/
def Settled (h : History) (m : MediaData) (r : BufferDispatcher) (n n₁ : DataNotifier) : Prop :=
  h.dispatcher.flushesFor m ∧ Flushes h.dispatcher.counted r ∧ n₁ = n.reset ∨
    ∃ k, ¬ h.dispatcher.flushesFor m ∧ Drops h.dispatcher.counted k r ∧ n₁ = n.shift k

theorem seq_lt_specCount (hnum : Numbered h) {attachment : Nat} {d : DataSpec}
    (hd : d ∈ h.handedTo attachment T) : d.seq < h.dispatcher.specCount := by
  obtain ⟨x, hx, -, -, rfl⟩ := mem_handedTo.mp hd
  have hlt := (List.getElem?_eq_some_iff.mp (hnum.handed x hx).1).1
  rwa [hnum.count] at hlt

theorem Served.room_behind (hserved : Served mixed h n) (hnum : Numbered h)
    (hsettled : h.Settled m r n n₁) {i : Nat} (hi : n₁.getReceiverReadIndex T = some i) :
    ReadsBehind (h.handedTo n.attachment T) (h.HasPassed n.attachment) T n.readIndex
      r.circularBuffer.items i := by
  rcases hsettled with ⟨-, -, rfl⟩ | ⟨k, -, hk, rfl⟩
  · rw [DataNotifier.getReceiverReadIndex_reset] at hi
    cases hi
  · rw [DataNotifier.getReceiverReadIndex_shift] at hi
    obtain ⟨j, hj, rfl⟩ := Option.map_eq_some_iff.mp hi
    have hdropped := ((hserved.ordered T).behind j hj).drop (increasing_items hnum) k
    obtain ⟨t, rfl⟩ := hk.eq
    exact hdropped

theorem Served.room_dormant (hserved : Served mixed h n) (hsettled : h.Settled m r n n₁)
    (hneeds : h.handedTo n.attachment T ≠ []) (hnone : n₁.getReceiverReadIndex T = none) :
    (∀ d ∈ r.circularBuffer.items, T.covers d.mediaData = false) ∧
      (T ≠ .video → r.audioNeedActivate = true) ∧ (T ≠ .audio → r.videoNeedActivate = true) ∧
        (T ≠ .audio → ¬ h.dispatcher.flushesFor m → h.dispatcher.dataMode ≠ .audioOnly →
          h.dispatcher.waitingKey = true) := by
  rcases hsettled with ⟨hf, hflushes, -⟩ | ⟨k, -, hk, rfl⟩
  · obtain ⟨t, -, rfl⟩ := hflushes
    exact ⟨fun _ hd => absurd hd List.not_mem_nil, fun _ => rfl, fun _ => rfl, fun _ hno => absurd hf hno⟩
  · rw [DataNotifier.getReceiverReadIndex_shift] at hnone
    have hdormant := (hserved.ordered T).dormant hneeds (Option.map_eq_none_iff.mp hnone)
    obtain ⟨t, rfl⟩ := hk.eq
    exact ⟨fun d hd => hdormant.absent d (List.mem_of_mem_drop hd), hdormant.audio, hdormant.video,
      fun hT _ => hdormant.waits hT⟩

theorem marks_input (hdisp : h'.dispatcher = r.appendData (h.dispatcher.newData m)) :
    Marks (fun p k => r.redirects (h.dispatcher.newData m) ∧
        (r.listed (h.dispatcher.newData m)).PassedByRedirect
          (r.lastPosition (h.dispatcher.newData m)) p k)
      (r.listed (h.dispatcher.newData m)).circularBuffer.items h'.dispatcher.circularBuffer.items := by
  obtain ⟨items, keyRedirect, heq, hmarks⟩ := appendData_eq r (h.dispatcher.newData m)
  rw [hdisp, heq]
  exact hmarks

theorem items_listed_of_room (hroom : r.circularBuffer.size < r.circularBuffer.capacity)
    (data : DataSpec) : (r.listed data).circularBuffer.items =
      r.circularBuffer.items ++ [{ data with reserveFlag := 0 }] := by
  rw [items_listed, selfDrops_eq_zero hroom, List.drop_zero]

/-- The frames of the room and the new one, with the flags that a redirection sets. -/
theorem behind_input {handed : List DataSpec} {passed : Nat → Prop} {slot i : Nat}
    (hslot : slot < 16) (hroom : r.circularBuffer.size < r.circularBuffer.capacity)
    (hdisp : h'.dispatcher = r.appendData (h.dispatcher.newData m))
    (hbehind : ReadsBehind handed passed T slot
      (r.circularBuffer.items ++ [{ h.dispatcher.newData m with reserveFlag := 0 }]) i) :
    ReadsBehind handed passed T slot h'.dispatcher.circularBuffer.items i := by
  rw [← items_listed_of_room hroom] at hbehind
  refine hbehind.change fun p e' he' => ?_
  obtain ⟨e, he, hmedia, hseq, hflag⟩ := (marks_input hdisp).2 p e' he'
  refine ⟨e, he, hseq, by rw [hmedia]; exact id, fun hmark => ?_⟩
  rw [hflag slot hslot]
  exact Or.inl hmark

/-- What a step with an accepted frame comes with. -/
structure Accepts (mixed : Nat → Bool) (h : History) (m : MediaData) (r : BufferDispatcher)
    (h' : History) : Prop where
  slots : h.dispatcher.Slots
  slots' : h'.dispatcher.Slots
  numbered : Numbered h
  numbered' : Numbered h'
  step : h.step (.inputData (some m)) = .ok h'
  accepts : h.dispatcher.accepts m
  room : h.dispatcher.roomFor m = .ok r
  disp : h'.dispatcher = r.appendData (h.dispatcher.newData m)
  free : r.circularBuffer.size < r.circularBuffer.capacity
  audioOnly : h.dispatcher.dataMode = .audioOnly → m.mediaType = .audio
  range : r.InRange

theorem Accepts.hasPassed (ha : Accepts mixed h m r h') (hn : n ∈ h.dispatcher.notifiers)
    (hn₁ : n₁ ∈ r.notifiers) (hroomed : Roomed h.dispatcher r n n₁)
    (htaken : r.Taken (h.dispatcher.newData m) n₁) {c p : Nat} (hc : n₁.videoIndex = some c)
    (hcp : c ≤ p) (hp : p < r.lastPosition (h.dispatcher.newData m)) {d : DataSpec}
    (hd : (r.listed (h.dispatcher.newData m)).circularBuffer.items[p]? = some d) :
    h'.HasPassed n.attachment d.seq := by
  rw [hasPassed_input ha.slots ha.slots' ha.numbered.increasing ha.numbered'.increasing ha.step ha.disp
    (keyRedirect_room ha.accepts ha.room) hn hn₁ hroomed hd]
  exact Or.inr ⟨htaken, hp, c, hc, by omega⟩

theorem Ordered.input_behind (hserved : Served mixed h n) (ha : Accepts mixed h m r h')
    (hn : n ∈ h.dispatcher.notifiers) (hn₁ : n₁ ∈ r.notifiers)
    (hroomed : Roomed h.dispatcher r n n₁) (hsettled : h.Settled m r n n₁) {j : Nat}
    (hj : (r.appended (h.dispatcher.newData m) n₁).getReceiverReadIndex T = some j) :
    ReadsBehind (h.handedTo n.attachment T) (h'.HasPassed n.attachment) T n.readIndex
      h'.dispatcher.circularBuffer.items j := by
  have hlast : r.lastPosition (h.dispatcher.newData m) = r.circularBuffer.size :=
    lastPosition_eq ha.free
  have hnew : ∀ q ∈ (h.handedTo n.attachment T).map (·.seq),
      q < DataSpec.seq { h.dispatcher.newData m with reserveFlag := 0 } := by
    intro q hq
    obtain ⟨d, hd, rfl⟩ := List.mem_map.mp hq
    exact seq_lt_specCount ha.numbered hd
  have hslot := ha.slots.lt n hn
  cases hi : n₁.getReceiverReadIndex T with
  | none =>
    rcases getReceiverReadIndex_appended_none r (h.dispatcher.newData m) hi with
      hnone | hsome
    · cases hnone.symm.trans hj
    · cases hsome.symm.trans hj
      by_cases hneeds : h.handedTo n.attachment T = []
      · rw [hneeds]
        exact Behind.of_nil
      · refine behind_input hslot ha.free ha.disp ?_
        rw [hlast]
        refine Behind.start (fun e he => ?_) hnew
        simpa using (hserved.room_dormant hsettled hneeds hi).1 e he
  | some i =>
    have hle := ha.range.index hn₁ hi
    have happended := ((hserved.room_behind ha.numbered hsettled hi).imp
      fun q hpass => HasPassed.step ha.step hpass).append hle hnew
    have hkept := behind_input hslot ha.free ha.disp happended
    obtain ⟨j', hj', hcases⟩ := getReceiverReadIndex_appended r (h.dispatcher.newData m)
      (fun j hj => hlast ▸ ha.range.audio n₁ hn₁ j hj) (fun j hj => hlast ▸ ha.range.video n₁ hn₁ j hj) hi
    cases hj'.symm.trans hj
    rcases hcases with rfl | ⟨hij, hjl, hc, htaken⟩
    · exact hkept
    · refine hkept.advance (increasing_items ha.numbered') hij fun p hip hp e' he' _ => ?_
      obtain ⟨e, he, -, hseq, -⟩ := (marks_input ha.disp).2 p e' he'
      rw [hseq]
      exact ha.hasPassed hn hn₁ hroomed htaken hc hip (Nat.lt_of_lt_of_le hp hjl) he

/-- A receiver that is without an index after a frame could not read that frame. -/
theorem not_activated (hnone : (r.appended (h.dispatcher.newData m) n₁).getReceiverReadIndex T = none) :
    (T ≠ .video → r.audioNeedActivate = true → (h.dispatcher.newData m).isAudioData = false) ∧
      (T ≠ .audio → r.videoNeedActivate = true → (h.dispatcher.newData m).isKeyVideoFrame = false) := by
  have hindexes : (T ≠ .video → (r.appended (h.dispatcher.newData m) n₁).audioIndex = none) ∧
      (T ≠ .audio → (r.appended (h.dispatcher.newData m) n₁).videoIndex = none) := by
    cases T with
    | audio => exact ⟨fun _ => hnone, fun hne => absurd rfl hne⟩
    | video => exact ⟨fun hne => absurd rfl hne, fun _ => hnone⟩
    | av =>
      simp only [DataNotifier.getReceiverReadIndex] at hnone
      cases hav : (r.appended (h.dispatcher.newData m) n₁).audioIndex <;>
        cases hvv : (r.appended (h.dispatcher.newData m) n₁).videoIndex <;> simp_all
  constructor
  · intro hT hneed
    have haudio := hindexes.1 hT
    rw [audioIndex_appended] at haudio
    by_contra hdata
    split at haudio
    · cases haudio
    · rename_i hno
      exact hno ⟨by simpa [hneed] using hdata, haudio⟩
  · intro hT hneed
    have hvideo := hindexes.2 hT
    rw [videoIndex_appended] at hvideo
    split at hvideo
    · cases hvideo
    · rw [videoIndex_activated] at hvideo
      by_contra hdata
      split at hvideo
      · cases hvideo
      · rename_i hno
        exact hno (Or.inr ⟨by simpa [hneed] using hdata, hvideo⟩)

theorem Accepts.getLast (ha : Accepts mixed h m r h') {d' : DataSpec}
    (hd' : d' ∈ h'.dispatcher.circularBuffer.items) :
    (∃ d ∈ r.circularBuffer.items, d'.mediaData = d.mediaData) ∨ d'.mediaData = m := by
  obtain ⟨p, hp⟩ := List.mem_iff_getElem?.mp hd'
  obtain ⟨d, hd, hmedia, -⟩ := (marks_input ha.disp).2 p d' hp
  rw [hmedia]
  have hmem := List.mem_of_getElem? hd
  rw [items_listed_of_room ha.free] at hmem
  rcases List.mem_append.mp hmem with hold | hnew
  · exact Or.inl ⟨d, hold, rfl⟩
  · rw [List.mem_singleton.mp hnew]
    exact Or.inr rfl

theorem waitingKey_appendData (r : BufferDispatcher) (data : DataSpec) :
    (r.appendData data).waitingKey = r.waitingKey := by
  obtain ⟨items, keyRedirect, heq, -⟩ := appendData_eq r data
  rw [heq, listed_eq]

theorem Ordered.input_dormant (hserved : Served mixed h n) (ha : Accepts mixed h m r h')
    (hn₁ : n₁ ∈ r.notifiers) (hsettled : h.Settled m r n n₁)
    (hneeds : h.handedTo n.attachment T ≠ [])
    (hnone : (r.appended (h.dispatcher.newData m) n₁).getReceiverReadIndex T = none) :
    h'.dispatcher.Dormant T := by
  have hlast : r.lastPosition (h.dispatcher.newData m) = r.circularBuffer.size :=
    lastPosition_eq ha.free
  have hbefore : n₁.getReceiverReadIndex T = none := by
    by_contra hsome
    obtain ⟨i, hi⟩ := Option.ne_none_iff_exists'.mp hsome
    obtain ⟨j, hj, -⟩ := getReceiverReadIndex_appended r (h.dispatcher.newData m)
      (fun j hj => hlast ▸ ha.range.audio n₁ hn₁ j hj) (fun j hj => hlast ▸ ha.range.video n₁ hn₁ j hj) hi
    cases hnone.symm.trans hj
  obtain ⟨habsent, haudio, hvideo, hwaits⟩ := hserved.room_dormant hsettled hneeds hbefore
  obtain ⟨hnotAudio, hnotKey⟩ := not_activated hnone
  have hmode : h'.dispatcher.dataMode = h.dispatcher.dataMode := by
    rw [ha.disp, dataMode_appendData, dataMode_room ha.accepts ha.room]
  have hkey (hT : T ≠ .audio) : ¬ (h.dispatcher.newData m).isKeyVideoFrame = true := by
    rw [hnotKey hT (hvideo hT)]
    decide
  have hwaiting (hT : T ≠ .audio) (hmode : h.dispatcher.dataMode ≠ .audioOnly) :
      h.dispatcher.waitingKey = true := hwaits hT (fun hf => hkey hT hf.1) hmode
  -- a frame that comes in and does not end the wait for a key frame is an audio frame
  have hframe (hT : T ≠ .audio) : (h.dispatcher.newData m).isAudioData = true := by
    by_cases hmode : h.dispatcher.dataMode = .audioOnly
    · simp [newData, DataSpec.isAudioData, ha.audioOnly hmode]
    · exact (ha.accepts.2 hmode (hwaiting hT hmode)).resolve_right (hkey hT)
  refine ⟨fun d' hd' => ?_, fun hT => ?_, fun hT => ?_, fun hT hmode' => ?_⟩
  · rcases ha.getLast hd' with ⟨d, hd, hmedia⟩ | hmedia
    · rw [hmedia]
      exact habsent d hd
    · rw [hmedia]
      have hmedia : (h.dispatcher.newData m).mediaData = m := rfl
      cases T with
      | audio =>
        have hother := hnotAudio (by decide) (haudio (by decide))
        simpa [DataSpec.isAudioData, hmedia, MediaType.covers] using hother
      | video =>
        have htype := hframe (by decide)
        simp only [DataSpec.isAudioData, hmedia, decide_eq_true_eq] at htype
        simp [MediaType.covers, htype]
      | av =>
        have htype := hframe (by decide)
        rw [hnotAudio (by decide) (haudio (by decide))] at htype
        cases htype
  · rw [ha.disp, audioNeedActivate_appendData, haudio hT, hnotAudio hT (haudio hT)]
    rfl
  · rw [ha.disp, videoNeedActivate_appendData, hvideo hT, hnotKey hT (hvideo hT)]
    rfl
  · rw [ha.disp, waitingKey_appendData]
    exact waitingKey_roomFor (hframe hT) (hwaiting hT (hmode ▸ hmode')) ha.room

theorem Served.input (hserved : Served mixed h n) (ha : Accepts mixed h m r h')
    (hn : n ∈ h.dispatcher.notifiers) (hn₁ : n₁ ∈ r.notifiers)
    (hroomed : Roomed h.dispatcher r n n₁) (hsettled : h.Settled m r n n₁) :
    Served mixed h' (r.appended (h.dispatcher.newData m) n₁) := by
  have hslot := (slot_appended r (h.dispatcher.newData m) n₁).trans hroomed.slot
  have hid : (r.appended (h.dispatcher.newData m) n₁).receiverId = n.receiverId := congrArg (·.1) hslot
  have hattachment : (r.appended (h.dispatcher.newData m) n₁).attachment = n.attachment :=
    congrArg (·.2.1) hslot
  have hreadIndex : (r.appended (h.dispatcher.newData m) n₁).readIndex = n.readIndex :=
    congrArg (·.2.2) hslot
  have hhanded := handedTo_of_none ha.step rfl n.attachment
  refine ⟨fun T hno => ?_, fun d' hd' hmark => ?_, fun T => ⟨fun j hj => ?_, fun hneeds hnone => ?_⟩⟩
  · rw [hattachment, hhanded]
    exact hserved.unread T (hid ▸ hno)
  · rw [hreadIndex] at hmark
    rw [hattachment]
    obtain ⟨p, hp⟩ := List.mem_iff_getElem?.mp hd'
    obtain ⟨d, hd, -, hseq, hflag⟩ := (marks_input ha.disp).2 p d' hp
    rw [hflag _ (ha.slots.lt n hn)] at hmark
    rw [hseq]
    rcases hmark with hmark | ⟨hredirects, hpassed⟩
    · rcases getElem?_listed hd with ⟨-, hold⟩ | ⟨-, rfl⟩
      · have hmem := items_room_subset ha.accepts ha.room (List.mem_of_getElem? hold)
        exact (hserved.marked d hmem hmark).step ha.step
      · simp at hmark
    · have hslots := ha.slots.of_sameSlots (room_sameSlots ha.accepts ha.room)
      rw [← show n₁.readIndex = n.readIndex from congrArg (·.2.2) hroomed.slot,
        passedByRedirect_iff hslots hn₁] at hpassed
      obtain ⟨hredirected, c, hc, hcp, hplast⟩ := hpassed
      rw [videoIndex_activated] at hc
      split at hc
      · cases hc
        omega
      · exact ha.hasPassed hn hn₁ hroomed (Or.inr ⟨hredirects, hredirected⟩) hc hcp hplast hd
  · rw [hattachment, hreadIndex, hhanded]
    exact Ordered.input_behind hserved ha hn hn₁ hroomed hsettled hj
  · rw [hattachment, hhanded] at hneeds
    exact Ordered.input_dormant hserved ha hn₁ hsettled hneeds hnone

end Input

/-- What holds in every state of a run in which reads are in order. -/
structure OrderKept (mixed : Nat → Bool) (h : History) : Prop where
  typed : h.dispatcher.Typed mixed
  range : h.dispatcher.InRange
  increasing : ∀ attachment type,
    ((h.handedTo attachment type).map (·.seq)).Pairwise (· < ·)
  covered : ∀ attachment type, ∀ d ∈ h.handedTo attachment type, type.covers d.mediaData = true
  served : ∀ n ∈ h.dispatcher.notifiers, Served mixed h n

section Kept

/-- A call that hands nothing over. -/
theorem OrderKept.of_unhanded (hk : OrderKept mixed h) (hok : h.dispatcher.KeepsOrder mixed call)
    (hstep : h.step call = .ok h') (hhanded : h.dispatcher.handedBy call = [])
    (hserved : ∀ n ∈ h'.dispatcher.notifiers, Served mixed h' n) : OrderKept mixed h' := by
  refine ⟨hk.typed.exec hok.keepsTypes (step_ok hstep).1,
    hk.range.exec hk.typed.keys hok.keepsTypes (step_ok hstep).1, ?_, ?_, hserved⟩
  · intro attachment type
    rw [handedTo_of_none hstep hhanded]
    exact hk.increasing attachment type
  · intro attachment type
    rw [handedTo_of_none hstep hhanded]
    exact hk.covered attachment type

theorem OrderKept.read {receiverId : Nat} {type : MediaType} (hk : OrderKept mixed h)
    (hs : h.dispatcher.Slots) (hnum : Numbered h) (hnum' : Numbered h')
    (hok : h.dispatcher.KeepsOrder mixed (.readBufferData receiverId type))
    (hstep : h.step (.readBufferData receiverId type) = .ok h') : OrderKept mixed h' := by
  have hdisp := dispatcher_of_step hstep rfl
  rcases readBufferData_spec h.dispatcher receiverId type with heq | ⟨n, i, d, hreads⟩
  · have hhanded : h.dispatcher.handedBy (.readBufferData receiverId type) = [] := by
      cases hfind : h.dispatcher.findNotifier receiverId with
      | none => simp [handedBy, hfind]
      | some n => rw [handedBy_read hfind (congrArg (·.1) heq)]; rfl
    have hsame : h'.dispatcher = h.dispatcher := by rw [hdisp, heq]
    refine hk.of_unhanded hok hstep hhanded fun n hn => ?_
    rw [hsame] at hn
    refine (hk.served n hn).carry hstep rfl (fun _ => rfl) ?_
      (fun T => handedTo_of_none hstep hhanded _ T) fun T hdormant => hsame ▸ hdormant
    rw [hsame]
    exact SameFlags.refl _ _
  obtain ⟨hn, hid⟩ := mem_of_find hreads.found
  have hserved := hk.served n hn
  refine ⟨hk.typed.exec hok.keepsTypes (step_ok hstep).1,
    hk.range.exec hk.typed.keys hok.keepsTypes (step_ok hstep).1, ?_, ?_, ?_⟩
  · intro attachment T
    rw [handedTo_read hstep hreads.found]
    by_cases hmine : attachment = n.attachment ∧ T = type
    · rw [if_pos hmine]
      rcases hreads.out with ⟨hout, -⟩ | ⟨hout, -, hunread⟩
      · rw [hout]
        simpa using hk.increasing attachment T
      · rw [flag_eq_isDataReaded hs hreads.found] at hunread
        have hlater := ((hserved.ordered type).behind i hreads.index).handed_lt hreads.data
          (by simp [hunread])
        rw [hout, Option.toList_some, List.map_append, List.map_singleton]
        refine List.pairwise_append.mpr ⟨hk.increasing attachment T, List.pairwise_singleton _ _, ?_⟩
        intro q hq q' hq'
        rw [List.mem_singleton.mp hq']
        rw [hmine.1, hmine.2] at hq
        exact hlater q hq
    · rw [if_neg hmine, List.append_nil]
      exact hk.increasing attachment T
  · intro attachment T d' hd'
    rw [handedTo_read hstep hreads.found] at hd'
    rcases List.mem_append.mp hd' with hd' | hd'
    · exact hk.covered attachment T d' hd'
    · by_cases hmine : attachment = n.attachment ∧ T = type
      · rw [if_pos hmine, Option.mem_toList] at hd'
        rw [hmine.2]
        by_cases hav : type = .av
        · simp [MediaType.covers, hav]
        · have hsingle : mixed receiverId = false := by
            by_contra hmixed
            exact hav (hok.mpr (by simpa using hmixed))
          rw [covers_of_ne_av hav]
          exact hk.typed.delivers receiverId type d' hsingle hav hd'
      · rw [if_neg hmine] at hd'
        cases hd'
  · intro n' hn'
    rw [hdisp, hreads.notifiers] at hn'
    obtain ⟨n₀, hn₀, rfl⟩ := List.mem_map.mp hn'
    by_cases hmine : n₀.receiverId = receiverId
    · have heq : n₀ = n := List.inj_on_of_nodup_map hs.ids hn₀ hn (hmine.trans hid.symm)
      rw [if_pos hmine, heq]
      exact hserved.read hs hnum hnum' hok hstep hreads
    · rw [if_neg hmine]
      exact (hk.served n₀ hn₀).read_other hs hn₀ hmine hstep hreads

/-- The receivers that stay do not notice a call that leaves the buffer and its flags alone. -/
theorem Served.carry_same (hserved : Served mixed h n) (hstep : h.step call = .ok h')
    (hhanded : h.dispatcher.handedBy call = [])
    (hitems : h'.dispatcher.circularBuffer.items = h.dispatcher.circularBuffer.items)
    (hdormant : ∀ type, h.dispatcher.Dormant type → h'.dispatcher.Dormant type) :
    Served mixed h' n := by
  refine hserved.carry hstep rfl (fun _ => rfl) ?_ (handedTo_of_none hstep hhanded _) hdormant
  rw [hitems]
  exact SameFlags.refl _ _

theorem OrderKept.attach {receiver : BufferReceiver} (hk : OrderKept mixed h) (hnum : Numbered h)
    (hok : h.dispatcher.KeepsOrder mixed (.attachReceiver receiver))
    (hstep : h.step (.attachReceiver receiver) = .ok h') : OrderKept mixed h' := by
  have hdisp := dispatcher_of_step hstep rfl
  refine hk.of_unhanded hok hstep rfl fun n hn => ?_
  rcases attachReceiver_eq h.dispatcher receiver with ⟨-, heq⟩ | ⟨hattaches, heq⟩
  · rw [heq] at hdisp
    rw [hdisp] at hn
    exact (hk.served n hn).carry_same hstep rfl (by rw [hdisp]) fun T hdormant => hdisp ▸ hdormant
  rw [heq] at hdisp
  rw [hdisp] at hn
  rcases List.mem_append.mp hn with hn | hn
  · refine (hk.served n hn).carry_same hstep rfl (by rw [hdisp]) fun T hdormant => ?_
    rw [hdisp]
    exact ⟨hdormant.absent, fun hT => by simp [hdormant.audio hT], fun hT => by simp [hdormant.video hT],
      hdormant.waits⟩
  · rw [List.mem_singleton.mp hn]
    have hunread (T : MediaType) : h'.handedTo h.dispatcher.notifierCount T = [] := by
      rw [handedTo_of_none hstep rfl]
      apply List.eq_nil_iff_forall_not_mem.mpr
      intro d hd
      obtain ⟨x, hx, hattachment, -⟩ := mem_handedTo.mp hd
      exact Nat.ne_of_lt (hnum.handed x hx).2 hattachment
    refine ⟨fun T _ => hunread T, fun d hd hmark => ?_, fun T => Ordered.of_unread (hunread T)⟩
    rw [hdisp] at hd
    have hfree := hok.2 hattaches d hd
    rw [show (h.dispatcher.newNotifier receiver).readIndex = h.dispatcher.newIndex from rfl, hfree] at hmark
    cases hmark

theorem OrderKept.detach {receiverId : Nat} (hk : OrderKept mixed h)
    (hstep : h.step (.detachReceiver receiverId) = .ok h') : OrderKept mixed h' := by
  have hdisp := dispatcher_of_step hstep rfl
  have hok : h.dispatcher.KeepsOrder mixed (.detachReceiver receiverId) := trivial
  refine hk.of_unhanded hok hstep rfl fun n hn => ?_
  rw [detachReceiver] at hdisp
  split at hdisp
  · rw [hdisp] at hn
    exact (hk.served n hn).carry_same hstep rfl (by rw [hdisp]) fun T hdormant => hdisp ▸ hdormant
  · rename_i n₀ _
    obtain ⟨recvBitRef, heq⟩ := detachNotifier_cases h.dispatcher n₀
    rw [heq] at hdisp
    rw [hdisp] at hn
    refine (hk.served n (List.mem_filter.mp hn).1).carry_same hstep rfl (by rw [hdisp]) fun T hdormant => ?_
    rw [hdisp]
    exact ⟨hdormant.absent, hdormant.audio, hdormant.video, hdormant.waits⟩

theorem OrderKept.release (hk : OrderKept mixed h) (hstep : h.step .releaseAllReceiver = .ok h') :
    OrderKept mixed h' := by
  have hdisp := dispatcher_of_step hstep rfl
  obtain ⟨recvBitRef, heq⟩ := releaseAllReceiver_eq h.dispatcher
  have hok : h.dispatcher.KeepsOrder mixed .releaseAllReceiver := trivial
  refine hk.of_unhanded hok hstep rfl fun n hn => ?_
  rw [hdisp, heq] at hn
  cases hn

theorem getLsbD_cancelled : ∀ k < 16, (0xff : BitVec 16).getLsbD k = decide (k < 8) := by decide

theorem OrderKept.cancel (hk : OrderKept mixed h) (hs : h.dispatcher.Slots)
    (hok : h.dispatcher.KeepsOrder mixed .cancelReserve)
    (hstep : h.step .cancelReserve = .ok h') : OrderKept mixed h' := by
  have hdisp := dispatcher_of_step hstep rfl
  refine hk.of_unhanded hok hstep rfl fun n hn => ?_
  rw [hdisp] at hn
  refine (hk.served n hn).carry hstep rfl (fun _ => rfl) (fun p e' he' => ?_)
    (handedTo_of_none hstep rfl _) fun T hdormant => ?_
  · rw [hdisp, cancelReserve, List.getElem?_map] at he'
    obtain ⟨e, he, rfl⟩ := Option.map_eq_some_iff.mp he'
    refine ⟨e, he, rfl, rfl, ?_⟩
    rw [hok n hn e (List.mem_of_getElem? he)]
    exact getLsbD_cancelled _ (hs.lt n hn)
  · rw [hdisp]
    exact hdormant.of_still (cancelReserve_still _)

theorem OrderKept.flush (hk : OrderKept mixed h) (hstep : h.step .flushBuffer = .ok h') :
    OrderKept mixed h' := by
  have hdisp := dispatcher_of_step hstep rfl
  have hok : h.dispatcher.KeepsOrder mixed .flushBuffer := trivial
  refine hk.of_unhanded hok hstep rfl fun n' hn' => ?_
  rw [hdisp] at hn'
  obtain ⟨n, hn, rfl⟩ := List.mem_map.mp hn'
  have hserved := hk.served n hn
  have hhanded := handedTo_of_none hstep rfl n.attachment
  refine ⟨fun T hno => ?_, fun d hd _ => ?_, fun T => ⟨fun j hj => ?_, fun _ _ => ?_⟩⟩
  · exact (hhanded T).trans (hserved.unread T hno)
  · rw [hdisp] at hd
    cases hd
  · cases (n.getReceiverReadIndex_reset T).symm.trans hj
  · rw [hdisp]
    exact Dormant.flush _ T

theorem OrderKept.input {mediaData : Option MediaData} (hk : OrderKept mixed h)
    (hs : h.dispatcher.Slots) (hnum : Numbered h) (hs' : h'.dispatcher.Slots) (hnum' : Numbered h')
    (hok : h.dispatcher.KeepsOrder mixed (.inputData mediaData))
    (hstep : h.step (.inputData mediaData) = .ok h') : OrderKept mixed h' := by
  refine hk.of_unhanded hok hstep rfl fun n' hn' => ?_
  rcases inputData_cases (step_ok hstep).1 with ⟨heq, -⟩ | ⟨m, -, -, heq⟩ | ⟨m, r, rfl, ha, hr, hdisp⟩
  · rw [heq] at hn'
    exact (hk.served n' hn').carry_same hstep rfl (by rw [heq]) fun T hdormant => heq ▸ hdormant
  · rw [heq] at hn'
    refine (hk.served n' hn').carry_same hstep rfl (by rw [heq]; rfl) fun T hdormant => ?_
    rw [heq]
    exact ⟨hdormant.absent, hdormant.audio, hdormant.video, hdormant.waits⟩
  · have haccepts : Accepts mixed h m r h' := {
      slots := hs
      slots' := hs'
      numbered := hnum
      numbered' := hnum'
      step := hstep
      accepts := ha
      room := hr
      disp := hdisp
      free := (hok.1 ha r (by simp [hr, Except.toOption])).1
      audioOnly := hok.2 ha
      range := hk.range.room ha hr }
    rw [hdisp] at hn'
    obtain ⟨n₁, hn₁, rfl⟩ := mem_notifiers_appendData hn'
    obtain ⟨n, hn, hroomed, hsettled⟩ := mem_room ha hr hn₁
    exact (hk.served n hn).input haccepts hn hn₁ hroomed hsettled

theorem OrderKept.quiet (hk : OrderKept mixed h) (hq : call.IsQuiet)
    (hok : h.dispatcher.KeepsOrder mixed call) (hstep : h.step call = .ok h') :
    OrderKept mixed h' := by
  have hquiet := exec_quiet hq (step_ok hstep).1
  have hhanded : h.dispatcher.handedBy call = [] := by
    cases call
    case readBufferData => exact hq.elim
    all_goals rfl
  refine hk.of_unhanded hok hstep hhanded fun n' hn' => ?_
  obtain ⟨n, hn, hbare⟩ := hquiet.mem hn'
  have hslot : n'.slot = n.slot := show n'.bare.slot = n.bare.slot from congrArg (·.slot) hbare
  refine (hk.served n hn).carry hstep hslot
    (DataNotifier.getReceiverReadIndex_bare hbare) ?_ (handedTo_of_none hstep hhanded _)
      fun T hdormant => hdormant.of_still hquiet.toStill
  rw [hquiet.items]
  exact SameFlags.refl _ _

theorem OrderKept.step (hk : OrderKept mixed h) (hs : h.dispatcher.Slots) (hnum : Numbered h)
    (hok : h.dispatcher.KeepsOrder mixed call) (hstep : h.step call = .ok h') :
    OrderKept mixed h' := by
  cases call
  case inputData =>
    exact hk.input hs hnum (hs.exec (step_ok hstep).1) (hnum.step hs hstep) hok hstep
  case flushBuffer => exact hk.flush hstep
  case cancelReserve => exact hk.cancel hs hok hstep
  case attachReceiver => exact hk.attach hnum hok hstep
  case detachReceiver => exact hk.detach hstep
  case releaseAllReceiver => exact hk.release hstep
  case readBufferData => exact hk.read hs hnum (hnum.step hs hstep) hok hstep
  all_goals exact hk.quiet (by trivial) hok hstep

end Kept

/-- The frames passed to `InputData` that reads of a type are about, with their numbers. -/
def inputsFor (h : History) (type : MediaType) : List (MediaData × Nat) :=
  h.inputs.zipIdx.filter fun f => type.covers f.1

/-- The frame is still to come: it counts as unread, it stands at the index or behind it,
and all that was handed over came before it. -/
structure Ahead (h : History) (n : DataNotifier) (type : MediaType) (e : DataSpec) : Prop where
  unread : e.reserveFlag.getLsbD n.readIndex = false
  index : ∃ i, n.getReceiverReadIndex type = some i ∧
    ∃ p ≥ i, h.dispatcher.circularBuffer.items[p]? = some e
  later : ∀ d ∈ h.handedTo n.attachment type, d.seq < e.seq

/-- What reads deliver: the frames handed over are a subsequence of those passed to
`InputData`, and from the first one on none that stays in the buffer is skipped, but for
the excused ones. -/
structure DeliversInOrder (excused : Nat → Nat → Prop) (h : History) : Prop where
  subsequence : ∀ attachment type,
    ((h.handedTo attachment type).map fun d => (d.mediaData, d.seq)).Sublist (h.inputsFor type)
  unskipped : ∀ n ∈ h.dispatcher.notifiers, ∀ type, ∀ d ∈ h.handedTo n.attachment type,
    ∀ e ∈ h.dispatcher.circularBuffer.items, type.covers e.mediaData = true → d.seq < e.seq →
      (∃ x ∈ h.handedTo n.attachment type, x.seq = e.seq) ∨ excused n.attachment e.seq ∨
        h.Ahead n type e

theorem increasing_inputsFor (h : History) (type : MediaType) :
    ((h.inputsFor type).map (·.2)).Pairwise (· < ·) := by
  have hall : (h.inputs.zipIdx.map (·.2)).Pairwise (· < ·) := by
    rw [List.zipIdx_map_snd]
    exact List.pairwise_lt_range'
  exact hall.sublist (List.filter_sublist.map _)

theorem OrderKept.subsequence (hk : OrderKept mixed h) (hnum : Numbered h) (attachment : Nat)
    (type : MediaType) :
    ((h.handedTo attachment type).map fun d => (d.mediaData, d.seq)).Sublist (h.inputsFor type) := by
  apply sublist_of_increasing fun f : MediaData × Nat => f.2
  · rw [List.map_map]
    exact hk.increasing attachment type
  · exact increasing_inputsFor h type
  · intro f hf
    obtain ⟨d, hd, rfl⟩ := List.mem_map.mp hf
    have hcovers := hk.covered attachment type d hd
    obtain ⟨x, hx, -, -, rfl⟩ := mem_handedTo.mp hd
    exact List.mem_filter.mpr ⟨List.mk_mem_zipIdx_iff_getElem?.mpr (hnum.handed x hx).1, hcovers⟩

/-- What was handed to a receiver that reads a type was handed to its reads of that type. -/
theorem OrderKept.handed_of_type (hk : OrderKept mixed h) (hnum : Numbered h)
    (hn : n ∈ h.dispatcher.notifiers) {type : MediaType} {d e : DataSpec}
    (hd : d ∈ h.handedTo n.attachment type) (he : e ∈ h.dispatcher.circularBuffer.items)
    (hcovers : type.covers e.mediaData = true) {x : Handed} (hx : x ∈ h.handed)
    (hattachment : x.attachment = n.attachment) (hseq : x.data.seq = e.seq) :
    ∃ y ∈ h.handedTo n.attachment type, y.seq = e.seq := by
  have hmem : x.data ∈ h.handedTo n.attachment x.type := mem_handedTo.mpr ⟨x, hx, hattachment, rfl, rfl⟩
  have hreads {T : MediaType} {y : DataSpec} (hy : y ∈ h.handedTo n.attachment T) :
      T = .av ↔ mixed n.receiverId = true := by
    by_contra hno
    rw [(hk.served n hn).unread T hno] at hy
    cases hy
  have htype : x.type = type := by
    have hboth := (hreads hmem).trans (hreads hd).symm
    by_cases hav : type = .av
    · rw [hav, hboth.mpr hav]
    · have hmedia : x.data.mediaData = e.mediaData := by
        have hinput := (hnum.handed x hx).1
        rw [hseq, hnum.frame he] at hinput
        exact (Option.some_inj.mp hinput).symm
      have hxcovers := hk.covered n.attachment x.type x.data hmem
      rw [covers_of_ne_av (fun h => hav (hboth.mp h)), hmedia] at hxcovers
      rw [covers_of_ne_av hav] at hcovers
      exact hxcovers.symm.trans hcovers
  exact ⟨x.data, htype ▸ hmem, hseq⟩

theorem OrderKept.unskipped (hk : OrderKept mixed h) (hnum : Numbered h)
    (hn : n ∈ h.dispatcher.notifiers) {type : MediaType} {d e : DataSpec}
    (hd : d ∈ h.handedTo n.attachment type) (he : e ∈ h.dispatcher.circularBuffer.items)
    (hcovers : type.covers e.mediaData = true) (hlt : d.seq < e.seq) :
    (∃ x ∈ h.handedTo n.attachment type, x.seq = e.seq) ∨ (n.attachment, e.seq) ∈ h.passed ∨
      h.Ahead n type e := by
  have hserved := hk.served n hn
  have hordered := hserved.ordered type
  by_cases hpassed : h.HasPassed n.attachment e.seq
  · rcases hpassed with ⟨x, hx, hattachment, hseq⟩ | hpassed
    · exact Or.inl (hk.handed_of_type hnum hn hd he hcovers hx hattachment hseq)
    · exact Or.inr (Or.inl hpassed)
  right; right
  have hunread : ¬ e.reserveFlag.getLsbD n.readIndex = true :=
    fun hmark => hpassed (hserved.marked e he hmark)
  obtain ⟨p, hp⟩ := List.mem_iff_getElem?.mp he
  cases hi : n.getReceiverReadIndex type with
  | none =>
    have habsent := (hordered.dormant (List.ne_nil_of_mem hd) hi).absent e he
    rw [hcovers] at habsent
    cases habsent
  | some i =>
    obtain ⟨hip, hlater⟩ := (hordered.behind i hi).ahead (increasing_items hnum) hp hcovers hunread
      (List.mem_map_of_mem hd) (Nat.le_of_lt hlt) hpassed
    exact ⟨by simpa using hunread, ⟨i, hi, p, hip, hp⟩, fun x hx => hlater _ (List.mem_map_of_mem hx)⟩

instance (s : BufferDispatcher) (call : Call) : Decidable (s.KeepsOrder mixed call) :=
  match call with
  | .inputData (some m) =>
    inferInstanceAs (Decidable (s.KeepsTypes mixed (.inputData (some m)) ∧ (_ → _ → _)))
  | .attachReceiver receiver => inferInstanceAs (Decidable (s.KeepsTypes mixed (.attachReceiver receiver) ∧
      (_ → ∀ d ∈ s.circularBuffer.items, _)))
  | .readBufferData _ _ => inferInstanceAs (Decidable (_ ↔ _))
  | .cancelReserve =>
    inferInstanceAs (Decidable (∀ n ∈ s.notifiers, ∀ d ∈ s.circularBuffer.items, _ = _))
  | .inputData none | .flushBuffer | .setBufferCapacity _ | .enableKeyMode _ | .enableRapidMode _
  | .enableKeyRedirect _ | .detachReceiver _ | .releaseAllReceiver | .requestRead _ _ | .awaitData _ _
  | .clearDataBit _ _ | .clearReadBit _ _ | .notifyReadReady _ _ | .notifyReadStart _
  | .notifyReadStop _ | .enableReceiverKeyMode _ _ | .enableReceiverKeyRedirect _ _ | .expire _
  | .notifyThreadWorker => isTrue trivial

/-- In every run whose calls meet the condition, reads deliver in order and skip no frame
but those that a receiver passes in key mode or by a redirection. -/
theorem run_deliversInOrder {maxCapacity capacityIncrement : Nat} {dataMode : MediaDispacherMode}
    {calls : List Call} (run : History.Run (fun h call => h.dispatcher.KeepsOrder mixed call)
      maxCapacity capacityIncrement dataMode calls h) :
    h.DeliversInOrder fun attachment seq => (attachment, seq) ∈ h.passed := by
  have hkept : OrderKept mixed h ∧ h.dispatcher.Slots ∧ Numbered h := by
    apply GuardedRun.invariant (I := fun h => OrderKept mixed h ∧ h.dispatcher.Slots ∧ Numbered h) _ _ run
    · refine ⟨?_, Slots.create .., Numbered.create ..⟩
      exact ⟨⟨List.nil_suffix, by simp [BufferDispatcher.create]⟩,
        ⟨by simp [BufferDispatcher.create], by simp [BufferDispatcher.create],
          by simp [BufferDispatcher.create]⟩,
        by simp [handedTo], by simp [handedTo], by simp [BufferDispatcher.create]⟩
    · rintro h call h' ⟨hk, hs, hnum⟩ hok hstep
      exact ⟨hk.step hs hnum hok hstep, hs.exec (step_ok hstep).1, hnum.step hs hstep⟩
  obtain ⟨hk, -, hnum⟩ := hkept
  exact ⟨hk.subsequence hnum, fun n hn type d hd e he hcovers hlt => hk.unskipped hnum hn hd he hcovers hlt⟩

/-- A receiver reads a key frame, leaves the next frame and is redirected to the second key. -/
def redirectCalls : List Call :=
  [.attachReceiver { receiverId := 1 }, .key, .video, .readBufferData 1 .video,
    .enableReceiverKeyRedirect 1 true, .key, .readBufferData 1 .video]

/-- The frame between the two keys stays in the buffer and is not handed over any more,
though no receiver is in key mode and the buffer is never full. -/
theorem redirect_not_deliversInOrder :
    ¬ ∀ maxCapacity capacityIncrement dataMode calls h,
      History.Run (fun h _ => (∀ n ∈ h.dispatcher.notifiers, h.dispatcher.keyMode n = false) ∧
          h.dispatcher.circularBuffer.size < h.dispatcher.circularBuffer.capacity)
        maxCapacity capacityIncrement dataMode calls h → h.DeliversInOrder fun _ _ => False := by
  intro hall
  obtain ⟨h, hrun⟩ := Option.isSome_iff_exists.mp
    (show (History.runOf (fun h _ => (∀ n ∈ h.dispatcher.notifiers, h.dispatcher.keyMode n = false) ∧
      h.dispatcher.circularBuffer.size < h.dispatcher.circularBuffer.capacity) redirectCalls).isSome by
        decide +kernel)
  have hskips : (History.runOf (fun h _ => (∀ n ∈ h.dispatcher.notifiers,
      h.dispatcher.keyMode n = false) ∧
      h.dispatcher.circularBuffer.size < h.dispatcher.circularBuffer.capacity) redirectCalls).all fun h =>
        ∃ n ∈ h.dispatcher.notifiers, ∃ d ∈ h.handedTo n.attachment .video,
          ∃ e ∈ h.dispatcher.circularBuffer.items, MediaType.video.covers e.mediaData = true ∧
            d.seq < e.seq ∧ (∀ x ∈ h.handedTo n.attachment .video, x.seq ≠ e.seq) ∧
              e.reserveFlag.getLsbD n.readIndex = true := by
    decide +kernel
  rw [hrun] at hskips
  obtain ⟨n, hn, d, hd, e, he, hcovers, hlt, hno, hmark⟩ := of_decide_eq_true hskips
  have hright := hall _ _ _ _ h (GuardedRun.of_check hrun)
  rcases hright.unskipped n hn .video d hd e he hcovers hlt with ⟨x, hx, hseq⟩ | hnever | hahead
  · exact hno x hx hseq
  · exact hnever
  · rw [hahead.unread] at hmark
    cases hmark

/-- A receiver of audio and of video reads all that comes. -/
theorem run_twoTypes_deliversInOrder :
    ∃ h, History.Run (fun h call => h.dispatcher.KeepsOrder (fun _ => false) call) MAX_BUFFER_CAPACITY
        BUFFER_CAPACITY_INCREMENT .videoAudioMixed
        [.attachReceiver { receiverId := 1 }, .key, .audio, .video, .readBufferData 1 .video,
          .readBufferData 1 .audio, .readBufferData 1 .video, .key, .readBufferData 1 .video,
          .readBufferData 1 .video] h ∧
      (h.handedTo 0 .video).map (·.seq) = [0, 2, 3] ∧
      h.DeliversInOrder fun attachment seq => (attachment, seq) ∈ h.passed := by
  obtain ⟨h, hrun⟩ := Option.isSome_iff_exists.mp
    (show (History.runOf (fun h call => h.dispatcher.KeepsOrder (fun _ => false) call)
      [.attachReceiver { receiverId := 1 }, .key, .audio, .video, .readBufferData 1 .video,
        .readBufferData 1 .audio, .readBufferData 1 .video, .key, .readBufferData 1 .video,
        .readBufferData 1 .video]).isSome by
        decide +kernel)
  have hhanded : (History.runOf (fun h call => h.dispatcher.KeepsOrder (fun _ => false) call)
      [.attachReceiver { receiverId := 1 }, .key, .audio, .video, .readBufferData 1 .video,
        .readBufferData 1 .audio, .readBufferData 1 .video, .key, .readBufferData 1 .video,
        .readBufferData 1 .video]).all fun h =>
        (h.handedTo 0 .video).map (·.seq) = [0, 2, 3] := by decide +kernel
  rw [hrun] at hhanded
  exact ⟨h, GuardedRun.of_check hrun, by simpa using hhanded, run_deliversInOrder (GuardedRun.of_check hrun)⟩

end History

end WifiDisplay
