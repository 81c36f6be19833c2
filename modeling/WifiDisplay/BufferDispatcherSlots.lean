import WifiDisplay.BufferDispatcherWrites

/-! The slots of the receivers: each attached receiver owns one bit of `readRefFlag_`. -/

namespace WifiDisplay

namespace DataNotifier

/-- What stays of a notifier as long as it is attached. -/
def slot (n : DataNotifier) : Nat × Nat × Nat := (n.receiverId, n.attachment, n.readIndex)

end DataNotifier

/-- The calls by which receivers come and go. -/
def Call.Moves : Call → Prop
  | .attachReceiver _ | .detachReceiver _ | .releaseAllReceiver => True
  | _ => False

namespace BufferDispatcher

variable {s s' : BufferDispatcher} {call : Call}

/-- The receivers have different ids and slots, and their slots are taken. -/
structure Slots (s : BufferDispatcher) : Prop where
  ids : (s.notifiers.map (·.receiverId)).Nodup
  slots : (s.notifiers.map (·.readIndex)).Nodup
  attachments : (s.notifiers.map (·.attachment)).Nodup
  lt : ∀ n ∈ s.notifiers, n.readIndex < 16
  taken : ∀ n ∈ s.notifiers, s.readRefFlag.getLsbD n.readIndex = true
  attached : ∀ n ∈ s.notifiers, n.attachment < s.notifierCount

/-- No receiver comes or goes. -/
structure SameSlots (s s' : BufferDispatcher) : Prop where
  slots : s'.notifiers.map (·.slot) = s.notifiers.map (·.slot)
  readRefFlag : s'.readRefFlag = s.readRefFlag
  notifierCount : s'.notifierCount = s.notifierCount

theorem SameSlots.mem (h : SameSlots s s') {n' : DataNotifier} (hn' : n' ∈ s'.notifiers) :
    ∃ n ∈ s.notifiers, n.slot = n'.slot := by
  have hmem : n'.slot ∈ s.notifiers.map (·.slot) := h.slots ▸ List.mem_map_of_mem hn'
  obtain ⟨n, hn, heq⟩ := List.mem_map.mp hmem
  exact ⟨n, hn, heq⟩

theorem SameSlots.map {f : DataNotifier → DataNotifier} (hf : ∀ n, (f n).slot = n.slot)
    (hn : s'.notifiers = s.notifiers.map f) (hflag : s'.readRefFlag = s.readRefFlag)
    (hcount : s'.notifierCount = s.notifierCount) : SameSlots s s' := by
  refine ⟨?_, hflag, hcount⟩
  rw [hn, List.map_map]
  exact List.map_congr_left fun n _ => hf n

theorem Slots.of_sameSlots (hs : Slots s) (h : SameSlots s s') : Slots s' := by
  have hmap {β : Type} (f : Nat × Nat × Nat → β) :
      s'.notifiers.map (fun n => f n.slot) = s.notifiers.map fun n => f n.slot := by
    have heq := congrArg (List.map f) h.slots
    rw [List.map_map, List.map_map] at heq
    exact heq
  refine ⟨?_, ?_, ?_, ?_, ?_, ?_⟩
  · exact (hmap (·.1)) ▸ hs.ids
  · exact (hmap (·.2.2)) ▸ hs.slots
  · exact (hmap (·.2.1)) ▸ hs.attachments
  · intro n' hn'
    obtain ⟨n, hn, heq⟩ := h.mem hn'
    have hindex : n.readIndex = n'.readIndex := congrArg (·.2.2) heq
    exact hindex ▸ hs.lt n hn
  · intro n' hn'
    obtain ⟨n, hn, heq⟩ := h.mem hn'
    have hindex : n.readIndex = n'.readIndex := congrArg (·.2.2) heq
    rw [h.readRefFlag, ← hindex]
    exact hs.taken n hn
  · intro n' hn'
    obtain ⟨n, hn, heq⟩ := h.mem hn'
    have hattachment : n.attachment = n'.attachment := congrArg (·.2.1) heq
    rw [h.notifierCount, ← hattachment]
    exact hs.attached n hn

/-- A notifier is found under its receiver's id. -/
theorem Slots.find (hs : Slots s) {n : DataNotifier} (hn : n ∈ s.notifiers) :
    s.findNotifier n.receiverId = some n := by
  have hsome : (s.findNotifier n.receiverId).isSome := by
    rw [findNotifier, List.find?_isSome]
    exact ⟨n, hn, by simp⟩
  obtain ⟨m, hm⟩ := Option.isSome_iff_exists.mp hsome
  have hid : m.receiverId = n.receiverId := by simpa using List.find?_some hm
  have heq : m = n := List.inj_on_of_nodup_map hs.ids (List.mem_of_find?_eq_some hm) hn hid
  rw [hm, heq]

theorem mem_of_find {receiverId : Nat} {n : DataNotifier} (h : s.findNotifier receiverId = some n) :
    n ∈ s.notifiers ∧ n.receiverId = receiverId :=
  ⟨List.mem_of_find?_eq_some h, by simpa using List.find?_some h⟩

theorem Slots.findIndex (hs : Slots s) {n : DataNotifier} (hn : n ∈ s.notifiers) :
    s.findReceiverIndex n.receiverId = some n.readIndex := by
  rw [findReceiverIndex, hs.find hn]
  rfl

theorem Slots.eq_of_index (hs : Slots s) {n m : DataNotifier} (hn : n ∈ s.notifiers)
    (hm : m ∈ s.notifiers) (h : n.readIndex = m.readIndex) : n = m :=
  List.inj_on_of_nodup_map hs.slots hn hm h

theorem Slots.eq_of_attachment (hs : Slots s) {n m : DataNotifier} (hn : n ∈ s.notifiers)
    (hm : m ∈ s.notifiers) (h : n.attachment = m.attachment) : n = m :=
  List.inj_on_of_nodup_map hs.attachments hn hm h

/-- The slot that a new receiver gets. -/
def newIndex (s : BufferDispatcher) : Nat := Nat.log2 s.usableRef.toNat

theorem usableRef_eq (h : s.readRefFlag ≠ 0xFFFF) : s.newIndex < 16 ∧
    s.readRefFlag.getLsbD s.newIndex = false ∧ s.usableRef = BitVec.twoPow 32 s.newIndex := by
  have hfree : ∃ j < 16, s.readRefFlag.getLsbD j = false := by
    by_contra hno
    apply h
    apply BitVec.eq_of_getLsbD_eq
    intro j hj
    have hset : s.readRefFlag.getLsbD j = true := by
      by_contra hj'
      exact hno ⟨j, hj, by simpa using hj'⟩
    rw [hset, show (0xFFFF : BitVec 16) = BitVec.allOnes 16 from rfl, BitVec.getLsbD_allOnes]
    simp [hj]
  obtain ⟨j, hj, hbit⟩ := hfree
  have hnonzero : ~~~(s.readRefFlag.setWidth 32) ≠ 0 := by
    intro hzero
    have hj' := congrArg (·.getLsbD j) hzero
    simp [hbit] at hj'
    omega
  obtain ⟨i, hi, hset, hleast, heq⟩ := and_neg_eq_twoPow hnonzero
  have hindex : s.newIndex = i := by
    rw [newIndex, usableRef, heq, BitVec.toNat_twoPow_of_lt hi, Nat.log2_two_pow]
  have hi16 : i < 16 := by
    by_contra hge
    have hlow := hleast j (by omega)
    simp [hbit] at hlow
    omega
  refine ⟨hindex ▸ hi16, ?_, hindex ▸ heq⟩
  rw [hindex]
  simpa [hi, hi16] using hset

/-- The receiver is attached by `AttachReceiver`. -/
def Attaches (s : BufferDispatcher) (receiver : BufferReceiver) : Prop :=
  s.findNotifier receiver.receiverId = none ∧ s.readRefFlag ≠ 0xFFFF

instance (s : BufferDispatcher) (receiver : BufferReceiver) : Decidable (s.Attaches receiver) :=
  inferInstanceAs (Decidable (_ ∧ _))

theorem findReceiverIndex_append {n : DataNotifier} (h : s.findNotifier n.receiverId = none)
    (hs' : s'.notifiers = s.notifiers ++ [n]) :
    s'.findReceiverIndex n.receiverId = some n.readIndex := by
  have hnone : s.notifiers.find? (·.receiverId = n.receiverId) = none := h
  simp [findReceiverIndex, findNotifier, hs', List.find?_append, hnone]

theorem attachReceiver_eq (s : BufferDispatcher) (receiver : BufferReceiver) :
    ¬ s.Attaches receiver ∧ s.attachReceiver receiver = s ∨
    s.Attaches receiver ∧ s.attachReceiver receiver =
      { s with
          notifierCount := s.notifierCount + 1
          readRefFlag := setFlag s.readRefFlag s.newIndex true
          notifiers := s.notifiers ++ [s.newNotifier receiver]
          dataBitRef := setTypeFlag (setTypeFlag s.dataBitRef s.newIndex .audio s.attachDataRefs.1)
            s.newIndex .video s.attachDataRefs.2
          videoNeedActivate := s.videoNeedActivate || s.circularBuffer.items.isEmpty
          audioNeedActivate := s.audioNeedActivate || s.circularBuffer.items.isEmpty ||
            decide (s.dataMode ≠ .audioOnly ∧ s.lastAudioIndex = none) } := by
  by_cases hfind : s.findNotifier receiver.receiverId = none
  · by_cases hfull : s.readRefFlag = 0xFFFF
    · left
      refine ⟨fun h => h.2 hfull, ?_⟩
      rw [attachReceiver, hfind, if_neg (by simp), if_pos hfull]
    right
    obtain ⟨hlt, -, href⟩ := usableRef_eq hfull
    refine ⟨⟨hfind, hfull⟩, ?_⟩
    have hpow : ¬ s.usableRef &&& (s.usableRef - 1) ≠ 0 := by
      rw [href, twoPow_and_pred (by omega)]
      simp
    have hflag : s.usableRef.setWidth 16 = BitVec.twoPow 16 s.newIndex := by
      rw [href]
      apply BitVec.eq_of_getLsbD_eq
      intro j hj
      simp only [BitVec.getLsbD_setWidth, BitVec.getLsbD_twoPow, hj, decide_true, Bool.true_and]
      have h16 : s.newIndex < 16 ∧ s.newIndex < 32 := ⟨hlt, by omega⟩
      simp [h16]
    have hindex {t : BufferDispatcher} (ht : t.notifiers = s.notifiers ++ [s.newNotifier receiver]) :
        t.findReceiverIndex receiver.receiverId = some s.newIndex :=
      findReceiverIndex_append (n := s.newNotifier receiver) hfind ht
    rw [attachReceiver, hfind, if_neg (by simp), if_neg hfull, if_neg hpow, hflag]
    have hset {t : BufferDispatcher} (ht : t.notifiers = s.notifiers ++ [s.newNotifier receiver])
        (type : MediaType) (ready : Bool) : t.setReceiverDataRef receiver.receiverId type ready =
          { t with dataBitRef := setTypeFlag t.dataBitRef s.newIndex type ready } := by
      rw [setReceiverDataRef, hindex ht]
    simp only [hset]
    by_cases hempty : s.circularBuffer.items = []
    · simp [hempty, setFlag]
    · have hempty' : s.circularBuffer.items.isEmpty = false := by simpa using hempty
      rw [if_neg hempty, hempty']
      by_cases hlast : s.dataMode ≠ .audioOnly ∧ s.lastAudioIndex = none
      · simp [hlast, setFlag]
      · have hlast' : decide (s.dataMode ≠ .audioOnly ∧ s.lastAudioIndex = none) = false := by
          simpa using hlast
        rw [if_neg hlast, hlast']
        simp [setFlag]
  · left
    refine ⟨fun h => hfind h.1, ?_⟩
    rw [attachReceiver, if_pos (Option.isSome_iff_ne_none.mpr hfind)]

theorem setReceiverReadRef_eq {receiverId index : Nat} (h : s.findReceiverIndex receiverId = some index)
    (type : MediaType) (ready : Bool) : s.setReceiverReadRef receiverId type ready =
      { s with recvBitRef := setTypeFlag s.recvBitRef index type ready } := by
  rw [setReceiverReadRef, h]

theorem detachNotifier_eq {n : DataNotifier} (h : s.findReceiverIndex n.receiverId = some n.readIndex) :
    s.detachNotifier n =
      { s with
          recvBitRef := setTypeFlag (setTypeFlag s.recvBitRef n.readIndex .audio false)
            n.readIndex .video false
          readRefFlag := setFlag s.readRefFlag n.readIndex false
          notifiers := s.notifiers.filter (·.receiverId ≠ n.receiverId) } := by
  rw [detachNotifier, setReceiverReadRef_eq h, setReceiverReadRef_eq]
  exact h

/-- `DetachReceiver` of a notifier that has left already only clears its slot. -/
theorem detachNotifier_cases (s : BufferDispatcher) (n : DataNotifier) :
    ∃ recvBitRef, s.detachNotifier n =
      { s with
          recvBitRef
          readRefFlag := setFlag s.readRefFlag n.readIndex false
          notifiers := s.notifiers.filter (·.receiverId ≠ n.receiverId) } := by
  cases h : s.findReceiverIndex n.receiverId with
  | none => exact ⟨s.recvBitRef, by simp only [detachNotifier, setReceiverReadRef, h]⟩
  | some index =>
    refine ⟨setTypeFlag (setTypeFlag s.recvBitRef index .audio false) index .video false, ?_⟩
    rw [detachNotifier, setReceiverReadRef_eq h, setReceiverReadRef_eq]
    exact h

theorem releaseAllReceiver_eq (s : BufferDispatcher) :
    ∃ recvBitRef, s.releaseAllReceiver =
      { s with
          recvBitRef
          readRefFlag := s.releaseAllReceiver.readRefFlag
          notifiers := [] } := by
  have hfold (ns : List DataNotifier) (s : BufferDispatcher) : ∃ recvBitRef readRefFlag notifiers,
      ns.foldl detachNotifier s = { s with recvBitRef, readRefFlag, notifiers } := by
    induction ns generalizing s with
    | nil => exact ⟨_, _, _, rfl⟩
    | cons n ns ih =>
      obtain ⟨recvBitRef, heq⟩ := detachNotifier_cases s n
      rw [List.foldl_cons, heq]
      exact ih _
  obtain ⟨recvBitRef, readRefFlag, notifiers, heq⟩ := hfold (s.notifiers.filter (·.receiver.isSome)) s
  refine ⟨recvBitRef, ?_⟩
  rw [releaseAllReceiver, heq]

theorem readRefFlag_releaseAllReceiver {k : Nat} (hk : k < 16)
    (h : s.releaseAllReceiver.readRefFlag.getLsbD k = true) :
    s.readRefFlag.getLsbD k = true ∧
      ∀ n ∈ s.notifiers, n.receiver.isSome → n.readIndex ≠ k := by
  have hfold (ns : List DataNotifier) (s : BufferDispatcher)
      (h : (ns.foldl detachNotifier s).readRefFlag.getLsbD k = true) :
      s.readRefFlag.getLsbD k = true ∧ ∀ n ∈ ns, n.readIndex ≠ k := by
    induction ns generalizing s with
    | nil => exact ⟨h, by simp⟩
    | cons n ns ih =>
      obtain ⟨hbit, hns⟩ := ih _ h
      obtain ⟨recvBitRef, heq⟩ := detachNotifier_cases s n
      rw [heq, getLsbD_setFlag] at hbit
      by_cases hn : k = n.readIndex ∧ n.readIndex < 16
      · rw [if_pos hn] at hbit
        cases hbit
      · rw [if_neg hn] at hbit
        refine ⟨hbit, fun n' hn' => ?_⟩
        rcases List.mem_cons.mp hn' with rfl | hn'
        · rintro rfl
          exact hn ⟨rfl, hk⟩
        · exact hns n' hn'
  obtain ⟨hbit, hns⟩ := hfold _ s h
  exact ⟨hbit, fun n hn halive => hns n (List.mem_filter.mpr ⟨hn, halive⟩)⟩

theorem slot_redirected (need rapidMode : Bool) (last : Nat) (n : DataNotifier) :
    (n.redirected need rapidMode last).slot = n.slot := by
  rw [DataNotifier.redirected]
  split <;> rfl

theorem slot_activated (s : BufferDispatcher) (data : DataSpec) (n : DataNotifier) :
    (s.activated data n).slot = n.slot := by
  simp only [activated, DataNotifier.activateVideo, DataNotifier.activateAudio, DataNotifier.keyJump]
  repeat' split
  all_goals rfl

theorem slot_appended (s : BufferDispatcher) (data : DataSpec) (n : DataNotifier) :
    (s.appended data n).slot = n.slot := by
  rw [appended, slot_redirected, slot_activated]

theorem listed_sameSlots (s : BufferDispatcher) (data : DataSpec) : SameSlots s (s.listed data) := by
  rw [listed_eq]
  exact SameSlots.map (slot_activated s data) rfl rfl rfl

theorem appendData_sameSlots (s : BufferDispatcher) (data : DataSpec) :
    SameSlots s (s.appendData data) := by
  obtain ⟨items, keyRedirect, heq, -⟩ := appendData_eq s data
  refine SameSlots.map (slot_appended s data) (notifiers_appendData s data) ?_ ?_
  · rw [heq, listed_eq]
  · rw [heq, listed_eq]

theorem SameSlots.refl (s : BufferDispatcher) : SameSlots s s := ⟨rfl, rfl, rfl⟩

theorem SameSlots.trans {s'' : BufferDispatcher} (h : SameSlots s s') (h' : SameSlots s' s'') :
    SameSlots s s'' :=
  ⟨h'.slots.trans h.slots, h'.readRefFlag.trans h.readRefFlag, h'.notifierCount.trans h.notifierCount⟩

theorem Drops.sameSlots {n : Nat} (h : Drops s n s') : SameSlots s s' := by
  obtain ⟨t, rfl⟩ := h.eq
  exact SameSlots.map (f := (·.shift n)) (fun _ => rfl) rfl rfl rfl

theorem Flushes.sameSlots (h : Flushes s s') : SameSlots s s' := by
  obtain ⟨t, -, rfl⟩ := h
  exact SameSlots.map (f := (·.reset)) (fun _ => rfl) rfl rfl rfl

theorem Quiet.sameSlots (h : Quiet s s') : SameSlots s s' := by
  refine ⟨?_, h.readRefFlag, h.notifierCount⟩
  have heq := congrArg (List.map DataNotifier.slot) h.notifiers
  rw [List.map_map, List.map_map] at heq
  exact heq

theorem room_sameSlots {m : MediaData} (ha : s.accepts m) (hr : s.roomFor m = .ok s') :
    SameSlots s s' := by
  have hcounted : SameSlots s s.counted := ⟨rfl, rfl, rfl⟩
  apply hcounted.trans
  by_cases hf : s.flushesFor m
  · exact (roomFor_flushes hf hr).sameSlots
  · obtain ⟨n, hn⟩ := roomFor_drops ha hf hr
    exact hn.sameSlots

theorem inputData_sameSlots {mediaData : Option MediaData} (h : s.inputData mediaData = .ok s') :
    SameSlots s s' := by
  rcases inputData_cases h with ⟨rfl, -⟩ | ⟨m, -, -, rfl⟩ | ⟨m, r, -, ha, hr, rfl⟩
  · exact SameSlots.refl _
  · exact ⟨rfl, rfl, rfl⟩
  · exact (room_sameSlots ha hr).trans (appendData_sameSlots r _)

theorem slot_setReadIndexes (n : DataNotifier) (index : Index) (type : MediaType) :
    (n.setReadIndexes index type).slot = n.slot := by cases type <;> rfl

theorem readBufferData_sameSlots (s : BufferDispatcher) (receiverId : Nat) (type : MediaType) :
    SameSlots s (s.readBufferData receiverId type).2 := by
  rcases readBufferData_spec s receiverId type with h | ⟨n, i, d, hreads⟩
  · rw [h]
    exact SameSlots.refl s
  · refine SameSlots.map (fun n' => ?_) hreads.notifiers hreads.still.readRefFlag
      hreads.still.notifierCount
    by_cases hid : n'.receiverId = receiverId
    · rw [if_pos hid, slot_setReadIndexes]
    · rw [if_neg hid]

theorem exec_sameSlots (hmoves : ¬ call.Moves) (h : s.exec call = .ok s') : SameSlots s s' := by
  cases call
  case attachReceiver | detachReceiver | releaseAllReceiver => exact absurd trivial hmoves
  case inputData => exact inputData_sameSlots h
  case flushBuffer =>
    cases h
    exact (flushBuffer_flushes s).sameSlots
  case cancelReserve =>
    cases h
    exact ⟨rfl, rfl, rfl⟩
  case readBufferData =>
    cases h
    exact readBufferData_sameSlots s _ _
  all_goals exact (exec_quiet (by trivial) h).sameSlots

theorem Slots.create (maxCapacity capacityIncrement : Nat) (dataMode : MediaDispacherMode) :
    Slots (create maxCapacity capacityIncrement dataMode) := by
  constructor <;> simp [BufferDispatcher.create]

theorem Slots.attach {receiver : BufferReceiver} (hs : Slots s) (ha : s.Attaches receiver) :
    Slots (s.attachReceiver receiver) := by
  obtain ⟨hlt, hfree, -⟩ := usableRef_eq ha.2
  rcases attachReceiver_eq s receiver with ⟨hno, -⟩ | ⟨-, heq⟩
  · exact absurd ha hno
  have hnew (n : DataNotifier) (hn : n ∈ s.notifiers) : n.receiverId ≠ receiver.receiverId := by
    intro hid
    have hnone := List.find?_eq_none.mp ha.1 n hn
    simp [hid] at hnone
  have hother (n : DataNotifier) (hn : n ∈ s.notifiers) : n.readIndex ≠ s.newIndex := by
    intro hindex
    rw [← hindex, hs.taken n hn] at hfree
    cases hfree
  rw [heq]
  constructor
  · simp only [List.map_append, List.map_cons, List.map_nil]
    refine List.nodup_append.mpr ⟨hs.ids, by simp, ?_⟩
    intro id hid id' hid'
    obtain ⟨n, hn, rfl⟩ := List.mem_map.mp hid
    rw [List.mem_singleton.mp hid']
    exact hnew n hn
  · simp only [List.map_append, List.map_cons, List.map_nil]
    refine List.nodup_append.mpr ⟨hs.slots, by simp, ?_⟩
    intro index hindex index' hindex'
    obtain ⟨n, hn, rfl⟩ := List.mem_map.mp hindex
    rw [List.mem_singleton.mp hindex']
    exact hother n hn
  · simp only [List.map_append, List.map_cons, List.map_nil]
    refine List.nodup_append.mpr ⟨hs.attachments, by simp, ?_⟩
    intro a ha' a' ha''
    obtain ⟨n, hn, rfl⟩ := List.mem_map.mp ha'
    rw [List.mem_singleton.mp ha'']
    exact Nat.ne_of_lt (hs.attached n hn)
  · intro n hn
    rcases List.mem_append.mp hn with hn | hn
    · exact hs.lt n hn
    · rw [List.mem_singleton.mp hn]
      exact hlt
  · intro n hn
    rcases List.mem_append.mp hn with hn | hn
    · simp [hs.taken n hn]
    · rw [List.mem_singleton.mp hn]
      have hindex : (s.newNotifier receiver).readIndex = s.newIndex := rfl
      simp [hindex, hlt]
  · intro n hn
    rcases List.mem_append.mp hn with hn | hn
    · exact Nat.lt_succ_of_lt (hs.attached n hn)
    · rw [List.mem_singleton.mp hn]
      exact Nat.lt_succ_self s.notifierCount

theorem Slots.detach {n : DataNotifier} (hs : Slots s) (hn : n ∈ s.notifiers) :
    Slots (s.detachNotifier n) := by
  rw [detachNotifier_eq (hs.findIndex hn)]
  constructor
  · exact hs.ids.sublist (List.filter_sublist.map _)
  · exact hs.slots.sublist (List.filter_sublist.map _)
  · exact hs.attachments.sublist (List.filter_sublist.map _)
  · exact fun m hm => hs.lt m (List.mem_filter.mp hm).1
  · intro m hm
    obtain ⟨hm, hid⟩ := List.mem_filter.mp hm
    have hne : m.readIndex ≠ n.readIndex := by
      intro hindex
      rw [hs.eq_of_index hm hn hindex] at hid
      simp at hid
    simp [hne, hs.taken m hm]
  · exact fun m hm => hs.attached m (List.mem_filter.mp hm).1

theorem Slots.exec (hs : Slots s) (h : s.exec call = .ok s') : Slots s' := by
  by_cases hmoves : call.Moves
  · cases call
    case attachReceiver receiver =>
      cases h
      by_cases ha : s.Attaches receiver
      · exact hs.attach ha
      · rcases attachReceiver_eq s receiver with ⟨-, heq⟩ | ⟨hyes, -⟩
        · rw [heq]
          exact hs
        · exact absurd hyes ha
    case detachReceiver receiverId =>
      cases h
      rw [detachReceiver]
      split
      · exact hs
      · rename_i n hn
        exact hs.detach (mem_of_find hn).1
    case releaseAllReceiver =>
      cases h
      obtain ⟨recvBitRef, heq⟩ := releaseAllReceiver_eq s
      rw [heq]
      constructor <;> simp
    all_goals exact hmoves.elim
  · exact hs.of_sameSlots (exec_sameSlots hmoves h)

end BufferDispatcher

end WifiDisplay
