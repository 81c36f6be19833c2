import WifiDisplay.BufferDispatcherSlots

/-! What a history remembers: the buffered frames and the frames in the callbacks are
inputs, in the order of their numbers, and nothing is remembered of later frames or receivers. -/

namespace WifiDisplay

namespace BufferDispatcher

variable {s s' : BufferDispatcher} {call : Call}

theorem inputsOf_cases (call : Call) : inputsOf call = [] ∨
    ∃ m, call = .inputData (some m) ∧ m.buff ≠ none ∧ inputsOf call = [m] := by
  cases call
  case inputData mediaData =>
    cases mediaData with
    | none => exact Or.inl rfl
    | some m =>
      by_cases hbuff : m.buff = none
      · exact Or.inl (if_pos hbuff)
      · exact Or.inr ⟨m, rfl, hbuff, if_neg hbuff⟩
  all_goals exact Or.inl rfl

/-- The frames after a call are some of those before it and of its input. -/
structure Renews (s : BufferDispatcher) (call : Call) (s' : BufferDispatcher) : Prop where
  frames : s'.frames.Sublist (s.frames ++ (inputsOf call).map (·, s.specCount))
  specCount : s'.specCount = s.specCount + (inputsOf call).length
  notifierCount : s.notifierCount ≤ s'.notifierCount

theorem Renews.of_noInput (hcall : inputsOf call = []) (hframes : s'.frames.Sublist s.frames)
    (hspec : s'.specCount = s.specCount) (hcount : s.notifierCount ≤ s'.notifierCount) :
    Renews s call s' := by
  refine ⟨?_, ?_, hcount⟩
  · simpa [hcall] using hframes
  · simp [hcall, hspec]

theorem Renews.of_still (hcall : inputsOf call = []) (h : Still s s') : Renews s call s' :=
  of_noInput hcall (h.frames ▸ List.Sublist.refl _) h.specCount (Nat.le_of_eq h.notifierCount.symm)

theorem Flushes.frames (h : Flushes s s') : s'.frames = [] := by rw [BufferDispatcher.frames, h.items, List.map_nil]

theorem Drops.specCount {n : Nat} (h : Drops s n s') : s'.specCount = s.specCount := by
  obtain ⟨t, rfl⟩ := h.eq
  rfl

theorem Flushes.specCount (h : Flushes s s') : s'.specCount = s.specCount := by
  obtain ⟨t, -, rfl⟩ := h
  rfl

theorem room_frames {m : MediaData} {r : BufferDispatcher} (ha : s.accepts m)
    (hr : s.roomFor m = .ok r) : r.frames.Sublist s.frames ∧ r.specCount = s.specCount + 1 := by
  by_cases hf : s.flushesFor m
  · have hflushes := roomFor_flushes hf hr
    refine ⟨?_, hflushes.specCount⟩
    rw [hflushes.frames]
    exact List.nil_sublist _
  · obtain ⟨n, hn⟩ := roomFor_drops ha hf hr
    refine ⟨?_, hn.specCount⟩
    rw [hn.frames]
    exact List.drop_sublist n _

theorem specCount_appendData (r : BufferDispatcher) (data : DataSpec) :
    (r.appendData data).specCount = r.specCount := by
  obtain ⟨items, keyRedirect, heq, -⟩ := appendData_eq r data
  rw [heq, listed_eq]

theorem Renews.input {mediaData : Option MediaData} (h : s.inputData mediaData = .ok s') :
    Renews s (.inputData mediaData) s' := by
  have hcount := (inputData_sameSlots h).notifierCount
  rcases inputData_cases h with ⟨rfl, hbuff⟩ | ⟨m, rfl, hbuff, rfl⟩ | ⟨m, r, rfl, ha, hr, rfl⟩
  · have hcall : inputsOf (.inputData mediaData) = [] := by
      cases mediaData with
      | none => rfl
      | some m => exact if_pos (hbuff m rfl)
    exact Renews.of_still hcall (Still.refl s')
  · have hcall : inputsOf (.inputData (some m)) = [m] := if_neg hbuff
    refine ⟨?_, ?_, Nat.le_refl _⟩
    · exact List.sublist_append_left _ _
    · rw [hcall]
      rfl
  · have hcall : inputsOf (.inputData (some m)) = [m] := if_neg ha.1
    obtain ⟨hsub, hspec⟩ := room_frames ha hr
    refine ⟨?_, ?_, Nat.le_of_eq hcount.symm⟩
    · rw [frames_appendData, hcall]
      exact ((List.drop_sublist _ _).trans hsub).append (List.Sublist.refl _)
    · rw [specCount_appendData, hspec, hcall]
      rfl

theorem exec_renews (h : s.exec call = .ok s') : Renews s call s' := by
  cases call
  case inputData => exact Renews.input h
  case flushBuffer =>
    cases h
    have hflushes := flushBuffer_flushes s
    refine Renews.of_noInput rfl ?_ hflushes.specCount (Nat.le_refl _)
    rw [hflushes.frames]
    exact List.nil_sublist _
  case cancelReserve =>
    cases h
    exact Renews.of_still rfl (cancelReserve_still s)
  case attachReceiver receiver =>
    cases h
    rcases attachReceiver_eq s receiver with ⟨-, heq⟩ | ⟨-, heq⟩
    · rw [heq]
      exact Renews.of_still rfl (Still.refl s)
    · rw [heq]
      exact Renews.of_noInput rfl (List.Sublist.refl _) rfl (Nat.le_succ _)
  case detachReceiver receiverId =>
    cases h
    rw [detachReceiver]
    split
    · exact Renews.of_still rfl (Still.refl s)
    · rename_i n _
      obtain ⟨recvBitRef, heq⟩ := detachNotifier_cases s n
      rw [heq]
      exact Renews.of_noInput rfl (List.Sublist.refl _) rfl (Nat.le_refl _)
  case releaseAllReceiver =>
    cases h
    obtain ⟨recvBitRef, heq⟩ := releaseAllReceiver_eq s
    rw [heq]
    exact Renews.of_noInput rfl (List.Sublist.refl _) rfl (Nat.le_refl _)
  case readBufferData receiverId type =>
    cases h
    rcases readBufferData_spec s receiverId type with heq | ⟨n, i, d, hreads⟩
    · rw [heq]
      exact Renews.of_still rfl (Still.refl s)
    · exact Renews.of_still rfl hreads.still
  all_goals exact Renews.of_still rfl (exec_quiet (by trivial) h).toStill

theorem mem_handedBy {x : Handed} (h : x ∈ s.handedBy call) :
    call = .readBufferData x.receiverId x.type ∧ x.data ∈ s.circularBuffer.items ∧
      ∃ n, s.findNotifier x.receiverId = some n ∧ x.attachment = n.attachment ∧
        (s.readBufferData x.receiverId x.type).1 = some x.data := by
  cases call
  case readBufferData receiverId type =>
    rw [handedBy] at h
    split at h
    · rename_i n data hn hdata
      rw [List.mem_singleton.mp h]
      refine ⟨rfl, ?_, n, hn, rfl, hdata⟩
      rcases readBufferData_spec s receiverId type with heq | ⟨n', i, d, hreads⟩
      · rw [heq] at hdata
        cases hdata
      · rw [hreads.out_eq hdata]
        exact List.mem_of_getElem? hreads.data
    · cases h
  all_goals cases h

theorem mem_passedBy {n : DataNotifier} {p : Nat × Nat} (h : p ∈ s.passedBy s' n) :
    p.1 = n.attachment ∧ ∃ d ∈ s'.circularBuffer.items, d.seq = p.2 := by
  rw [passedBy] at h
  split at h
  · obtain ⟨d, hd, rfl⟩ := List.mem_map.mp h
    exact ⟨rfl, d, List.mem_of_mem_take (List.mem_filter.mp hd).1, rfl⟩
  · cases h

theorem mem_passings {p : Nat × Nat} (h : p ∈ s.passings call s') :
    ∃ n ∈ s.notifiers, p ∈ s.passedBy s' n := by
  rw [passings.eq_def] at h
  split at h
  · split at h
    · rename_i n hn
      split at h
      · exact ⟨n, (mem_of_find hn).1, h⟩
      · cases h
    · cases h
  · split at h
    · obtain ⟨n, hn, hp⟩ := List.mem_flatMap.mp h
      exact ⟨n, (List.mem_filter.mp hn).1, hp⟩
    · cases h
  · cases h

/-- The buffered frames stand in the order of their numbers. -/
def InOrder (s : BufferDispatcher) : Prop := s.frames.Pairwise (·.2 < ·.2)

theorem InOrder.lt_iff (h : s.InOrder) {i j : Nat} {d d' : DataSpec}
    (hd : s.circularBuffer.items[i]? = some d) (hd' : s.circularBuffer.items[j]? = some d') :
    d.seq < d'.seq ↔ i < j := by
  have hpair := List.pairwise_iff_getElem.mp (List.pairwise_map.mp h)
  obtain ⟨hi, rfl⟩ := List.getElem?_eq_some_iff.mp hd
  obtain ⟨hj, rfl⟩ := List.getElem?_eq_some_iff.mp hd'
  constructor
  · intro hseq
    by_contra hge
    rcases Nat.lt_or_eq_of_le (Nat.not_lt.mp hge) with hlt | rfl
    · exact Nat.lt_asymm hseq (hpair j i hj hi hlt)
    · exact Nat.lt_irrefl _ hseq
  · exact hpair i j hi hj

theorem InOrder.le_iff (h : s.InOrder) {i j : Nat} {d d' : DataSpec}
    (hd : s.circularBuffer.items[i]? = some d) (hd' : s.circularBuffer.items[j]? = some d') :
    d.seq ≤ d'.seq ↔ i ≤ j := by
  rw [← Nat.not_lt, ← Nat.not_lt, h.lt_iff hd' hd]

theorem InOrder.eq_of_seq (h : s.InOrder) {i j : Nat} {d d' : DataSpec}
    (hd : s.circularBuffer.items[i]? = some d) (hd' : s.circularBuffer.items[j]? = some d')
    (hseq : d.seq = d'.seq) : i = j := by
  apply Nat.le_antisymm
  · exact (h.le_iff hd hd').mp (Nat.le_of_eq hseq)
  · exact (h.le_iff hd' hd).mp (Nat.le_of_eq hseq.symm)

end BufferDispatcher

namespace History

variable {h h' : History} {call : Call}

/-- The frame with this number was handed to the receiver of this attachment, or it passed it. -/
def HasPassed (h : History) (attachment seq : Nat) : Prop :=
  (∃ x ∈ h.handed, x.attachment = attachment ∧ x.data.seq = seq) ∨ (attachment, seq) ∈ h.passed

instance (h : History) (attachment seq : Nat) : Decidable (h.HasPassed attachment seq) :=
  inferInstanceAs (Decidable ((∃ x ∈ h.handed, _ ∧ _) ∨ _))

/-- The history and the dispatcher agree on the numbers of frames and receivers. -/
structure Numbered (h : History) : Prop where
  count : h.inputs.length = h.dispatcher.specCount
  frames : ∀ f ∈ h.dispatcher.frames, h.inputs[f.2]? = some f.1
  increasing : h.dispatcher.InOrder
  handed : ∀ x ∈ h.handed, h.inputs[x.data.seq]? = some x.data.mediaData ∧
    x.attachment < h.dispatcher.notifierCount
  passed : ∀ p ∈ h.passed, p.2 < h.dispatcher.specCount ∧ p.1 < h.dispatcher.notifierCount

theorem Numbered.lt (hn : Numbered h) {f : MediaData × Nat} (hf : f ∈ h.dispatcher.frames) :
    f.2 < h.dispatcher.specCount := by
  have hlt := (List.getElem?_eq_some_iff.mp (hn.frames f hf)).1
  rwa [hn.count] at hlt

theorem Numbered.frame (hn : Numbered h) {d : DataSpec} (hd : d ∈ h.dispatcher.circularBuffer.items) :
    h.inputs[d.seq]? = some d.mediaData :=
  hn.frames (d.mediaData, d.seq) (List.mem_map_of_mem hd)

theorem Numbered.step (hn : Numbered h) (hslots : h.dispatcher.Slots) (hs : h.step call = .ok h') :
    Numbered h' := by
  obtain ⟨hexec, hinputs, hhanded, hpassed, -⟩ := step_ok hs
  have hrenews := BufferDispatcher.exec_renews hexec
  have hold {i : Nat} {m : MediaData} (hi : h.inputs[i]? = some m) : h'.inputs[i]? = some m := by
    rw [hinputs, List.getElem?_append_left (List.getElem?_eq_some_iff.mp hi).1, hi]
  have hcount : h'.inputs.length = h'.dispatcher.specCount := by
    rw [hinputs, List.length_append, hrenews.specCount, hn.count]
  have hnew : ∀ f ∈ (BufferDispatcher.inputsOf call).map (·, h.dispatcher.specCount),
      h'.inputs[f.2]? = some f.1 ∧ f.2 = h.dispatcher.specCount := by
    intro f hf
    obtain ⟨m, hm, rfl⟩ := List.mem_map.mp hf
    have hsingle : BufferDispatcher.inputsOf call = [m] := by
      rcases BufferDispatcher.inputsOf_cases call with hnil | ⟨m', -, -, hm'⟩
      · rw [hnil] at hm
        cases hm
      · rw [hm'] at hm ⊢
        rw [List.mem_singleton.mp hm]
    refine ⟨?_, rfl⟩
    rw [hinputs, hsingle, ← hn.count]
    simp
  have hframes : ∀ f ∈ h'.dispatcher.frames, h'.inputs[f.2]? = some f.1 := by
    intro f hf
    rcases List.mem_append.mp (hrenews.frames.subset hf) with hf | hf
    · exact hold (hn.frames f hf)
    · exact (hnew f hf).1
  refine ⟨hcount, hframes, ?_, ?_, ?_⟩
  · refine List.Pairwise.sublist hrenews.frames (List.pairwise_append.mpr ⟨hn.increasing, ?_, ?_⟩)
    · rcases BufferDispatcher.inputsOf_cases call with hnil | ⟨m, -, -, hm⟩
      · simp [hnil]
      · simp [hm]
    · intro f hf f' hf'
      rw [(hnew f' hf').2]
      exact hn.lt hf
  · intro x hx
    rw [hhanded] at hx
    rcases List.mem_append.mp hx with hx | hx
    · exact ⟨hold (hn.handed x hx).1, Nat.lt_of_lt_of_le (hn.handed x hx).2 hrenews.notifierCount⟩
    · obtain ⟨-, hdata, n, hfind, hattachment, -⟩ := BufferDispatcher.mem_handedBy hx
      refine ⟨hold (hn.frame hdata), ?_⟩
      rw [hattachment]
      exact Nat.lt_of_lt_of_le (hslots.attached n (BufferDispatcher.mem_of_find hfind).1)
        hrenews.notifierCount
  · intro p hp
    rw [hpassed] at hp
    rcases List.mem_append.mp hp with hp | hp
    · have hspec : h.dispatcher.specCount ≤ h'.dispatcher.specCount := by
        rw [hrenews.specCount]
        exact Nat.le_add_right _ _
      exact ⟨Nat.lt_of_lt_of_le (hn.passed p hp).1 hspec,
        Nat.lt_of_lt_of_le (hn.passed p hp).2 hrenews.notifierCount⟩
    · obtain ⟨n, hmem, hp⟩ := BufferDispatcher.mem_passings hp
      obtain ⟨hattachment, d, hd, hseq⟩ := BufferDispatcher.mem_passedBy hp
      constructor
      · have hlt := (List.getElem?_eq_some_iff.mp
          (hframes (d.mediaData, d.seq) (List.mem_map_of_mem hd))).1
        rw [← hseq, ← hcount]
        exact hlt
      · rw [hattachment]
        exact Nat.lt_of_lt_of_le (hslots.attached n hmem) hrenews.notifierCount

theorem Numbered.create (maxCapacity capacityIncrement : Nat) (dataMode : MediaDispacherMode) :
    Numbered { dispatcher := BufferDispatcher.create maxCapacity capacityIncrement dataMode } := by
  constructor <;> simp [BufferDispatcher.create, BufferDispatcher.frames, BufferDispatcher.InOrder]

end History

end WifiDisplay
