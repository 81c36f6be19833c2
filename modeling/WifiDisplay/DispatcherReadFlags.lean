import WifiDisplay.BufferDispatcherHistory

/-! The flags of who has read a buffered frame: a slot's bit is set for the frames that the
receiver in the slot has read or passed, and for no others. -/

namespace WifiDisplay

namespace BufferDispatcher

variable {s s' : BufferDispatcher}

theorem SameSlots.symm (h : SameSlots s s') : SameSlots s' s :=
  ⟨h.slots.symm, h.readRefFlag.symm, h.notifierCount.symm⟩

theorem SameSlots.exists_imp (h : SameSlots s s') {P : Nat → Nat → Prop}
    (hP : ∃ n ∈ s'.notifiers, P n.attachment n.readIndex) :
    ∃ n ∈ s.notifiers, P n.attachment n.readIndex := by
  obtain ⟨n', hn', hP⟩ := hP
  obtain ⟨n, hn, hslot⟩ := h.mem hn'
  have hattachment : n.attachment = n'.attachment := congrArg (·.2.1) hslot
  have hindex : n.readIndex = n'.readIndex := congrArg (·.2.2) hslot
  exact ⟨n, hn, by rwa [hattachment, hindex]⟩

theorem SameSlots.exists_iff (h : SameSlots s s') (P : Nat → Nat → Prop) :
    (∃ n ∈ s'.notifiers, P n.attachment n.readIndex) ↔
      ∃ n ∈ s.notifiers, P n.attachment n.readIndex :=
  ⟨h.exists_imp, h.symm.exists_imp⟩

/-- The bits of a frame are those of the receivers that have passed it. -/
def Owned (s : BufferDispatcher) (passed : Nat → Nat → Prop) (d : DataSpec) : Prop :=
  ∀ k < 16, d.reserveFlag.getLsbD k = true ↔ ∃ n ∈ s.notifiers, n.readIndex = k ∧ passed n.attachment d.seq

theorem Owned.of_sameSlots {passed : Nat → Nat → Prop} {d : DataSpec} (h : s.Owned passed d)
    (hsame : SameSlots s s') : s'.Owned passed d := by
  intro k hk
  rw [h k hk]
  exact (hsame.exists_iff fun a i => i = k ∧ passed a d.seq).symm

/-- Receivers pass more frames, and exactly those are marked. -/
theorem Owned.marks {passed passed' : Nat → Nat → Prop} {l l' : List DataSpec}
    {Q : Nat → Nat → Prop} (h : ∀ d ∈ l, s.Owned passed d) (hm : Marks Q l l')
    (hpassed : ∀ i d, l[i]? = some d → ∀ n ∈ s.notifiers,
      (passed' n.attachment d.seq ↔ passed n.attachment d.seq ∨ Q i n.readIndex))
    (hQ : ∀ i k, Q i k → ∃ n ∈ s.notifiers, n.readIndex = k) : ∀ d ∈ l', s.Owned passed' d := by
  intro d' hd' k hk
  obtain ⟨i, hi⟩ := List.mem_iff_getElem?.mp hd'
  obtain ⟨d, hd, -, hseq, hflag⟩ := hm.2 i d' hi
  rw [hflag k hk, h d (List.mem_of_getElem? hd) k hk, hseq]
  constructor
  · rintro (⟨n, hn, rfl, hpass⟩ | hmark)
    · exact ⟨n, hn, rfl, (hpassed i d hd n hn).mpr (Or.inl hpass)⟩
    · obtain ⟨n, hn, rfl⟩ := hQ i k hmark
      exact ⟨n, hn, rfl, (hpassed i d hd n hn).mpr (Or.inr hmark)⟩
  · rintro ⟨n, hn, rfl, hpass⟩
    rcases (hpassed i d hd n hn).mp hpass with hpass | hmark
    · exact Or.inl ⟨n, hn, rfl, hpass⟩
    · exact Or.inr hmark

theorem Owned.read (h : s.Owned passed d) (hs : s.Slots) {n : DataNotifier} (hn : n ∈ s.notifiers) :
    d.reserveFlag.getLsbD n.readIndex = true ↔ passed n.attachment d.seq := by
  rw [h n.readIndex (hs.lt n hn)]
  constructor
  · rintro ⟨m, hm, hindex, hpass⟩
    rwa [hs.eq_of_index hm hn hindex] at hpass
  · exact fun hpass => ⟨n, hn, rfl, hpass⟩

end BufferDispatcher

namespace BufferDispatcher

variable {s s' : BufferDispatcher}

theorem mem_passedBy_iff {n n' : DataNotifier} {c j : Nat} {d : DataSpec}
    (hfind : s'.findNotifier n.receiverId = some n') (hc : n.videoIndex = some c)
    (hd : s.circularBuffer.items[c]? = some d) (hj : n'.videoIndex = some j) (a seq : Nat) :
    (a, seq) ∈ s.passedBy s' n ↔ a = n.attachment ∧
      ∃ p < j, ∃ e, s'.circularBuffer.items[p]? = some e ∧ d.seq ≤ e.seq ∧ e.seq = seq := by
  simp only [passedBy, hc, hfind, hd, hj, Option.bind_some, List.mem_map, List.mem_filter,
    decide_eq_true_eq, Prod.mk.injEq]
  constructor
  · rintro ⟨e, ⟨he, hle⟩, rfl, rfl⟩
    obtain ⟨p, hp⟩ := List.mem_iff_getElem?.mp he
    rw [List.getElem?_take] at hp
    by_cases hpj : p < j
    · rw [if_pos hpj] at hp
      exact ⟨rfl, p, hpj, e, hp, hle, rfl⟩
    · rw [if_neg hpj] at hp
      cases hp
  · rintro ⟨rfl, p, hpj, e, he, hle, rfl⟩
    refine ⟨e, ⟨List.mem_of_getElem? (i := p) ?_, hle⟩, rfl, rfl⟩
    rw [List.getElem?_take, if_pos hpj, he]

theorem passedBy_self {n : DataNotifier} (hs : s.Slots) (hord : s.InOrder) (hn : n ∈ s.notifiers) :
    s.passedBy s n = [] := by
  apply List.eq_nil_iff_forall_not_mem.mpr
  rintro ⟨a, seq⟩ hmem
  cases hc : n.videoIndex with
  | none => simp [passedBy, hc] at hmem
  | some c =>
    cases hd : s.circularBuffer.items[c]? with
    | none => simp [passedBy, hc, hd] at hmem
    | some d =>
      obtain ⟨-, p, hp, e, he, hle, -⟩ := (mem_passedBy_iff (hs.find hn) hc hd hc a seq).mp hmem
      have hcp := (hord.le_iff hd he).mp hle
      omega

theorem findNotifier_read {receiverId i : Nat} {type : MediaType} {n : DataNotifier} (hs : s.Slots)
    (hfind : s.findNotifier receiverId = some n)
    (hnotifiers : (s.readBufferData receiverId type).2.notifiers = s.notifiers.map fun n' =>
      if n'.receiverId = receiverId then n'.setReadIndexes (some i) type else n') :
    (s.readBufferData receiverId type).2.findNotifier receiverId =
      some (n.setReadIndexes (some i) type) := by
  obtain ⟨hn, hid⟩ := mem_of_find hfind
  have hs' := hs.of_sameSlots (readBufferData_sameSlots s receiverId type)
  have hmem : n.setReadIndexes (some i) type ∈ (s.readBufferData receiverId type).2.notifiers := by
    rw [hnotifiers]
    exact List.mem_map.mpr ⟨n, hn, if_pos hid⟩
  have hid' : (n.setReadIndexes (some i) type).receiverId = receiverId := by
    cases type <;> exact hid
  have hfound := hs'.find hmem
  rwa [hid'] at hfound

theorem getElem?_of_frames (h : s'.frames = s.frames) {p : Nat} {e : DataSpec}
    (he : s'.circularBuffer.items[p]? = some e) :
    ∃ e', s.circularBuffer.items[p]? = some e' ∧ e'.mediaData = e.mediaData ∧ e'.seq = e.seq := by
  have hp := congrArg (·[p]?) h
  simp only [frames, List.getElem?_map, he, Option.map_some] at hp
  obtain ⟨e', he', heq⟩ := Option.map_eq_some_iff.mp hp.symm
  exact ⟨e', he', (Prod.mk.inj heq).1, (Prod.mk.inj heq).2⟩

/-- In key mode a read of video passes the frames from its index on, up to the next one. -/
theorem mem_passings_read {receiverId i p : Nat} {type : MediaType} {n m : DataNotifier}
    {d e : DataSpec} (hs : s.Slots) (hord : s.InOrder) (hat : s.ReadsAt receiverId type n i d)
    (hm : m ∈ s.notifiers) (he : s.circularBuffer.items[p]? = some e) (hframes : s'.frames = s.frames)
    (hfind : s'.findNotifier receiverId =
      some (n.setReadIndexes (some (s.findNextIndex i type (s.keyMode n))) type)) :
    (m.attachment, e.seq) ∈ s.passings (.readBufferData receiverId type) s' ↔
      m = n ∧ s.keyMode n ∧ type = .video ∧ i ≤ p ∧ p < s.findNextIndex i type (s.keyMode n) := by
  obtain ⟨hn, hid⟩ := mem_of_find hat.found
  cases type with
  | av | audio => simp [passings]
  | video =>
    simp only [passings, hat.found]
    rw [← keyMode]
    by_cases hmode : s.keyMode n
    · rw [if_pos hmode]
      generalize s.findNextIndex i .video (s.keyMode n) = next at hfind ⊢
      rw [← hid] at hfind
      have hiff := mem_passedBy_iff hfind hat.index hat.data rfl m.attachment e.seq
      rw [hiff]
      constructor
      · rintro ⟨hattachment, q, hq, e', he', hle, hseq⟩
        obtain ⟨e'', he'', -, hseq'⟩ := getElem?_of_frames hframes he'
        have hqp : q = p := hord.eq_of_seq he'' he (hseq'.trans hseq)
        subst hqp
        refine ⟨hs.eq_of_attachment hm hn hattachment, hmode, trivial, ?_, hq⟩
        exact (hord.le_iff hat.data he).mp (by omega)
      · rintro ⟨rfl, -, -, hip, hpnext⟩
        obtain ⟨e', he', -, hseq⟩ := getElem?_of_frames hframes.symm he
        have hle := (hord.le_iff hat.data he).mpr hip
        exact ⟨rfl, p, hpnext, e', he', by omega, hseq⟩
    · rw [if_neg hmode]
      simp [hmode]

/-- The condition on the room for a key frame: a receiver in key mode that jumps to the only
key has read the frames from its index on, and a receiver that is redirected has read the
frame at its index if `push_back` drops the head by itself. -/
def SkipsRead (r : BufferDispatcher) : Prop :=
  ∀ n ∈ r.notifiers, ∀ c ∈ n.videoIndex,
    (r.keyIndexList = [] → n.isKeyModeReceiver →
      ∀ d ∈ r.circularBuffer.items.drop (max c r.selfDrops), d.reserveFlag.getLsbD n.readIndex) ∧
    (r.keyRedirect → n.isKeyRedirectReceiver → 0 < c → r.selfDrops = 1 →
      ∀ d ∈ r.circularBuffer.items[c]?, d.reserveFlag.getLsbD n.readIndex)

/-- The condition on a call. -/
def KeepsFlags (s : BufferDispatcher) : Call → Prop
  | .inputData (some m) => s.accepts m → (s.newData m).isKeyVideoFrame →
      ∀ r ∈ (s.roomFor m).toOption, r.SkipsRead
  | .detachReceiver receiverId => ∀ n ∈ s.findNotifier receiverId, ∀ d ∈ s.circularBuffer.items,
      d.reserveFlag.getLsbD n.readIndex = false
  | .releaseAllReceiver => (∀ d ∈ s.circularBuffer.items, d.reserveFlag = 0) ∧
      ∀ n ∈ s.notifiers, n.receiver.isSome
  | .cancelReserve => ∀ d ∈ s.circularBuffer.items, d.reserveFlag = 0xff
  | .readBufferData receiverId type => type = .video → ∀ n ∈ s.findNotifier receiverId, s.keyMode n →
      ∀ i ∈ n.videoIndex, ∀ d ∈ s.circularBuffer.items[i]?, ¬ d.isKeyVideoFrame →
        d.reserveFlag.getLsbD n.readIndex = false →
          ∀ d' ∈ s.circularBuffer.items.drop (i + 1), d'.isKeyVideoFrame = false
  | _ => True

instance (r : BufferDispatcher) : Decidable r.SkipsRead :=
  inferInstanceAs (Decidable (∀ n ∈ r.notifiers, ∀ c ∈ n.videoIndex,
    (_ → _ → ∀ d ∈ r.circularBuffer.items.drop (max c r.selfDrops), _) ∧
      (_ → _ → _ → _ → ∀ d ∈ r.circularBuffer.items[c]?, _)))

instance (s : BufferDispatcher) (call : Call) : Decidable (s.KeepsFlags call) :=
  match call with
  | .inputData (some m) =>
    inferInstanceAs (Decidable (s.accepts m → _ → ∀ r ∈ (s.roomFor m).toOption, r.SkipsRead))
  | .detachReceiver receiverId => inferInstanceAs (Decidable (∀ n ∈ s.findNotifier receiverId,
      ∀ d ∈ s.circularBuffer.items, _))
  | .releaseAllReceiver =>
    inferInstanceAs (Decidable ((∀ d ∈ s.circularBuffer.items, _) ∧ ∀ n ∈ s.notifiers, _))
  | .cancelReserve => inferInstanceAs (Decidable (∀ d ∈ s.circularBuffer.items, _))
  | .readBufferData receiverId _ => inferInstanceAs (Decidable (_ → ∀ n ∈ s.findNotifier receiverId,
      _ → ∀ i ∈ n.videoIndex, ∀ d ∈ s.circularBuffer.items[i]?, _ → _ →
        ∀ d' ∈ s.circularBuffer.items.drop (i + 1), _))
  | .inputData none | .flushBuffer | .setBufferCapacity _ | .enableKeyMode _ | .enableRapidMode _
  | .enableKeyRedirect _ | .attachReceiver _ | .requestRead _ _ | .awaitData _ _ | .clearDataBit _ _
  | .clearReadBit _ _ | .notifyReadReady _ _ | .notifyReadStart _ | .notifyReadStop _
  | .enableReceiverKeyMode _ _ | .enableReceiverKeyRedirect _ _ | .expire _
  | .notifyThreadWorker => isTrue trivial

end BufferDispatcher

namespace History

variable {h h' : History} {call : Call}

/-- A bit of a buffered frame is set only if the receiver in the slot has read the frame
or passed it, no receiver counts as having read another frame, and the head has to be
kept exactly while an attached receiver has not passed it. -/
structure FlagsOwned (h : History) : Prop where
  owned : ∀ d ∈ h.dispatcher.circularBuffer.items, ∀ k < 16, d.reserveFlag.getLsbD k = true →
    ∃ n ∈ h.dispatcher.notifiers, n.readIndex = k ∧ h.HasPassed n.attachment d.seq
  readed : ∀ n ∈ h.dispatcher.notifiers, ∀ d ∈ h.dispatcher.circularBuffer.items,
    h.dispatcher.isDataReaded n.receiverId d → h.HasPassed n.attachment d.seq
  head : h.dispatcher.headFrameNeedReserve ↔ ∃ d ∈ h.dispatcher.circularBuffer.items.head?,
    ∃ n ∈ h.dispatcher.notifiers, ¬ h.HasPassed n.attachment d.seq

/-- The bits of each frame are those of the receivers that have passed it, and only
attached receivers take slots. -/
structure FlagsKept (h : History) : Prop where
  flags : ∀ d ∈ h.dispatcher.circularBuffer.items, h.dispatcher.Owned h.HasPassed d
  taken : ∀ k < 16, h.dispatcher.readRefFlag.getLsbD k = true →
    ∃ n ∈ h.dispatcher.notifiers, n.readIndex = k

theorem FlagsKept.owned (hk : FlagsKept h) (hs : h.dispatcher.Slots) : FlagsOwned h := by
  refine ⟨?_, ?_, ?_⟩
  · intro d hd k hlt hbit
    exact (hk.flags d hd k hlt).mp hbit
  · intro n hn d hd hread
    rw [BufferDispatcher.isDataReaded, hs.findIndex hn] at hread
    exact ((hk.flags d hd).read hs hn).mp hread
  · rw [BufferDispatcher.headFrameNeedReserve]
    cases hhead : h.dispatcher.circularBuffer.items.head? with
    | none => simp
    | some d =>
      have hd : d ∈ h.dispatcher.circularBuffer.items := List.mem_of_mem_head? hhead
      have hflags := hk.flags d hd
      simp only [Option.any_some, decide_eq_true_eq, Option.mem_some_iff, exists_eq_left']
      constructor
      · intro hne
        by_contra hall
        apply hne
        apply BitVec.eq_of_getLsbD_eq
        intro k hlt
        by_cases hbit : h.dispatcher.readRefFlag.getLsbD k = true
        · obtain ⟨n, hn, rfl⟩ := hk.taken k hlt hbit
          rw [hbit, hflags.read hs hn]
          by_contra hpass
          exact hall ⟨n, hn, hpass⟩
        · have hnot : ¬ d.reserveFlag.getLsbD k = true := by
            intro hset
            obtain ⟨n, hn, rfl, -⟩ := (hflags k hlt).mp hset
            exact hbit (hs.taken n hn)
          rw [Bool.eq_false_iff.mpr hbit, Bool.eq_false_iff.mpr hnot]
      · rintro ⟨n, hn, hpass⟩ heq
        apply hpass
        rw [← hflags.read hs hn, heq]
        exact hs.taken n hn

theorem hasPassed_step (hs : h.step call = .ok h') (a q : Nat) : h'.HasPassed a q ↔ h.HasPassed a q ∨
    (∃ x ∈ h.dispatcher.handedBy call, x.attachment = a ∧ x.data.seq = q) ∨
      (a, q) ∈ h.dispatcher.passings call h'.dispatcher := by
  obtain ⟨-, -, hhanded, hpassed, -⟩ := step_ok hs
  simp only [HasPassed, hhanded, hpassed, List.mem_append, or_and_right, exists_or]
  exact or_or_or_comm

theorem hasPassed_of_none (hs : h.step call = .ok h') (hhanded : h.dispatcher.handedBy call = [])
    (hpassings : h.dispatcher.passings call h'.dispatcher = []) (a q : Nat) :
    h'.HasPassed a q ↔ h.HasPassed a q := by
  rw [hasPassed_step hs, hhanded, hpassings]
  simp

section Steps

variable {receiverId : Nat} {type : MediaType}

theorem dispatcher_of_step {s' : BufferDispatcher} (hs : h.step call = .ok h')
    (hexec : h.dispatcher.exec call = .ok s') : h'.dispatcher = s' :=
  Except.ok.inj ((step_ok hs).1.symm.trans hexec)

theorem handedBy_read {n : DataNotifier} {out : Option DataSpec}
    (hfind : h.dispatcher.findNotifier receiverId = some n)
    (hout : (h.dispatcher.readBufferData receiverId type).1 = out) :
    h.dispatcher.handedBy (.readBufferData receiverId type) =
      out.toList.map fun d => ⟨receiverId, n.attachment, type, d⟩ := by
  subst hout
  simp only [BufferDispatcher.handedBy, hfind]
  cases (h.dispatcher.readBufferData receiverId type).1 <;> rfl

/-- A key mode read that hands nothing over and leaves a frame has read that frame before. -/
theorem hasPassed_of_left {n : DataNotifier} {i : Nat} {d : DataSpec} (hk : FlagsKept h)
    (hs : h.dispatcher.Slots) (hok : h.dispatcher.KeepsFlags (.readBufferData receiverId .video))
    (hreads : h.dispatcher.Reads receiverId .video n i d) (hmode : h.dispatcher.keyMode n = true)
    (hskip : h.dispatcher.PassesOver .video n d ∨ h.dispatcher.isDataReaded receiverId d = true)
    (hlt : i < h.dispatcher.findNextIndex i .video (h.dispatcher.keyMode n)) :
    h.HasPassed n.attachment d.seq := by
  obtain ⟨hn, hid⟩ := BufferDispatcher.mem_of_find hreads.found
  have hreaded : h.dispatcher.isDataReaded receiverId d = d.reserveFlag.getLsbD n.readIndex := by
    rw [BufferDispatcher.isDataReaded, ← hid, hs.findIndex hn]
  rw [hreaded] at hskip
  rw [← (hk.flags d (List.mem_of_getElem? hreads.data)).read hs hn]
  by_contra hread
  have hkeyless := (hskip.resolve_right hread).2.2
  have hnone := hok rfl n hreads.found hmode i hreads.index d hreads.data hkeyless (by simpa using hread)
  rcases BufferDispatcher.findNextIndex_cases h.dispatcher i .video (h.dispatcher.keyMode n) with
    ⟨hsame, -⟩ | ⟨hnext, -, d', hd', hwanted⟩
  · omega
  · have hmem : d' ∈ h.dispatcher.circularBuffer.items.drop (i + 1) := by
      refine List.mem_of_getElem? (i := h.dispatcher.findNextIndex i .video
        (h.dispatcher.keyMode n) - (i + 1)) ?_
      rw [List.getElem?_drop, Nat.add_sub_cancel' hnext, hd']
    have hw := (hwanted (by decide)).1
    simp [BufferDispatcher.wanted, hmode, hnone d' hmem] at hw

/-- A read that finds a frame makes its receiver pass the marked frames, and no others. -/
theorem hasPassed_read {n : DataNotifier} {i : Nat} {d : DataSpec} (hk : FlagsKept h)
    (hs : h.dispatcher.Slots) (hord : h.dispatcher.InOrder)
    (hok : h.dispatcher.KeepsFlags (.readBufferData receiverId type))
    (hstep : h.step (.readBufferData receiverId type) = .ok h')
    (hreads : h.dispatcher.Reads receiverId type n i d) {p : Nat} {e : DataSpec}
    (he : h.dispatcher.circularBuffer.items[p]? = some e) {m : DataNotifier}
    (hm : m ∈ h.dispatcher.notifiers) :
    h'.HasPassed m.attachment e.seq ↔ h.HasPassed m.attachment e.seq ∨
      (h.dispatcher.findReceiverIndex receiverId = some m.readIndex ∧
        ((h.dispatcher.readBufferData receiverId type).1.isSome ∧ p = i ∨
          h.dispatcher.keyMode n ∧ type = .video ∧ i < p ∧
            p < h.dispatcher.findNextIndex i type (h.dispatcher.keyMode n))) := by
  obtain ⟨hn, hid⟩ := BufferDispatcher.mem_of_find hreads.found
  have hslot : h.dispatcher.findReceiverIndex receiverId = some m.readIndex ↔ m = n := by
    rw [← hid, hs.findIndex hn]
    constructor
    · exact fun heq => hs.eq_of_index hm hn (Option.some_inj.mp heq).symm
    · rintro rfl
      rfl
  have hpi : e.seq = d.seq ↔ p = i := by
    constructor
    · exact fun hseq => hord.eq_of_seq he hreads.data hseq
    · rintro rfl
      rw [Option.some_inj.mp (he.symm.trans hreads.data)]
  have hhanded : (∃ x ∈ h.dispatcher.handedBy (.readBufferData receiverId type),
      x.attachment = m.attachment ∧ x.data.seq = e.seq) ↔
        m = n ∧ (h.dispatcher.readBufferData receiverId type).1.isSome ∧ p = i := by
    rw [handedBy_read hreads.found rfl, ← hpi]
    cases hout : (h.dispatcher.readBufferData receiverId type).1 with
    | none => simp
    | some out =>
      rw [hreads.out_eq hout]
      simp only [Option.toList_some, List.map_cons, List.map_nil, List.mem_singleton,
        exists_eq_left, Option.isSome_some, true_and]
      exact and_congr ⟨fun heq => hs.eq_of_attachment hm hn heq.symm, fun heq => heq ▸ rfl⟩ eq_comm
  have hpassings := BufferDispatcher.mem_passings_read hs hord hreads.toReadsAt hm he hreads.still.frames
    (BufferDispatcher.findNotifier_read hs hreads.found hreads.notifiers)
  rw [hasPassed_step hstep, dispatcher_of_step hstep rfl, hpassings, hslot, hhanded]
  -- the two sides differ in the frame at the index itself, which is passed but not marked
  constructor
  · rintro (hpass | ⟨hmn, hout⟩ | ⟨hmn, hmode, hvideo, hip, hnext⟩)
    · exact Or.inl hpass
    · exact Or.inr ⟨hmn, Or.inl hout⟩
    · by_cases hlt : i < p
      · exact Or.inr ⟨hmn, Or.inr ⟨hmode, hvideo, hlt, hnext⟩⟩
      have hpeq : p = i := by omega
      rcases hreads.out with ⟨-, hskip⟩ | ⟨hout, -, -⟩
      · left
        subst hvideo
        rw [hmn, hpi.mpr hpeq]
        exact hasPassed_of_left hk hs hok hreads hmode hskip (hpeq ▸ hnext)
      · exact Or.inr ⟨hmn, Or.inl ⟨by rw [hout]; rfl, hpeq⟩⟩
  · rintro (hpass | ⟨hmn, hout | ⟨hmode, hvideo, hlt, hnext⟩⟩)
    · exact Or.inl hpass
    · exact Or.inr (Or.inl ⟨hmn, hout⟩)
    · exact Or.inr (Or.inr ⟨hmn, hmode, hvideo, Nat.le_of_lt hlt, hnext⟩)

theorem FlagsKept.of_marks {l : List DataSpec} {Q : Nat → Nat → Prop} (hk : FlagsKept h)
    (hsame : BufferDispatcher.SameSlots h.dispatcher h'.dispatcher)
    (hl : ∀ d ∈ l, h.dispatcher.Owned h.HasPassed d) (hm : Marks Q l h'.dispatcher.circularBuffer.items)
    (hpassed : ∀ i d, l[i]? = some d → ∀ n ∈ h.dispatcher.notifiers,
      (h'.HasPassed n.attachment d.seq ↔ h.HasPassed n.attachment d.seq ∨ Q i n.readIndex))
    (hQ : ∀ i k, Q i k → ∃ n ∈ h.dispatcher.notifiers, n.readIndex = k) : FlagsKept h' := by
  refine ⟨fun d hd => ?_, fun k hlt hbit => ?_⟩
  · exact (BufferDispatcher.Owned.marks hl hm hpassed hQ d hd).of_sameSlots hsame
  · rw [hsame.readRefFlag] at hbit
    exact (hsame.exists_iff fun _ i => i = k).mpr (hk.taken k hlt hbit)

theorem FlagsKept.of_sublist (hk : FlagsKept h)
    (hsame : BufferDispatcher.SameSlots h.dispatcher h'.dispatcher)
    (hitems : h'.dispatcher.circularBuffer.items ⊆ h.dispatcher.circularBuffer.items)
    (hpassed : ∀ a q, h'.HasPassed a q ↔ h.HasPassed a q) : FlagsKept h' :=
  hk.of_marks hsame (fun d hd => hk.flags d (hitems hd)) (Marks.refl _)
    (fun i d _ n _ => by simp [hpassed]) (fun _ _ hno => hno.elim)

theorem FlagsKept.read (hk : FlagsKept h) (hs : h.dispatcher.Slots) (hnum : Numbered h)
    (hok : h.dispatcher.KeepsFlags (.readBufferData receiverId type))
    (hstep : h.step (.readBufferData receiverId type) = .ok h') : FlagsKept h' := by
  have hdisp := dispatcher_of_step hstep rfl
  have hsame := BufferDispatcher.readBufferData_sameSlots h.dispatcher receiverId type
  rw [← hdisp] at hsame
  rcases BufferDispatcher.readBufferData_spec h.dispatcher receiverId type with
    heq | ⟨n, i, d, hreads⟩
  · have hdisp' : h'.dispatcher = h.dispatcher := by rw [hdisp, heq]
    have hhanded : h.dispatcher.handedBy (.readBufferData receiverId type) = [] := by
      cases hfind : h.dispatcher.findNotifier receiverId with
      | none => simp [BufferDispatcher.handedBy, hfind]
      | some n => rw [handedBy_read hfind (congrArg (·.1) heq)]; rfl
    have hpassings : h.dispatcher.passings (.readBufferData receiverId type) h'.dispatcher = [] := by
      apply List.eq_nil_iff_forall_not_mem.mpr
      intro p hp
      obtain ⟨n, hn, hp⟩ := BufferDispatcher.mem_passings hp
      rw [hdisp', BufferDispatcher.passedBy_self hs hnum.increasing hn] at hp
      cases hp
    refine hk.of_sublist hsame ?_ (hasPassed_of_none hstep hhanded hpassings)
    rw [hdisp']
    exact List.Subset.refl _
  · have hmarks := hreads.marks
    rw [← hdisp] at hmarks
    refine hk.of_marks hsame hk.flags hmarks ?_ ?_
    · intro p e he m hm
      exact hasPassed_read hk hs hnum.increasing hok hstep hreads he hm
    · rintro p k ⟨hslot, -⟩
      obtain ⟨hn, hid⟩ := BufferDispatcher.mem_of_find hreads.found
      rw [← hid, hs.findIndex hn] at hslot
      exact ⟨n, hn, Option.some_inj.mp hslot⟩

theorem FlagsKept.quiet (hk : FlagsKept h) (hq : call.IsQuiet) (hstep : h.step call = .ok h') :
    FlagsKept h' := by
  have hquiet := BufferDispatcher.exec_quiet hq (step_ok hstep).1
  have hhanded : h.dispatcher.handedBy call = [] := by
    cases call
    case readBufferData => exact hq.elim
    all_goals rfl
  have hpassings : h.dispatcher.passings call h'.dispatcher = [] := by
    cases call
    case readBufferData | inputData => exact hq.elim
    all_goals rfl
  exact hk.of_sublist hquiet.sameSlots (hquiet.items ▸ List.Subset.refl _)
    (hasPassed_of_none hstep hhanded hpassings)

theorem FlagsKept.attach {receiver : BufferReceiver} (hk : FlagsKept h) (hnum : Numbered h)
    (hstep : h.step (.attachReceiver receiver) = .ok h') : FlagsKept h' := by
  have hdisp := dispatcher_of_step hstep rfl
  have hpassed := hasPassed_of_none hstep rfl rfl
  rcases BufferDispatcher.attachReceiver_eq h.dispatcher receiver with ⟨-, heq⟩ | ⟨hattaches, heq⟩
  · rw [heq] at hdisp
    exact hk.of_sublist (hdisp ▸ BufferDispatcher.SameSlots.refl _) (hdisp ▸ List.Subset.refl _) hpassed
  obtain ⟨hlt, hfree, -⟩ := BufferDispatcher.usableRef_eq hattaches.2
  refine ⟨fun d hd k hklt => ?_, fun k hklt hbit => ?_⟩
  · rw [hdisp, heq] at hd ⊢
    simp only [hpassed]
    rw [hk.flags d hd k hklt]
    constructor
    · rintro ⟨n, hn, hindex, hpass⟩
      exact ⟨n, List.mem_append_left _ hn, hindex, hpass⟩
    · rintro ⟨n, hn, hindex, hpass⟩
      rcases List.mem_append.mp hn with hn | hn
      · exact ⟨n, hn, hindex, hpass⟩
      · -- nothing is remembered of a receiver before it comes
        rw [List.mem_singleton.mp hn] at hpass
        replace hpass : h.HasPassed h.dispatcher.notifierCount d.seq := hpass
        rcases hpass with ⟨x, hx, hattachment, -⟩ | hp
        · exact absurd hattachment (Nat.ne_of_lt (hnum.handed x hx).2)
        · exact absurd rfl (Nat.ne_of_lt (hnum.passed _ hp).2)
  · rw [hdisp, heq] at hbit ⊢
    rw [getLsbD_setFlag] at hbit
    by_cases hnew : k = h.dispatcher.newIndex ∧ h.dispatcher.newIndex < 16
    · exact ⟨_, List.mem_append_right _ (List.mem_singleton_self _), hnew.1.symm⟩
    · rw [if_neg hnew] at hbit
      obtain ⟨n, hn, hindex⟩ := hk.taken k hklt hbit
      exact ⟨n, List.mem_append_left _ hn, hindex⟩

theorem FlagsKept.detach (hk : FlagsKept h) (hs : h.dispatcher.Slots)
    (hok : h.dispatcher.KeepsFlags (.detachReceiver receiverId))
    (hstep : h.step (.detachReceiver receiverId) = .ok h') : FlagsKept h' := by
  have hdisp := dispatcher_of_step hstep rfl
  have hpassed := hasPassed_of_none hstep rfl rfl
  cases hfind : h.dispatcher.findNotifier receiverId with
  | none =>
    have hsame : h'.dispatcher = h.dispatcher := by
      rw [hdisp, BufferDispatcher.detachReceiver, hfind]
    exact hk.of_sublist (hsame ▸ BufferDispatcher.SameSlots.refl _) (hsame ▸ List.Subset.refl _) hpassed
  | some n =>
    have hn := (BufferDispatcher.mem_of_find hfind).1
    have hnone := hok n hfind
    rw [BufferDispatcher.detachReceiver, hfind] at hdisp
    dsimp only at hdisp
    rw [BufferDispatcher.detachNotifier_eq (hs.findIndex hn)] at hdisp
    have hother {m : DataNotifier} (hm : m ∈ h.dispatcher.notifiers) (hne : m.readIndex ≠ n.readIndex) :
        m ∈ h.dispatcher.notifiers.filter (·.receiverId ≠ n.receiverId) := by
      refine List.mem_filter.mpr ⟨hm, ?_⟩
      have hid : m.receiverId ≠ n.receiverId :=
        fun hid => hne (congrArg (·.readIndex) (List.inj_on_of_nodup_map hs.ids hm hn hid))
      simpa using hid
    refine ⟨fun d hd k hklt => ?_, fun k hklt hbit => ?_⟩
    · rw [hdisp] at hd ⊢
      simp only [hpassed]
      constructor
      · intro hbit
        obtain ⟨m, hm, rfl, hpass⟩ := (hk.flags d hd k hklt).mp hbit
        have hne : m.readIndex ≠ n.readIndex := by
          intro heq
          rw [heq, hnone d hd] at hbit
          cases hbit
        exact ⟨m, hother hm hne, rfl, hpass⟩
      · rintro ⟨m, hm, hindex, hpass⟩
        exact (hk.flags d hd k hklt).mpr ⟨m, (List.mem_filter.mp hm).1, hindex, hpass⟩
    · rw [hdisp] at hbit ⊢
      rw [getLsbD_setFlag] at hbit
      by_cases hown : k = n.readIndex ∧ n.readIndex < 16
      · rw [if_pos hown] at hbit
        cases hbit
      · rw [if_neg hown] at hbit
        obtain ⟨m, hm, rfl⟩ := hk.taken k hklt hbit
        exact ⟨m, hother hm fun heq => hown ⟨heq, hs.lt n hn⟩, rfl⟩

theorem FlagsKept.release (hk : FlagsKept h) (hok : h.dispatcher.KeepsFlags .releaseAllReceiver)
    (hstep : h.step .releaseAllReceiver = .ok h') : FlagsKept h' := by
  have hdisp := dispatcher_of_step hstep rfl
  obtain ⟨hzero, halive⟩ := hok
  obtain ⟨recvBitRef, heq⟩ := BufferDispatcher.releaseAllReceiver_eq h.dispatcher
  refine ⟨fun d hd k _ => ?_, fun k hklt hbit => ?_⟩
  · rw [hdisp, heq] at hd ⊢
    rw [hzero d hd]
    simp
  · rw [hdisp] at hbit
    obtain ⟨hbit, hfree⟩ := BufferDispatcher.readRefFlag_releaseAllReceiver hklt hbit
    obtain ⟨n, hn, hindex⟩ := hk.taken k hklt hbit
    exact absurd hindex (hfree n hn (halive n hn))

theorem FlagsKept.cancel (hk : FlagsKept h) (hok : h.dispatcher.KeepsFlags .cancelReserve)
    (hstep : h.step .cancelReserve = .ok h') : FlagsKept h' := by
  have hdisp := dispatcher_of_step hstep rfl
  have hitems : h'.dispatcher.circularBuffer.items = h.dispatcher.circularBuffer.items := by
    rw [hdisp, BufferDispatcher.cancelReserve]
    refine (List.map_congr_left fun d hd => ?_).trans (List.map_id _)
    rw [← hok d hd]
    rfl
  refine hk.of_sublist ?_ (hitems ▸ List.Subset.refl _) (hasPassed_of_none hstep rfl rfl)
  rw [hdisp]
  exact ⟨rfl, rfl, rfl⟩

theorem FlagsKept.flush (hk : FlagsKept h) (hstep : h.step .flushBuffer = .ok h') : FlagsKept h' := by
  have hdisp := dispatcher_of_step hstep rfl
  have hflushes := BufferDispatcher.flushBuffer_flushes h.dispatcher
  rw [← hdisp] at hflushes
  refine hk.of_sublist hflushes.sameSlots ?_ (hasPassed_of_none hstep rfl rfl)
  rw [hflushes.items]
  exact List.nil_subset _

end Steps

end History

end WifiDisplay
