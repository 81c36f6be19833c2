import WifiDisplay.DispatcherReadFlags

/-! The flags in whole runs: a new frame comes without flags, and a key frame marks the
frames that it makes receivers pass. -/

namespace WifiDisplay

namespace BufferDispatcher

variable {s r : BufferDispatcher} {m : MediaData} {data : DataSpec}

/-- A receiver's notifier in the room for a frame. -/
structure Roomed (s r : BufferDispatcher) (n n₁ : DataNotifier) : Prop where
  slot : n₁.slot = n.slot
  receiver : n₁.receiver = n.receiver
  index : r.circularBuffer.items = [] ∧ n₁.videoIndex = none ∨
    ∃ k, r.circularBuffer.items = s.circularBuffer.items.drop k ∧
      n₁.videoIndex = n.videoIndex.map (· - k)

theorem exists_roomed (ha : s.accepts m) (hr : s.roomFor m = .ok r) {n : DataNotifier}
    (hn : n ∈ s.notifiers) : ∃ n₁ ∈ r.notifiers, Roomed s r n n₁ := by
  by_cases hf : s.flushesFor m
  · have hflushes := roomFor_flushes hf hr
    have hitems := hflushes.items
    obtain ⟨t, -, rfl⟩ := hflushes
    exact ⟨n.reset, List.mem_map_of_mem hn, rfl, rfl, Or.inl ⟨hitems, rfl⟩⟩
  · obtain ⟨k, hk⟩ := roomFor_drops ha hf hr
    obtain ⟨t, rfl⟩ := hk.eq
    exact ⟨n.shift k, List.mem_map_of_mem hn, rfl, rfl, Or.inr ⟨k, rfl, rfl⟩⟩

theorem items_room_subset (ha : s.accepts m) (hr : s.roomFor m = .ok r) :
    r.circularBuffer.items ⊆ s.circularBuffer.items := by
  by_cases hf : s.flushesFor m
  · rw [(roomFor_flushes hf hr).items]
    exact List.nil_subset _
  · obtain ⟨k, hk⟩ := roomFor_drops ha hf hr
    obtain ⟨t, rfl⟩ := hk.eq
    exact List.drop_subset k _

theorem keyRedirect_room (ha : s.accepts m) (hr : s.roomFor m = .ok r) : r.keyRedirect = s.keyRedirect := by
  by_cases hf : s.flushesFor m
  · obtain ⟨t, -, rfl⟩ := roomFor_flushes hf hr
    rfl
  · obtain ⟨k, hk⟩ := roomFor_drops ha hf hr
    obtain ⟨t, rfl⟩ := hk.eq
    rfl

/-- The new key frame takes the receiver's video index to itself. -/
def Taken (r : BufferDispatcher) (data : DataSpec) (n₁ : DataNotifier) : Prop :=
  r.jumps data ∧ n₁.isKeyModeReceiver ∨ r.redirects data ∧ n₁.isKeyRedirectReceiver

theorem Taken.videoIndex {n₁ : DataNotifier} (h : r.Taken data n₁) :
    (r.appended data n₁).videoIndex = some (r.lastPosition data) := by
  rw [videoIndex_appended]
  split
  · rfl
  · rename_i hno
    rw [videoIndex_activated, if_pos (Or.inl (h.resolve_right hno))]

theorem keyIndexList_appendData (r : BufferDispatcher) (hkey : data.isKeyVideoFrame) :
    (r.appendData data).keyIndexList = r.keyIndexList ++ [r.lastPosition data] := by
  obtain ⟨items, keyRedirect, heq, -⟩ := appendData_eq r data
  rw [heq, listed_eq]
  exact if_pos hkey

theorem skips_iff_taken {n n₁ : DataNotifier} (hkey : data.isKeyVideoFrame)
    (hredirect : r.keyRedirect = s.keyRedirect) (hroomed : Roomed s r n n₁) :
    s.skips (r.appendData data) n = true ↔ r.Taken data n₁ := by
  have hmode : n₁.isKeyModeReceiver = n.isKeyModeReceiver := by
    rw [DataNotifier.isKeyModeReceiver, DataNotifier.isKeyModeReceiver, hroomed.receiver]
  have hredirected : n₁.isKeyRedirectReceiver = n.isKeyRedirectReceiver := by
    rw [DataNotifier.isKeyRedirectReceiver, DataNotifier.isKeyRedirectReceiver, hroomed.receiver]
  simp only [skips, Taken, keyIndexList_appendData r hkey, jumps, redirects, hkey, hmode, hredirected,
    hredirect, List.length_append, List.length_singleton, Nat.add_eq_right, List.length_eq_zero_iff,
    Bool.or_eq_true, Bool.and_eq_true, decide_eq_true_eq, true_and]
  exact or_congr and_comm Iff.rfl

theorem mem_passedBy_input {n n₁ : DataNotifier} {p : Nat} {d : DataSpec}
    (hs' : (r.appendData data).Slots) (hord : s.InOrder) (hord' : (r.appendData data).InOrder)
    (hn₁ : n₁ ∈ r.notifiers) (hroomed : Roomed s r n n₁) (htaken : r.Taken data n₁)
    (hd : (r.listed data).circularBuffer.items[p]? = some d) :
    (n.attachment, d.seq) ∈ s.passedBy (r.appendData data) n ↔
      p < r.lastPosition data ∧ ∃ c ∈ n₁.videoIndex, c ≤ r.selfDrops + p := by
  have hmem : r.appended data n₁ ∈ (r.appendData data).notifiers := by
    rw [notifiers_appendData]
    exact List.mem_map_of_mem hn₁
  have hid : (r.appended data n₁).receiverId = n.receiverId :=
    congrArg (·.1) ((slot_appended r data n₁).trans hroomed.slot)
  have hfind := hs'.find hmem
  rw [hid] at hfind
  obtain ⟨items, keyRedirect, heq, hmarks⟩ := appendData_eq r data
  have hitems : (r.appendData data).circularBuffer.items = items := by rw [heq]
  obtain ⟨e, he, -, hseq, -⟩ := hmarks.get hd
  rw [← hitems] at he
  cases hc : n.videoIndex with
  | none =>
    have hnone : n₁.videoIndex = none := by
      rcases hroomed.index with ⟨-, hnone⟩ | ⟨k, -, hindex⟩
      · exact hnone
      · rw [hindex, hc]
        rfl
    simp [passedBy, hc, hnone]
  | some c =>
    rcases hroomed.index with ⟨hempty, hnone⟩ | ⟨k, hdrop, hindex⟩
    · -- a flush has left no frame to pass
      have hlast : r.lastPosition data = 0 := by simp [lastPosition_eq_length, hempty]
      constructor
      · intro hpass
        cases hd₀ : s.circularBuffer.items[c]? with
        | none => simp [passedBy, hc, hd₀] at hpass
        | some d₀ =>
          obtain ⟨-, q, hq, -⟩ := (mem_passedBy_iff hfind hc hd₀ htaken.videoIndex _ _).mp hpass
          omega
      · rintro ⟨hp, -⟩
        omega
    · have hold (hp : p < r.lastPosition data) : s.circularBuffer.items[k + (r.selfDrops + p)]? = some d := by
        rcases getElem?_listed hd with ⟨-, hd⟩ | ⟨hplast, -⟩
        · rw [← List.getElem?_drop, ← hdrop, hd]
        · omega
      rw [hindex, hc]
      simp only [Option.map_some, Option.mem_some_iff, exists_eq_left']
      cases hd₀ : s.circularBuffer.items[c]? with
      | none =>
        have hge := List.getElem?_eq_none_iff.mp hd₀
        simp only [passedBy, hc, hd₀, Option.bind_some, List.not_mem_nil, false_iff, not_and]
        intro hp
        have hlt := (List.getElem?_eq_some_iff.mp (hold hp)).1
        omega
      | some d₀ =>
        rw [mem_passedBy_iff hfind hc hd₀ htaken.videoIndex]
        constructor
        · rintro ⟨-, q, hq, e', he', hle, hseq'⟩
          have hqp : q = p := hord'.eq_of_seq he' he (hseq'.trans hseq.symm)
          subst hqp
          have hcle := (hord.le_iff hd₀ (hold hq)).mp (by omega)
          exact ⟨hq, by omega⟩
        · rintro ⟨hp, hle⟩
          have hcle := (hord.le_iff hd₀ (hold hp)).mpr (by omega)
          exact ⟨rfl, p, hp, e, he, by omega, hseq⟩

theorem passedByRedirect_iff {n₁ : DataNotifier} (hs : r.Slots) (hn₁ : n₁ ∈ r.notifiers) (last p : Nat) :
    (r.listed data).PassedByRedirect last p n₁.readIndex ↔ n₁.isKeyRedirectReceiver ∧
      ∃ c ∈ (r.activated data n₁).videoIndex, c ≤ p ∧ p < last := by
  have hlisted : (r.listed data).notifiers = r.notifiers.map (r.activated data) := by rw [listed_eq]
  have hslots := hs.of_sameSlots (listed_sameSlots r data)
  have hredirected (n : DataNotifier) :
      (r.activated data n).isKeyRedirectReceiver = n.isKeyRedirectReceiver := by
    rw [DataNotifier.isKeyRedirectReceiver, DataNotifier.isKeyRedirectReceiver, receiver_activated]
  have hindex (n : DataNotifier) : (r.activated data n).readIndex = n.readIndex :=
    congrArg (·.2.2) (slot_activated r data n)
  rw [PassedByRedirect, hlisted]
  constructor
  · rintro ⟨n₂, hn₂, hredirect, hslot, c, hc, hrange⟩
    rw [hslots.findIndex (hlisted ▸ hn₂)] at hslot
    obtain ⟨n₃, hn₃, rfl⟩ := List.mem_map.mp hn₂
    rw [hindex, Option.some_inj] at hslot
    rw [hs.eq_of_index hn₃ hn₁ hslot] at hc hredirect
    exact ⟨hredirected n₁ ▸ hredirect, c, hc, hrange⟩
  · rintro ⟨hredirect, c, hc, hrange⟩
    have hmem : r.activated data n₁ ∈ (r.listed data).notifiers := hlisted ▸ List.mem_map_of_mem hn₁
    refine ⟨_, List.mem_map_of_mem hn₁, (hredirected n₁).trans hredirect, ?_, c, hc, hrange⟩
    rw [hslots.findIndex hmem, hindex]

end BufferDispatcher

namespace History

open BufferDispatcher

variable {h h' : History} {m : MediaData} {r : BufferDispatcher}

theorem selfDrops_le_one (r : BufferDispatcher) : r.selfDrops ≤ 1 := by
  rw [selfDrops]
  split <;> omega

/-- The frames that a receiver passes at a new key frame are those that the redirection
marks, or it has passed them before. -/
theorem passes_iff_marked {n n₁ : DataNotifier} {p : Nat} {d : DataSpec} {data : DataSpec}
    (hk : FlagsKept h) (hs : h.dispatcher.Slots) (hsame : SameSlots h.dispatcher r)
    (hsub : r.circularBuffer.items ⊆ h.dispatcher.circularBuffer.items)
    (hn : n ∈ h.dispatcher.notifiers) (hn₁ : n₁ ∈ r.notifiers)
    (hroomed : Roomed h.dispatcher r n n₁) (hok : r.SkipsRead)
    (hd : (r.listed data).circularBuffer.items[p]? = some d) :
    h.HasPassed n.attachment d.seq ∨ (r.Taken data n₁ ∧ p < r.lastPosition data ∧
        ∃ c ∈ n₁.videoIndex, c ≤ r.selfDrops + p) ↔
      h.HasPassed n.attachment d.seq ∨ (r.redirects data = true ∧
        (r.listed data).PassedByRedirect (r.lastPosition data) p n.readIndex) := by
  have hindex : n₁.readIndex = n.readIndex := congrArg (·.2.2) hroomed.slot
  have hbit {e : DataSpec} (he : e ∈ r.circularBuffer.items)
      (hset : e.reserveFlag.getLsbD n₁.readIndex = true) : h.HasPassed n.attachment e.seq := by
    rw [hindex] at hset
    exact ((hk.flags e (hsub he)).read hs hn).mp hset
  rw [← hindex, passedByRedirect_iff (hs.of_sameSlots hsame) hn₁, videoIndex_activated]
  constructor
  · rintro (hpass | ⟨htaken, hp, c, hc, hle⟩)
    · exact Or.inl hpass
    have hold := ((getElem?_listed hd).resolve_right fun hlast => by omega).2
    by_cases hjump : r.jumps data ∧ n₁.isKeyModeReceiver
    · left
      have hkeys : r.keyIndexList = [] := by
        have hjumps := hjump.1
        rw [jumps, Bool.and_eq_true] at hjumps
        simpa using hjumps.2
      refine hbit (List.mem_of_getElem? hold) ((hok n₁ hn₁ c hc).1 hkeys hjump.2 d ?_)
      refine List.mem_of_getElem? (i := r.selfDrops + p - max c r.selfDrops) ?_
      rw [List.getElem?_drop, Nat.add_sub_cancel' (by omega), hold]
    · obtain ⟨hredirects, hredirected⟩ := htaken.resolve_left hjump
      have hnone : n₁.videoIndex ≠ none := by
        rw [show n₁.videoIndex = some c from hc]
        exact Option.some_ne_none c
      rw [if_neg fun hor => hor.elim hjump fun hactive => hnone hactive.2]
      by_cases hcp : c ≤ p
      · exact Or.inr ⟨hredirects, hredirected, c, hc, hcp, hp⟩
      · -- the frame at the index itself, one place further back once the head is dropped
        left
        have hone : r.selfDrops ≤ 1 := selfDrops_le_one r
        have hplace : r.selfDrops + p = c := by omega
        rw [hplace] at hold
        have hredirect : r.keyRedirect = true := by
          rw [redirects, Bool.and_eq_true] at hredirects
          exact hredirects.2
        exact hbit (List.mem_of_getElem? hold)
          ((hok n₁ hn₁ c hc).2 hredirect hredirected (by omega) (by omega) d hold)
  · rintro (hpass | ⟨hredirects, hredirected, c, hc, hcp, hp⟩)
    · exact Or.inl hpass
    · right
      split at hc
      · cases hc
        omega
      · exact ⟨Or.inr ⟨hredirects, hredirected⟩, hp, c, hc, by omega⟩

theorem hasPassed_input {n n₁ : DataNotifier} {p : Nat} {d : DataSpec} (hs : h.dispatcher.Slots)
    (hs' : h'.dispatcher.Slots) (hord : h.dispatcher.InOrder) (hord' : h'.dispatcher.InOrder)
    (hstep : h.step (.inputData (some m)) = .ok h')
    (hdisp : h'.dispatcher = r.appendData (h.dispatcher.newData m))
    (hredirect : r.keyRedirect = h.dispatcher.keyRedirect) (hn : n ∈ h.dispatcher.notifiers)
    (hn₁ : n₁ ∈ r.notifiers) (hroomed : Roomed h.dispatcher r n n₁)
    (hd : (r.listed (h.dispatcher.newData m)).circularBuffer.items[p]? = some d) :
    h'.HasPassed n.attachment d.seq ↔ h.HasPassed n.attachment d.seq ∨
      (r.Taken (h.dispatcher.newData m) n₁ ∧ p < r.lastPosition (h.dispatcher.newData m) ∧
        ∃ c ∈ n₁.videoIndex, c ≤ r.selfDrops + p) := by
  have hhanded : h.dispatcher.handedBy (.inputData (some m)) = [] := rfl
  rw [hasPassed_step hstep, hhanded]
  simp only [List.not_mem_nil, false_and, exists_false, false_or]
  apply or_congr_right
  by_cases hkey : (h.dispatcher.newData m).isKeyVideoFrame
  · have hcond : (decide (m.mediaType = .video) && m.keyFrame) = true := hkey
    rw [passings, if_pos hcond, List.mem_flatMap]
    rw [hdisp] at hs' hord' ⊢
    constructor
    · rintro ⟨n₂, hn₂, hpass⟩
      obtain ⟨hn₂, hskips⟩ := List.mem_filter.mp hn₂
      have heq := hs.eq_of_attachment hn hn₂ (mem_passedBy hpass).1
      subst heq
      have htaken := (skips_iff_taken hkey hredirect hroomed).mp hskips
      exact ⟨htaken, (mem_passedBy_input hs' hord hord' hn₁ hroomed htaken hd).mp hpass⟩
    · rintro ⟨htaken, hpass⟩
      refine ⟨n, List.mem_filter.mpr ⟨hn, (skips_iff_taken hkey hredirect hroomed).mpr htaken⟩, ?_⟩
      exact (mem_passedBy_input hs' hord hord' hn₁ hroomed htaken hd).mpr hpass
  · have hcond : ¬ (decide (m.mediaType = .video) && m.keyFrame) = true := hkey
    rw [passings, if_neg hcond]
    simp [Taken, jumps, redirects, hkey]

theorem FlagsKept.input {mediaData : Option MediaData} (hk : FlagsKept h) (hs : h.dispatcher.Slots)
    (hnum : Numbered h) (hs' : h'.dispatcher.Slots) (hnum' : Numbered h')
    (hok : h.dispatcher.KeepsFlags (.inputData mediaData))
    (hstep : h.step (.inputData mediaData) = .ok h') : FlagsKept h' := by
  have hexec : h.dispatcher.inputData mediaData = .ok h'.dispatcher := (step_ok hstep).1
  have hleft (hnotifiers : h'.dispatcher.notifiers = h.dispatcher.notifiers)
      (hitems : h'.dispatcher.circularBuffer = h.dispatcher.circularBuffer)
      (hflag : h'.dispatcher.readRefFlag = h.dispatcher.readRefFlag) : FlagsKept h' := by
    have hpassings : h.dispatcher.passings (.inputData mediaData) h'.dispatcher = [] := by
      apply List.eq_nil_iff_forall_not_mem.mpr
      intro p hp
      obtain ⟨n, hn, hp⟩ := mem_passings hp
      have hsame : h.dispatcher.passedBy h'.dispatcher n = h.dispatcher.passedBy h.dispatcher n := by
        rw [passedBy, passedBy, findNotifier, findNotifier, hnotifiers, hitems]
      rw [hsame, passedBy_self hs hnum.increasing hn] at hp
      cases hp
    have hsame : SameSlots h.dispatcher h'.dispatcher :=
      inputData_sameSlots hexec
    exact hk.of_sublist hsame (hitems ▸ List.Subset.refl _) (hasPassed_of_none hstep rfl hpassings)
  rcases inputData_cases hexec with ⟨heq, -⟩ | ⟨m, -, -, heq⟩ | ⟨m, r, rfl, ha, hr, hdisp⟩
  · exact hleft (by rw [heq]) (by rw [heq]) (by rw [heq])
  · exact hleft (by rw [heq]; rfl) (by rw [heq]; rfl) (by rw [heq]; rfl)
  have hsame := room_sameSlots ha hr
  have hsub := items_room_subset ha hr
  obtain ⟨items, keyRedirect, heq, hmarks⟩ := appendData_eq r (h.dispatcher.newData m)
  have hitems : h'.dispatcher.circularBuffer.items = items := by rw [hdisp, heq]
  rw [← hitems] at hmarks
  refine hk.of_marks (inputData_sameSlots hexec) ?_ hmarks ?_ ?_
  · intro d hd
    obtain ⟨p, hp⟩ := List.mem_iff_getElem?.mp hd
    rcases getElem?_listed hp with ⟨-, hold⟩ | ⟨-, rfl⟩
    · exact hk.flags d (hsub (List.mem_of_getElem? hold))
    · intro k hlt
      simp only [BitVec.getLsbD_zero, Bool.false_eq_true, false_iff, not_exists, not_and,
        BitVec.ofNat_eq_ofNat]
      rintro n - - (⟨x, hx, -, hseq⟩ | hpass)
      · have hlt := (List.getElem?_eq_some_iff.mp (hnum.handed x hx).1).1
        rw [hnum.count, hseq] at hlt
        exact Nat.lt_irrefl _ hlt
      · exact Nat.lt_irrefl _ (hnum.passed _ hpass).1
  · intro p d hd n hn
    obtain ⟨n₁, hn₁, hroomed⟩ := exists_roomed ha hr hn
    rw [hasPassed_input hs hs' hnum.increasing hnum'.increasing hstep hdisp (keyRedirect_room ha hr)
      hn hn₁ hroomed hd]
    by_cases hkey : (h.dispatcher.newData m).isKeyVideoFrame
    · exact passes_iff_marked hk hs hsame hsub hn hn₁ hroomed
        (hok ha hkey r (by simp [hr, Except.toOption])) hd
    · simp [Taken, jumps, redirects, hkey]
  · rintro p k ⟨-, n₂, hn₂, -, hslot, -⟩
    have hslots := (hs.of_sameSlots hsame).of_sameSlots (listed_sameSlots r (h.dispatcher.newData m))
    rw [hslots.findIndex hn₂, Option.some_inj] at hslot
    exact ((hsame.trans (listed_sameSlots r _)).exists_iff fun _ i => i = k).mp ⟨n₂, hn₂, hslot⟩

theorem FlagsKept.step {call : Call} (hk : FlagsKept h) (hs : h.dispatcher.Slots) (hnum : Numbered h)
    (hok : h.dispatcher.KeepsFlags call) (hstep : h.step call = .ok h') : FlagsKept h' := by
  cases call
  case inputData =>
    exact hk.input hs hnum (hs.exec (step_ok hstep).1) (hnum.step hs hstep) hok hstep
  case flushBuffer => exact hk.flush hstep
  case cancelReserve => exact hk.cancel hok hstep
  case attachReceiver => exact hk.attach hnum hstep
  case detachReceiver => exact hk.detach hs hok hstep
  case releaseAllReceiver => exact hk.release hok hstep
  case readBufferData => exact hk.read hs hnum hok hstep
  all_goals exact hk.quiet (by trivial) hstep

/-- In every run whose calls meet the condition, the flags say who has passed a frame. -/
theorem run_flagsOwned {maxCapacity capacityIncrement : Nat} {dataMode : MediaDispacherMode}
    {calls : List Call} (run : History.Run (fun h call => h.dispatcher.KeepsFlags call) maxCapacity
      capacityIncrement dataMode calls h) : h.FlagsOwned := by
  have hkept : FlagsKept h ∧ h.dispatcher.Slots ∧ Numbered h := by
    apply GuardedRun.invariant (I := fun h => FlagsKept h ∧ h.dispatcher.Slots ∧ Numbered h) _ _ run
    · refine ⟨?_, Slots.create .., Numbered.create ..⟩
      constructor <;> simp [BufferDispatcher.create]
    · rintro h call h' ⟨hk, hs, hnum⟩ hok hstep
      exact ⟨hk.step hs hnum hok hstep, hs.exec (step_ok hstep).1, hnum.step hs hstep⟩
  exact hkept.1.owned hkept.2.1

/-- A receiver reads a key frame and leaves, and another one comes. -/
def reuseSlotCalls : List Call :=
  [.attachReceiver { receiverId := 1 }, .key, .readBufferData 1 .video, .detachReceiver 1,
    .attachReceiver { receiverId := 2 }]

/-- The newcomer gets the slot, and with it the flag on a frame that it has not read. -/
theorem reuseSlot_not_flagsOwned :
    ¬ ∀ maxCapacity capacityIncrement dataMode calls h,
      History.Run (fun _ _ => True) maxCapacity capacityIncrement dataMode calls h → h.FlagsOwned := by
  intro hall
  obtain ⟨h, hrun⟩ := Option.isSome_iff_exists.mp
    (show (History.runOf (fun _ _ => True) reuseSlotCalls).isSome by decide +kernel)
  have hread : (History.runOf (fun _ _ => True) reuseSlotCalls).all fun h =>
      h.dispatcher.notifiers.any fun n => h.dispatcher.circularBuffer.items.any fun d =>
        h.dispatcher.isDataReaded n.receiverId d && !decide (h.HasPassed n.attachment d.seq) := by
    decide +kernel
  rw [hrun] at hread
  obtain ⟨n, hn, hread⟩ := List.any_eq_true.mp (show h.dispatcher.notifiers.any _ = true from hread)
  obtain ⟨d, hd, hread⟩ := List.any_eq_true.mp hread
  obtain ⟨hread, hnot⟩ := Bool.and_eq_true_iff.mp hread
  have hpassed := (hall _ _ _ _ h (GuardedRun.of_check hrun)).readed n hn d hd hread
  simp [hpassed] at hnot

/-- The buffer is flushed before the first receiver leaves, and the second one has not
read the new head. -/
theorem run_freeSlot_flagsOwned :
    ∃ h, History.Run (fun h call => h.dispatcher.KeepsFlags call) MAX_BUFFER_CAPACITY
        BUFFER_CAPACITY_INCREMENT .videoAudioMixed
        [.attachReceiver { receiverId := 1 }, .key, .readBufferData 1 .video, .flushBuffer,
          .detachReceiver 1, .attachReceiver { receiverId := 2 }, .key] h ∧
      ∃ d ∈ h.dispatcher.circularBuffer.items.head?, ∃ n ∈ h.dispatcher.notifiers,
        ¬ h.HasPassed n.attachment d.seq := by
  obtain ⟨h, hrun⟩ := Option.isSome_iff_exists.mp
    (show (History.runOf (fun h call => h.dispatcher.KeepsFlags call)
      [.attachReceiver { receiverId := 1 }, .key, .readBufferData 1 .video, .flushBuffer,
        .detachReceiver 1, .attachReceiver { receiverId := 2 }, .key]).isSome by decide +kernel)
  have hreserve : (History.runOf (fun h call => h.dispatcher.KeepsFlags call)
      [.attachReceiver { receiverId := 1 }, .key, .readBufferData 1 .video, .flushBuffer,
        .detachReceiver 1, .attachReceiver { receiverId := 2 }, .key]).all
        (·.dispatcher.headFrameNeedReserve) := by decide +kernel
  rw [hrun] at hreserve
  exact ⟨h, GuardedRun.of_check hrun, (run_flagsOwned (GuardedRun.of_check hrun)).head.mp hreserve⟩

end History

end WifiDisplay
