import WifiDisplay.BufferDispatcherSlots

/-! The bits of `readRefFlag_` are those of the attached receivers' slots, as long as no expired
receiver is released. -/

namespace WifiDisplay

namespace BufferDispatcher

variable {s s' : BufferDispatcher} {call : Call}

/-- What `AttachReceiver` returns. -/
def attachReceiverResult (s : BufferDispatcher) (receiver : BufferReceiver) : Int :=
  if (s.findNotifier receiver.receiverId).isSome then 0
  else if s.readRefFlag = 0xFFFF then -1
  else if s.usableRef &&& (s.usableRef - 1) ≠ 0 then -1
  else 0

/-- The slots of a dispatcher, and what a receiver that is not attached gets of it. -/
structure SlotsRight (s : BufferDispatcher) : Prop where
  distinct : (s.notifiers.map (·.readIndex)).Nodup
  lt : ∀ n ∈ s.notifiers, n.readIndex < 16
  flag : ∀ k, s.readRefFlag.getLsbD k = true ↔ ∃ n ∈ s.notifiers, n.readIndex = k
  fails : ∀ receiver, s.findNotifier receiver.receiverId = none →
    (s.attachReceiverResult receiver = -1 ↔ s.notifiers.length = 16)
  unchanged : ∀ receiver, s.attachReceiverResult receiver = -1 →
    (s.attachReceiver receiver).notifiers = s.notifiers ∧
      (s.attachReceiver receiver).readRefFlag = s.readRefFlag
  attaches : ∀ receiver, s.attachReceiverResult receiver = 0 →
    ((s.attachReceiver receiver).findNotifier receiver.receiverId).isSome

/-- No receiver has expired when all of them are released. -/
def ReturnsSlots (s : BufferDispatcher) (call : Call) : Prop :=
  call = .releaseAllReceiver → ∀ n ∈ s.notifiers, n.receiver.isSome

instance (s : BufferDispatcher) (call : Call) : Decidable (s.ReturnsSlots call) :=
  inferInstanceAs (Decidable (_ → _))

/-- Every bit that is taken belongs to a receiver. -/
structure SlotsOwned (s : BufferDispatcher) : Prop extends Slots s where
  owned : ∀ k, s.readRefFlag.getLsbD k = true → ∃ n ∈ s.notifiers, n.readIndex = k

/-- A list of different numbers below a bound is full exactly when it has all of them. -/
theorem length_eq_iff_forall_mem {l : List Nat} {bound : Nat} (hnodup : l.Nodup)
    (hlt : ∀ k ∈ l, k < bound) : l.length = bound ↔ ∀ k < bound, k ∈ l := by
  have hsub : List.Subperm l (List.range bound) :=
    List.subperm_of_subset hnodup fun k hk => List.mem_range.mpr (hlt k hk)
  constructor
  · intro hlen k hk
    have hperm := hsub.perm_of_length_le (by rw [List.length_range, hlen])
    exact hperm.mem_iff.mpr (List.mem_range.mpr hk)
  · intro hall
    have hsub' : List.Subperm (List.range bound) l :=
      List.subperm_of_subset List.nodup_range fun k hk => hall k (List.mem_range.mp hk)
    have hle := hsub.length_le
    have hge := hsub'.length_le
    rw [List.length_range] at hle hge
    omega

theorem eq_allOnes_iff {x : BitVec 16} : x = 0xFFFF ↔ ∀ k < 16, x.getLsbD k = true := by
  constructor
  · rintro rfl k hk
    rw [show (0xFFFF : BitVec 16) = BitVec.allOnes 16 from rfl, BitVec.getLsbD_allOnes]
    simpa using hk
  · intro h
    apply BitVec.eq_of_getLsbD_eq
    intro k hk
    rw [h k hk, show (0xFFFF : BitVec 16) = BitVec.allOnes 16 from rfl, BitVec.getLsbD_allOnes]
    simp [hk]

/-- The bits that are left are those of no receiver that is still there. -/
theorem getLsbD_releaseAllReceiver {k : Nat} (hk : k < 16) :
    s.releaseAllReceiver.readRefFlag.getLsbD k = true ↔ s.readRefFlag.getLsbD k = true ∧
      ∀ n ∈ s.notifiers, n.receiver.isSome → n.readIndex ≠ k := by
  have hfold (ns : List DataNotifier) (s : BufferDispatcher)
      (hbit : s.readRefFlag.getLsbD k = true) (hns : ∀ n ∈ ns, n.readIndex ≠ k) :
      (ns.foldl detachNotifier s).readRefFlag.getLsbD k = true := by
    induction ns generalizing s with
    | nil => exact hbit
    | cons n ns ih =>
      obtain ⟨recvBitRef, heq⟩ := detachNotifier_cases s n
      rw [List.foldl_cons]
      refine ih _ ?_ fun n' hn' => hns n' (List.mem_cons_of_mem _ hn')
      rw [heq, getLsbD_setFlag, if_neg fun h => hns n List.mem_cons_self h.1.symm]
      exact hbit
  refine ⟨readRefFlag_releaseAllReceiver hk, fun ⟨hbit, hns⟩ => ?_⟩
  refine hfold _ s hbit fun n hn => ?_
  obtain ⟨hn, halive⟩ := List.mem_filter.mp hn
  exact hns n hn halive

namespace SlotsOwned

theorem full_iff (hs : SlotsOwned s) : s.readRefFlag = 0xFFFF ↔ s.notifiers.length = 16 := by
  have hlt : ∀ k ∈ s.notifiers.map (·.readIndex), k < 16 := by
    intro k hk
    obtain ⟨n, hn, rfl⟩ := List.mem_map.mp hk
    exact hs.lt n hn
  rw [eq_allOnes_iff, ← List.length_map (·.readIndex), length_eq_iff_forall_mem hs.slots hlt]
  refine forall₂_congr fun k _ => ⟨fun h => ?_, fun h => ?_⟩
  · obtain ⟨n, hn, rfl⟩ := hs.owned k h
    exact List.mem_map_of_mem hn
  · obtain ⟨n, hn, rfl⟩ := List.mem_map.mp h
    exact hs.taken n hn

/-- The lowest free bit is one bit, so only a full dispatcher refuses a receiver. -/
theorem result_eq (s : BufferDispatcher) (receiver : BufferReceiver) :
    s.attachReceiverResult receiver =
      if s.findNotifier receiver.receiverId = none ∧ s.readRefFlag = 0xFFFF then -1 else 0 := by
  rw [attachReceiverResult]
  by_cases hfind : s.findNotifier receiver.receiverId = none
  · by_cases hfull : s.readRefFlag = 0xFFFF
    · simp [hfind, hfull]
    · obtain ⟨hlt, -, href⟩ := usableRef_eq hfull
      have hpow : ¬ s.usableRef &&& (s.usableRef - 1) ≠ 0 := by
        rw [href, twoPow_and_pred (by omega)]
        simp
      rw [if_neg (by simp [hfind]), if_neg hfull, if_neg hpow, if_neg fun h => hfull h.2]
  · rw [if_pos (Option.isSome_iff_ne_none.mpr hfind), if_neg fun h => hfind h.1]

theorem slotsRight (hs : SlotsOwned s) : s.SlotsRight where
  distinct := hs.slots
  lt := hs.lt
  flag k := ⟨hs.owned k, fun ⟨n, hn, hk⟩ => hk ▸ hs.taken n hn⟩
  fails receiver hnew := by
    rw [result_eq]
    by_cases hfull : s.readRefFlag = 0xFFFF
    · rw [if_pos ⟨hnew, hfull⟩]
      exact iff_of_true rfl (hs.full_iff.mp hfull)
    · rw [if_neg fun h => hfull h.2]
      exact iff_of_false (by decide) fun h => hfull (hs.full_iff.mpr h)
  unchanged receiver hfails := by
    rcases attachReceiver_eq s receiver with ⟨-, heq⟩ | ⟨hyes, -⟩
    · rw [heq]
      exact ⟨rfl, rfl⟩
    · rw [result_eq, if_neg fun h => hyes.2 h.2] at hfails
      cases hfails
  attaches receiver hresult := by
    rcases attachReceiver_eq s receiver with ⟨hno, heq⟩ | ⟨hyes, heq⟩
    · rw [heq, Option.isSome_iff_ne_none]
      intro hfind
      have hfull : s.readRefFlag = 0xFFFF := by
        by_contra hfull
        exact hno ⟨hfind, hfull⟩
      rw [result_eq, if_pos ⟨hfind, hfull⟩] at hresult
      cases hresult
    · rw [heq, findNotifier, List.find?_isSome]
      exact ⟨s.newNotifier receiver, by simp, by simp [newNotifier]⟩

theorem of_sameSlots (hs : SlotsOwned s) (h : SameSlots s s') : SlotsOwned s' where
  toSlots := hs.toSlots.of_sameSlots h
  owned k hk := by
    rw [h.readRefFlag] at hk
    obtain ⟨n, hn, rfl⟩ := hs.owned k hk
    have hmem : n.slot ∈ s'.notifiers.map (·.slot) := h.slots ▸ List.mem_map_of_mem hn
    obtain ⟨n', hn', heq⟩ := List.mem_map.mp hmem
    exact ⟨n', hn', congrArg (·.2.2) heq⟩

theorem attach {receiver : BufferReceiver} (hs : SlotsOwned s) : SlotsOwned (s.attachReceiver receiver) := by
  rcases attachReceiver_eq s receiver with ⟨-, heq⟩ | ⟨hyes, heq⟩
  · rw [heq]
    exact hs
  · refine ⟨hs.toSlots.attach hyes, fun k hk => ?_⟩
    rw [heq] at hk ⊢
    rw [getLsbD_setFlag] at hk
    by_cases hnew : k = s.newIndex ∧ s.newIndex < 16
    · exact ⟨s.newNotifier receiver, List.mem_append_right _ List.mem_cons_self, hnew.1.symm⟩
    · rw [if_neg hnew] at hk
      obtain ⟨n, hn, rfl⟩ := hs.owned k hk
      exact ⟨n, List.mem_append_left _ hn, rfl⟩

theorem detach {n : DataNotifier} (hs : SlotsOwned s) (hn : n ∈ s.notifiers) :
    SlotsOwned (s.detachNotifier n) := by
  refine ⟨hs.toSlots.detach hn, fun k hk => ?_⟩
  rw [detachNotifier_eq (hs.findIndex hn)] at hk ⊢
  rw [getLsbD_setFlag] at hk
  by_cases hown : k = n.readIndex ∧ n.readIndex < 16
  · rw [if_pos hown] at hk
    cases hk
  · rw [if_neg hown] at hk
    obtain ⟨m, hm, rfl⟩ := hs.owned k hk
    refine ⟨m, List.mem_filter.mpr ⟨hm, ?_⟩, rfl⟩
    have hne : m.receiverId ≠ n.receiverId := by
      intro hid
      rw [List.inj_on_of_nodup_map hs.ids hm hn hid] at hown
      exact hown ⟨rfl, hs.lt n hn⟩
    simpa using hne

/-- Releasing all receivers gives all slots back exactly when none has expired. -/
theorem releaseAll_iff (hs : SlotsOwned s) :
    s.releaseAllReceiver.SlotsRight ↔ ∀ n ∈ s.notifiers, n.receiver.isSome := by
  obtain ⟨recvBitRef, heq⟩ := releaseAllReceiver_eq s
  constructor
  · intro hright n hn
    by_contra hexpired
    have hbit : s.releaseAllReceiver.readRefFlag.getLsbD n.readIndex = true := by
      refine (getLsbD_releaseAllReceiver (hs.lt n hn)).mpr ⟨hs.taken n hn, fun m hm halive hindex => ?_⟩
      rw [hs.eq_of_index hm hn hindex] at halive
      exact hexpired halive
    obtain ⟨m, hm, -⟩ := (hright.flag _).mp hbit
    rw [heq] at hm
    cases hm
  · intro halive
    refine slotsRight ⟨by rw [heq]; constructor <;> simp, fun k hk => ?_⟩
    obtain ⟨hbit, hnone⟩ := (getLsbD_releaseAllReceiver (BitVec.lt_of_getLsbD hk)).mp hk
    obtain ⟨n, hn, hindex⟩ := hs.owned k hbit
    exact absurd hindex (hnone n hn (halive n hn))

theorem of_slotsRight (hs : Slots s) (h : s.SlotsRight) : SlotsOwned s := ⟨hs, fun k => (h.flag k).mp⟩

theorem exec_iff (hs : SlotsOwned s) (h : s.exec call = .ok s') : s'.SlotsRight ↔ s.ReturnsSlots call := by
  by_cases hrelease : call = .releaseAllReceiver
  · subst hrelease
    cases h
    rw [hs.releaseAll_iff]
    exact ⟨fun h _ => h, fun h => h rfl⟩
  · refine iff_of_true ?_ fun h => absurd h hrelease
    by_cases hmoves : call.Moves
    · cases call
      case attachReceiver receiver =>
        cases h
        exact hs.attach.slotsRight
      case detachReceiver receiverId =>
        cases h
        rw [detachReceiver]
        split
        · exact hs.slotsRight
        · rename_i n hn
          exact (hs.detach (mem_of_find hn).1).slotsRight
      case releaseAllReceiver => exact absurd rfl hrelease
      all_goals exact hmoves.elim
    · exact (hs.of_sameSlots (exec_sameSlots hmoves h)).slotsRight

end SlotsOwned

/-- The slots are right after every call, and a further call keeps them right exactly when it does
not release an expired receiver. -/
theorem run_slotsRight {maxCapacity capacityIncrement : Nat} {dataMode : MediaDispacherMode}
    {calls : List Call}
    (run : GuardedRun exec ReturnsSlots (create maxCapacity capacityIncrement dataMode) calls s) :
    s.SlotsRight ∧ ∀ call s', s.exec call = .ok s' → (s'.SlotsRight ↔ s.ReturnsSlots call) := by
  have howned : SlotsOwned s := by
    refine run.invariant (I := SlotsOwned) ⟨Slots.create .., fun k hk => ?_⟩ fun s call s' hs hok h => ?_
    · simp [create] at hk
    · exact .of_slotsRight (hs.toSlots.exec h) ((hs.exec_iff h).mpr hok)
  exact ⟨howned.slotsRight, fun call s' => howned.exec_iff⟩

/-- Receivers come and go, one of them expires, and all slots are given back in the end. -/
theorem run_slotsRight_threeReceivers : ∃ s : BufferDispatcher,
    (s.notifiers.map (·.readIndex) = [2, 0] ∧ s.readRefFlag = 5) ∧ s.SlotsRight := by
  have hsome : (GuardedRun.check exec ReturnsSlots
      (create MAX_BUFFER_CAPACITY BUFFER_CAPACITY_INCREMENT .videoAudioMixed)
      [.attachReceiver { receiverId := 1 }, .releaseAllReceiver, .attachReceiver { receiverId := 1 },
        .attachReceiver { receiverId := 2 }, .attachReceiver { receiverId := 3 }, .expire 2,
        .detachReceiver 2, .detachReceiver 1, .attachReceiver { receiverId := 4 }]).any
        (fun s => s.notifiers.map (·.readIndex) = [2, 0] ∧ s.readRefFlag = 5) = true := by
    decide +kernel
  obtain ⟨s, hrun, hs⟩ := (Option.any_eq_true _ _).mp hsome
  exact ⟨s, of_decide_eq_true hs, (run_slotsRight (GuardedRun.of_check hrun)).1⟩

/-- The slot of a receiver that has expired is lost. -/
theorem expiredReceiver_not_slotsRight : ¬ ∀ (maxCapacity capacityIncrement : Nat)
    (dataMode : MediaDispacherMode) (calls : List Call) (s : BufferDispatcher),
    GuardedRun exec (fun _ _ => True) (create maxCapacity capacityIncrement dataMode) calls s →
      s.SlotsRight := by
  intro hall
  have hsome : (GuardedRun.check exec (fun _ _ => True)
      (create MAX_BUFFER_CAPACITY BUFFER_CAPACITY_INCREMENT .videoAudioMixed)
      [.attachReceiver { receiverId := 1 }, .expire 1, .releaseAllReceiver]).any
        (fun s => s.notifiers = [] ∧ s.readRefFlag.getLsbD 0 = true) = true := by
    decide +kernel
  obtain ⟨s, hrun, hs⟩ := (Option.any_eq_true _ _).mp hsome
  obtain ⟨hempty, hbit⟩ := of_decide_eq_true hs
  obtain ⟨n, hn, -⟩ := ((hall _ _ _ _ s (GuardedRun.of_check hrun)).flag 0).mp hbit
  rw [hempty] at hn
  cases hn

end BufferDispatcher

end WifiDisplay
