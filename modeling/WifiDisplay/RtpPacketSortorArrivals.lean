import WifiDisplay.RtpPacketSortorRuns

/-! Runs of packets with consecutive numbers and the positions of a run that have
arrived at a sortor. -/

namespace WifiDisplay

open SerialNumber

namespace RtpPacketSortor

/-- What the callback gets for a position of a run. -/
def entry (first : BitVec 16) (packet : ℕ → RtpPacket) (i : ℕ) : Sorted :=
  (first + BitVec.ofNat 16 i, packet i)

/-- The sortor waits for position `m`; behind it the cache holds what has arrived. -/
structure Waits (first : BitVec 16) (packet : ℕ → RtpPacket) (arrived : List ℕ) (m : ℕ)
    (s : RtpPacketSortor) : Prop where
  next : s.nextSeqOut = first + BitVec.ofNat 16 m
  window : ∀ i ∈ arrived, i ≤ m + 32767
  cache : ∀ e, e ∈ s.pktSortCacheMap ↔ ∃ i ∈ arrived, m ≤ i ∧ entry first packet i = e

/-- What a sortor is set to, apart from what it holds. -/
structure SameSettings (s s' : RtpPacketSortor) : Prop where
  ssrc : s'.ssrc = s.ssrc
  sampleRate : s'.sampleRate = s.sampleRate
  kMin : s'.kMin = s.kMin
  kMax : s'.kMax = s.kMax

theorem SameSettings.refl (s : RtpPacketSortor) : SameSettings s s := ⟨rfl, rfl, rfl, rfl⟩

theorem SameSettings.trans {s s' s'' : RtpPacketSortor} (h : SameSettings s s')
    (h' : SameSettings s' s'') : SameSettings s s'' :=
  ⟨h'.ssrc.trans h.ssrc, h'.sampleRate.trans h.sampleRate, h'.kMin.trans h.kMin,
    h'.kMax.trans h.kMax⟩

variable {first : BitVec 16} {packet : ℕ → RtpPacket} {arrived : List ℕ} {m : ℕ}

theorem entry_injective {i j : ℕ} (hi : m ≤ i) (hi' : i ≤ m + 32767) (hj : m ≤ j)
    (hj' : j ≤ m + 32767) (h : (entry first packet i).1 = (entry first packet j).1) : i = j := by
  have hnat : BitVec.ofNat 16 i = BitVec.ofNat 16 j := add_left_cancel h
  have hmod := congrArg BitVec.toNat hnat
  rw [BitVec.toNat_ofNat, BitVec.toNat_ofNat] at hmod
  omega

theorem ahead_entry {i : ℕ} (hi : m ≤ i) (hi' : i ≤ m + 32767) :
    ahead (first + BitVec.ofNat 16 m) (first + BitVec.ofNat 16 i) = i - m := by
  have hsub : first + BitVec.ofNat 16 i - (first + BitVec.ofNat 16 m) = BitVec.ofNat 16 (i - m) := by
    apply BitVec.eq_of_toNat_eq
    simp only [BitVec.toNat_sub, BitVec.toNat_add, BitVec.toNat_ofNat]
    omega
  rw [ahead, hsub, BitVec.toNat_ofNat, Nat.mod_eq_of_lt (by omega)]

theorem isSeqValid_of_ahead {s : RtpPacketSortor} {seq : BitVec 16}
    (h : ahead s.nextSeqOut seq ≤ 32767) : s.isSeqValid seq := by
  have hhalf : halfMaxSeq = 32767 := rfl
  have hseq := seq.isLt
  have hnext := s.nextSeqOut.isLt
  simp only [isSeqValid, hhalf, toNat_lt]
  by_cases hlt : seq.toNat < s.nextSeqOut.toNat
  · rw [ahead_of_lt hlt] at h
    rw [if_pos hlt, if_neg (by omega)]
  · rw [ahead_of_le (by omega)] at h
    rw [if_neg hlt, if_neg (by omega)]

theorem Waits.mem_next {s : RtpPacketSortor} (h : Waits first packet arrived m s) {e : Sorted}
    (he : e ∈ s.pktSortCacheMap) (hnext : e.1 = s.nextSeqOut) : m ∈ arrived ∧ e = entry first packet m := by
  obtain ⟨i, hi, hm, rfl⟩ := (h.cache e).mp he
  rw [h.next] at hnext
  have hsame : (entry first packet i).1 = (entry first packet m).1 := hnext
  have him := entry_injective hm (h.window i hi) (Nat.le_refl m) (by omega) hsame
  subst him
  exact ⟨hi, rfl⟩

/-- The expected packet leaves the cache. -/
theorem Waits.pop {s : RtpPacketSortor} (h : Waits first packet arrived m s) :
    Waits first packet arrived (m + 1) (s.popIterator (entry first packet m).1) where
  next := by
    rw [popIterator_next, entry, BitVec.ofNat_add, ← BitVec.add_assoc]
    rfl
  window i hi := by
    have hw := h.window i hi
    omega
  cache e := by
    rw [popIterator_map, OrderedMap.mem_erase, h.cache]
    constructor
    · rintro ⟨⟨i, hi, hm, rfl⟩, hne⟩
      have him : i ≠ m := by
        rintro rfl
        exact hne rfl
      exact ⟨i, hi, by omega, rfl⟩
    · rintro ⟨i, hi, hm, rfl⟩
      refine ⟨⟨i, hi, by omega, rfl⟩, fun heq => ?_⟩
      have him := entry_injective (by omega) (h.window i hi) (Nat.le_refl m) (by omega) heq
      omega

theorem Waits.lowerBound {s : RtpPacketSortor} (h : Waits first packet arrived m s) (hm : m ∈ arrived) :
    s.pktSortCacheMap.lowerBound s.nextSeqOut = some (entry first packet m) := by
  rw [h.next]
  exact OrderedMap.lowerBound_key ((h.cache _).mpr ⟨m, hm, Nat.le_refl m, rfl⟩)

theorem Waits.lowerBound_ne {s : RtpPacketSortor} (h : Waits first packet arrived m s)
    (hm : m ∉ arrived) :
    (s.pktSortCacheMap.lowerBound s.nextSeqOut).map Prod.fst ≠ some s.nextSeqOut := by
  intro heq
  obtain ⟨e, he, hnext⟩ := Option.map_eq_some_iff.mp heq
  exact hm (h.mem_next (OrderedMap.lowerBound_some he).1 hnext).1

theorem Waits.popExpected {s : RtpPacketSortor} (h : Waits first packet arrived m s) {n : ℕ}
    (hn : s.pktSortCacheMap.size ≤ n) :
    ∃ k, (∀ i, m ≤ i → i < m + k → i ∈ arrived) ∧ m + k ∉ arrived ∧
      (RtpPacketSortor.popExpected n s).2 = (List.range' m k).map (entry first packet) ∧
      Waits first packet arrived (m + k) (RtpPacketSortor.popExpected n s).1 ∧
      SameSettings s (RtpPacketSortor.popExpected n s).1 := by
  induction n generalizing s m with
  | zero =>
    refine ⟨0, fun i hi hi' => by omega, ?_, rfl, h, .refl s⟩
    intro hm
    have hmem := (h.cache _).mpr ⟨m, hm, Nat.le_refl m, rfl⟩
    have hempty : s.pktSortCacheMap.toList = [] := List.length_eq_zero_iff.mp (Nat.le_zero.mp hn)
    rw [← OrderedMap.mem_toList, hempty] at hmem
    cases hmem
  | succ n ih =>
    by_cases hm : m ∈ arrived
    · have hmem := (h.cache _).mpr ⟨m, hm, Nat.le_refl m, rfl⟩
      have hsize := OrderedMap.size_erase hmem
      obtain ⟨k, hall, hmissing, hout, hwaits, hsame⟩ := ih h.pop (by rw [popIterator_map]; omega)
      have hpop : RtpPacketSortor.popExpected (n + 1) s =
          ((RtpPacketSortor.popExpected n (s.popIterator (entry first packet m).1)).1,
            entry first packet m ::
              (RtpPacketSortor.popExpected n (s.popIterator (entry first packet m).1)).2) := by
        rw [RtpPacketSortor.popExpected, h.lowerBound hm]
        simp only [entry, h.next, if_true]
      rw [hpop]
      refine ⟨k + 1, ?_, ?_, ?_, ?_, ⟨hsame.ssrc, hsame.sampleRate, hsame.kMin, hsame.kMax⟩⟩
      · intro i hi hi'
        by_cases him : i = m
        · rw [him]
          exact hm
        · exact hall i (by omega) (by omega)
      · rwa [show m + (k + 1) = m + 1 + k by omega]
      · rw [hout, List.range'_succ, List.map_cons]
      · rwa [show m + (k + 1) = m + 1 + k by omega]
    · refine ⟨0, fun i hi hi' => by omega, hm, ?_⟩
      have hstop : RtpPacketSortor.popExpected (n + 1) s = (s, []) := by
        have hne := h.lowerBound_ne hm
        rw [RtpPacketSortor.popExpected]
        split
        · rfl
        · rename_i seq packet' hlb
          rw [if_neg]
          rintro rfl
          exact hne (by rw [hlb]; rfl)
      rw [hstop]
      exact ⟨rfl, h, .refl s⟩

theorem Waits.setSortSize {s : RtpPacketSortor} (h : Waits first packet arrived m s) :
    Waits first packet arrived m s.setSortSize := ⟨h.next, h.window, h.cache⟩

theorem setSortSize_limit {s : RtpPacketSortor} (h : s.kMin ≤ s.kMax) :
    s.kMin ≤ s.setSortSize.maxSortSize := by
  simp only [RtpPacketSortor.setSortSize]
  split
  · exact h
  · omega

/-- One more position has arrived. -/
theorem Waits.arrive {s : RtpPacketSortor} (h : Waits first packet arrived m s) {i : ℕ}
    (hnew : i ∉ arrived) (hm : m ≤ i) (hi : i ≤ m + 32767) (count : ℕ) :
    Waits first packet (i :: arrived) m { s with
      rtpPacketLostConsecutiveCount := count
      pktSortCacheMap := s.pktSortCacheMap.emplace (entry first packet i).1 (entry first packet i).2 } where
  next := h.next
  window j hj := by
    rcases List.mem_cons.mp hj with rfl | hj
    · exact hi
    · exact h.window j hj
  cache e := by
    have hfresh : ∀ e ∈ s.pktSortCacheMap, e.1 ≠ (entry first packet i).1 := by
      intro e he heq
      obtain ⟨j, hj, hmj, rfl⟩ := (h.cache e).mp he
      exact hnew (entry_injective hmj (h.window j hj) hm hi heq ▸ hj)
    show e ∈ s.pktSortCacheMap.emplace _ _ ↔ _
    rw [OrderedMap.mem_emplace hfresh, h.cache]
    constructor
    · rintro (rfl | ⟨j, hj, hmj, rfl⟩)
      · exact ⟨i, List.mem_cons_self, hm, rfl⟩
      · exact ⟨j, List.mem_cons_of_mem i hj, hmj, rfl⟩
    · rintro ⟨j, hj, hmj, rfl⟩
      rcases List.mem_cons.mp hj with rfl | hj
      · exact Or.inl rfl
      · exact Or.inr ⟨j, hj, hmj, rfl⟩

/-- The cache is as large as the number of positions that wait in it. -/
theorem Waits.size {s : RtpPacketSortor} (h : Waits first packet arrived m s) (hnodup : arrived.Nodup) :
    s.pktSortCacheMap.size = (arrived.filter (m ≤ ·)).length := by
  have hmap : ((arrived.filter (m ≤ ·)).map (entry first packet)).Nodup := by
    apply List.Nodup.map_on _ (hnodup.filter _)
    intro i hi j hj heq
    simp only [List.mem_filter, decide_eq_true_eq] at hi hj
    exact entry_injective hi.2 (h.window i hi.1) hj.2 (h.window j hj.1) (congrArg Prod.fst heq)
  have hcache : s.pktSortCacheMap.toList.Nodup := by
    apply s.pktSortCacheMap.sorted.imp
    intro a b hlt heq
    rw [heq] at hlt
    exact BitVec.lt_irrefl _ hlt
  have hperm : s.pktSortCacheMap.toList.Perm ((arrived.filter (m ≤ ·)).map (entry first packet)) := by
    rw [List.perm_ext_iff_of_nodup hcache hmap]
    intro e
    rw [OrderedMap.mem_toList, h.cache, List.mem_map]
    constructor
    · rintro ⟨i, hi, hmi, rfl⟩
      exact ⟨i, List.mem_filter.mpr ⟨hi, by simpa using hmi⟩, rfl⟩
    · rintro ⟨i, hi, rfl⟩
      simp only [List.mem_filter, decide_eq_true_eq] at hi
      exact ⟨i, hi.1, hi.2, rfl⟩
  rw [OrderedMap.size, hperm.length_eq, List.length_map]

/-- A position arrives at most half a circle ahead of the one that is waited for: what
the sortor hands out are the positions up to the next missing one. When another one is
waited for, the cache has room. -/
theorem Waits.sortPacket {s : RtpPacketSortor} (h : Waits first packet arrived m s) {i : ℕ}
    (hnew : i ∉ arrived) (hm : m ≤ i) (hi : i ≤ m + 32767) (hnodup : arrived.Nodup)
    (hmissing : m ∉ arrived)
    (hroom : i ≠ m → ((i :: arrived).filter (m ≤ ·)).length ≤ s.maxSortSize) :
    ∃ k, (∀ j, m ≤ j → j < m + k → j ∈ i :: arrived) ∧ m + k ∉ i :: arrived ∧
      (s.sortPacket (entry first packet i).1 (entry first packet i).2).2 =
        (List.range' m k).map (entry first packet) ∧
      Waits first packet (i :: arrived) (m + k)
        (s.sortPacket (entry first packet i).1 (entry first packet i).2).1 ∧
      SameSettings s (s.sortPacket (entry first packet i).1 (entry first packet i).2).1 ∧
      (s.kMin ≤ s.kMax → s.kMin ≤ s.maxSortSize →
        s.kMin ≤ (s.sortPacket (entry first packet i).1 (entry first packet i).2).1.maxSortSize) := by
  have hvalid : s.isSeqValid (entry first packet i).1 := by
    apply isSeqValid_of_ahead
    rw [h.next, entry, ahead_entry hm hi]
    omega
  have harrive := h.arrive hnew hm hi 0
  rw [RtpPacketSortor.sortPacket, if_neg (not_not.mpr hvalid), tryPopPacket]
  by_cases him : i = m
  · subst him
    have hlb := harrive.lowerBound List.mem_cons_self
    obtain ⟨k, hall, hnext, hout, hwaits, hsame⟩ := harrive.popExpected (Nat.le_refl _)
    have hfound : (entry first packet i).1 = s.nextSeqOut := h.next.symm
    rw [if_neg (by rw [hlb]; simpa using hfound)]
    refine ⟨k, hall, hnext, hout, hwaits.setSortSize,
      ⟨hsame.ssrc, hsame.sampleRate, hsame.kMin, hsame.kMax⟩, ?_⟩
    intro hkMax _
    apply hsame.kMin.symm.le.trans
    apply setSortSize_limit
    rw [hsame.kMin, hsame.kMax]
    exact hkMax
  · have hne : m ∉ i :: arrived := by
      intro hmem
      rcases List.mem_cons.mp hmem with heq | hmem
      · exact him heq.symm
      · exact hmissing hmem
    have hsize := harrive.size (List.nodup_cons.mpr ⟨hnew, hnodup⟩)
    rw [if_pos (harrive.lowerBound_ne hne), if_pos]
    · exact ⟨0, fun j hj hj' => by omega, hne, rfl, harrive, ⟨rfl, rfl, rfl, rfl⟩, fun _ h => h⟩
    · rw [hsize]
      exact hroom him

end RtpPacketSortor

end WifiDisplay
