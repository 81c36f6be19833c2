import WifiDisplay.RtpPacketSortor
import WifiDisplay.SerialNumber

/-! The order in which `RtpPacketSortor` hands out packets. Each pop takes the
cached packet nearest ahead of `nextSeqOut_`, as long as the cache lies in the
half circle that starts there. -/

namespace WifiDisplay

open SerialNumber

namespace RtpPacketSortor

/-- The cache lies ahead of `nextSeqOut_`, which follows the last packet of the
period handed out so far. -/
structure Ordered (s : RtpPacketSortor) (period : List Sorted) : Prop where
  window : ∀ e ∈ s.pktSortCacheMap, ahead s.nextSeqOut e.1 < 2 ^ 15
  next : ∀ e ∈ period.getLast?, s.nextSeqOut = e.1 + 1
  advancing : Advancing (period.map Prod.fst)

/-- No cached packet is nearer ahead of `nextSeqOut_`. -/
def Nearest (s : RtpPacketSortor) (e : Sorted) : Prop :=
  e ∈ s.pktSortCacheMap ∧ ∀ e' ∈ s.pktSortCacheMap, ahead s.nextSeqOut e.1 ≤ ahead s.nextSeqOut e'.1

@[simp] theorem popIterator_map (s : RtpPacketSortor) (seq : BitVec 16) :
    (s.popIterator seq).pktSortCacheMap = s.pktSortCacheMap.erase seq := rfl

@[simp] theorem popIterator_next (s : RtpPacketSortor) (seq : BitVec 16) :
    (s.popIterator seq).nextSeqOut = seq + 1 := by
  show (if seq = maxSeq then 0 else seq + 1) = seq + 1
  split
  · rename_i h
    rw [h]
    decide
  · rfl

theorem advances_of_window {last seq : BitVec 16} (h : ahead (last + 1) seq < 2 ^ 15) :
    Advances last seq := by
  have hne : seq ≠ last := by
    rintro rfl
    have : ahead (seq + 1) seq = 65535 := by
      unfold ahead
      bv_omega
    omega
  have hs := ahead_succ hne
  exact advances_of_ahead (by omega) (by omega)

theorem Ordered.pop {s : RtpPacketSortor} {period : List Sorted} (h : Ordered s period)
    {e : Sorted} (he : Nearest s e) : Ordered (s.popIterator e.1) (period ++ [e]) where
  window := by
    have hmove : Window e.1 (s.pktSortCacheMap.toList.map Prod.fst) := by
      refine Window.move (o := s.nextSeqOut) ?_ ?_
      · simpa [Window] using fun a b hab => h.window (a, b) hab
      · simpa using fun a b hab => he.2 (a, b) hab
    intro e' he'
    obtain ⟨hmem, hne⟩ := OrderedMap.mem_erase.mp he'
    have hw := hmove e'.1 (List.mem_map_of_mem hmem)
    have hs := ahead_succ hne
    rw [popIterator_next]
    omega
  next := by simp
  advancing := by
    rw [Advancing, List.map_append, List.map_singleton, List.isChain_append]
    refine ⟨h.advancing, .singleton _, ?_⟩
    intro last hlast x hx
    obtain rfl : e.1 = x := by simpa using hx
    rw [List.getLast?_map, Option.mem_map] at hlast
    obtain ⟨l, hl, rfl⟩ := hlast
    have hw := h.window e he.1
    rw [h.next l hl] at hw
    exact advances_of_window hw

/-- The operation goes on with the period and neither loses nor repeats an entry. -/
def Keeps (s : RtpPacketSortor) (period : List Sorted) (r : RtpPacketSortor × List Sorted) : Prop :=
  Ordered r.1 (period ++ r.2) ∧
    (r.2 ++ r.1.pktSortCacheMap.toList).Perm s.pktSortCacheMap.toList

theorem Ordered.keeps {s : RtpPacketSortor} {period : List Sorted} (h : Ordered s period) :
    Keeps s period (s, []) := by
  simpa [Keeps] using h

theorem Keeps.pop {s : RtpPacketSortor} {period : List Sorted} {e : Sorted} (he : Nearest s e)
    {r : RtpPacketSortor × List Sorted} (h : Keeps (s.popIterator e.1) (period ++ [e]) r) :
    Keeps s period (r.1, e :: r.2) := by
  obtain ⟨hord, hperm⟩ := h
  refine ⟨by simpa using hord, ?_⟩
  exact (hperm.cons e).trans (OrderedMap.perm_erase he.1).symm

theorem Ordered.popExpected {s : RtpPacketSortor} {period : List Sorted}
    (h : Ordered s period) (n : Nat) :
    Keeps s period (RtpPacketSortor.popExpected n s) := by
  induction n generalizing s period with
  | zero => exact h.keeps
  | succ n ih =>
    simp only [RtpPacketSortor.popExpected]
    split
    · exact h.keeps
    · rename_i seq packet hlb
      split
      · rename_i hseq
        subst hseq
        have he : Nearest s (s.nextSeqOut, packet) :=
          ⟨(OrderedMap.lowerBound_some hlb).1, by simp⟩
        exact Keeps.pop he (ih (h.pop he))
      · exact h.keeps

theorem Ordered.setSortSize {s : RtpPacketSortor} {period : List Sorted} (h : Ordered s period) :
    Ordered s.setSortSize period := ⟨h.window, h.next, h.advancing⟩

theorem Ordered.popAndResize {s : RtpPacketSortor} {period : List Sorted}
    (h : Ordered s period) {e : Sorted} (he : Nearest s e) :
    Keeps s period { s with nextSeqOut := e.1 }.popAndResize := by
  have hsize : s.pktSortCacheMap.size = (s.pktSortCacheMap.erase e.1).size + 1 :=
    (OrderedMap.size_erase he.1).symm
  have hlb : s.pktSortCacheMap.lowerBound e.1 = some e := OrderedMap.lowerBound_key he.1
  have hrest := (h.pop he).popExpected (s.pktSortCacheMap.erase e.1).size
  have hkeeps := Keeps.pop he hrest
  have hpop : RtpPacketSortor.popExpected s.pktSortCacheMap.size { s with nextSeqOut := e.1 } =
      ((RtpPacketSortor.popExpected (s.pktSortCacheMap.erase e.1).size (s.popIterator e.1)).1,
        e :: (RtpPacketSortor.popExpected (s.pktSortCacheMap.erase e.1).size
          (s.popIterator e.1)).2) := by
    rw [hsize]
    simp only [RtpPacketSortor.popExpected, hlb]
    rfl
  rw [RtpPacketSortor.popAndResize, hpop]
  exact ⟨hkeeps.1.setSortSize, hkeeps.2⟩

theorem toNat_lt {a b : BitVec 16} : a < b ↔ a.toNat < b.toNat := BitVec.lt_def

/-- In the half circle the first entry not below `nextSeqOut_` is the nearest. -/
theorem nearest_lowerBound {s : RtpPacketSortor} {e : Sorted}
    (he : s.pktSortCacheMap.lowerBound s.nextSeqOut = some e) : Nearest s e := by
  obtain ⟨hmem, hge, hleast⟩ := OrderedMap.lowerBound_some he
  refine ⟨hmem, fun e' he' => ?_⟩
  rw [toNat_lt] at hge
  rw [ahead_of_le (by omega)]
  rcases hleast e' he' with hlt | rfl | hlt
  · have := e.1.isLt
    rw [toNat_lt] at hlt
    rw [ahead_of_lt hlt]
    omega
  · rw [ahead_of_le (by omega)]
  · rw [toNat_lt] at hlt
    rw [ahead_of_le (by omega)]
    omega

/-- When no entry lies between `nextSeqOut_` and the wrap the first one is the nearest. -/
theorem nearest_begin {s : RtpPacketSortor} {e : Sorted}
    (hnone : s.pktSortCacheMap.lowerBound s.nextSeqOut = none)
    (he : s.pktSortCacheMap.begin? = some e) : Nearest s e := by
  obtain ⟨hmem, hleast⟩ := OrderedMap.begin?_some he
  have hlt := OrderedMap.lowerBound_none hnone
  refine ⟨hmem, fun e' he' => ?_⟩
  have h := hlt e hmem
  have h' := hlt e' he'
  rw [toNat_lt] at h h'
  rw [ahead_of_lt h, ahead_of_lt h']
  rcases hleast e' he' with rfl | hlt
  · exact Nat.le_refl _
  · rw [toNat_lt] at hlt
    omega

theorem Ordered.tryPopPacket {s : RtpPacketSortor} {period : List Sorted}
    (h : Ordered s period) : Keeps s period s.tryPopPacket := by
  simp only [RtpPacketSortor.tryPopPacket]
  split
  · split
    · exact h.keeps
    · split
      · exact h.keeps
      · rename_i seq packet hit
        rcases Option.or_eq_some_iff.mp hit with hlb | ⟨hlb, hbegin⟩
        · exact h.popAndResize (nearest_lowerBound hlb)
        · exact h.popAndResize (nearest_begin hlb hbegin)
  · rename_i hit
    obtain ⟨e, hlb, hseq⟩ := Option.map_eq_some_iff.mp (not_not.mp hit)
    have hkeeps := h.popAndResize (nearest_lowerBound hlb)
    rwa [hseq] at hkeeps

/-! `IsSeqValid` keeps the cache in the half circle except for the two numbers
opposite to `nextSeqOut_`. -/

theorem ahead_of_isSeqValid {s : RtpPacketSortor} {seq : BitVec 16} (h : s.isSeqValid seq)
    (h₁ : seq.toNat + 32767 ≠ s.nextSeqOut.toNat) (h₂ : seq.toNat + 32768 ≠ s.nextSeqOut.toNat) :
    ahead s.nextSeqOut seq < 2 ^ 15 := by
  have hhalf : halfMaxSeq = 32767 := rfl
  have := seq.isLt
  simp only [isSeqValid, hhalf, toNat_lt] at h
  split at h
  · rename_i hlt
    rw [ahead_of_lt hlt]
    split at h
    · simp at h
    · omega
  · rename_i hge
    rw [ahead_of_le (by omega)]
    split at h
    · simp at h
    · omega

/-- The packet goes on with the period; it is the only new one. -/
def Accepts (s : RtpPacketSortor) (period : List Sorted) (e : Sorted)
    (r : RtpPacketSortor × List Sorted) : Prop :=
  Ordered r.1 (period ++ r.2) ∧
    (r.2 ++ r.1.pktSortCacheMap.toList).Subperm (e :: s.pktSortCacheMap.toList)

theorem Ordered.sortPacket {s : RtpPacketSortor} {period : List Sorted} (h : Ordered s period)
    {seq : BitVec 16} {packet : RtpPacket}
    (hwindow : s.isSeqValid seq → ahead s.nextSeqOut seq < 2 ^ 15) :
    Accepts s period (seq, packet) (s.sortPacket seq packet) := by
  have hdrop (s' : RtpPacketSortor) (hmap : s'.pktSortCacheMap = s.pktSortCacheMap)
      (hnext : s'.nextSeqOut = s.nextSeqOut) : Accepts s period (seq, packet) (s', []) := by
    refine ⟨?_, ?_⟩
    · rw [List.append_nil]
      exact ⟨by rw [hmap, hnext]; exact h.window, by rw [hnext]; exact h.next, h.advancing⟩
    · rw [hmap]
      exact (List.sublist_cons_self _ _).subperm
  simp only [RtpPacketSortor.sortPacket]
  split
  · split
    · exact hdrop _ rfl rfl
    · exact hdrop _ rfl rfl
  · rename_i hvalid
    have hvalid : s.isSeqValid seq := not_not.mp hvalid
    have hinsert : Ordered
        { s with
          rtpPacketLostConsecutiveCount := 0
          pktSortCacheMap := s.pktSortCacheMap.emplace seq packet } period := by
      refine ⟨fun e he => ?_, h.next, h.advancing⟩
      rcases OrderedMap.mem_of_mem_emplace he with rfl | he
      · exact hwindow hvalid
      · exact h.window e he
    obtain ⟨hord, hperm⟩ := hinsert.tryPopPacket
    exact ⟨hord, hperm.subperm.trans (OrderedMap.emplace_subperm _ _ _)⟩

/-! `Flush` pops in the order of the numbers, which is the serial order when the
cache lies on one side of `nextSeqOut_`. -/

def OneSided (s : RtpPacketSortor) : Prop :=
  (∀ e ∈ s.pktSortCacheMap, e.1 < s.nextSeqOut) ∨ ∀ e ∈ s.pktSortCacheMap, ¬ e.1 < s.nextSeqOut

theorem OneSided.ahead_lt {s : RtpPacketSortor} (h : OneSided s) {e e' : Sorted}
    (he : e ∈ s.pktSortCacheMap) (he' : e' ∈ s.pktSortCacheMap) (hlt : e.1 < e'.1) :
    ahead s.nextSeqOut e.1 < ahead s.nextSeqOut e'.1 := by
  rw [toNat_lt] at hlt
  rcases h with h | h
  · have h₁ := toNat_lt.mp (h e he)
    have h₂ := toNat_lt.mp (h e' he')
    rw [ahead_of_lt h₁, ahead_of_lt h₂]
    omega
  · have h₁ : ¬ e.1.toNat < s.nextSeqOut.toNat := fun hc => h e he (toNat_lt.mpr hc)
    rw [ahead_of_le (by omega), ahead_of_le (by omega)]
    omega

theorem OneSided.nearest {s : RtpPacketSortor} (h : OneSided s) {e : Sorted}
    (he : s.pktSortCacheMap.begin? = some e) : Nearest s e := by
  obtain ⟨hmem, hleast⟩ := OrderedMap.begin?_some he
  refine ⟨hmem, fun e' he' => ?_⟩
  rcases hleast e' he' with rfl | hlt
  · exact Nat.le_refl _
  · exact Nat.le_of_lt (h.ahead_lt hmem he' hlt)

theorem OneSided.pop {s : RtpPacketSortor} {e : Sorted}
    (he : s.pktSortCacheMap.begin? = some e) : OneSided (s.popIterator e.1) := by
  obtain ⟨-, hleast⟩ := OrderedMap.begin?_some he
  right
  intro e' he'
  obtain ⟨hmem, hne⟩ := OrderedMap.mem_erase.mp he'
  rcases hleast e' hmem with rfl | hlt
  · exact absurd rfl hne
  · rw [popIterator_next]
    bv_omega

theorem popBegin_toList (n : Nat) (s : RtpPacketSortor) (hn : s.pktSortCacheMap.toList.length = n) :
    (popBegin n s).2 = s.pktSortCacheMap.toList ∧
      (popBegin n s).1.pktSortCacheMap.toList = [] := by
  induction n generalizing s with
  | zero =>
    have hnil := List.length_eq_zero_iff.mp hn
    exact ⟨hnil.symm, hnil⟩
  | succ n ih =>
    obtain ⟨e, l, hl⟩ := List.exists_cons_of_length_eq_add_one hn
    have hbegin : s.pktSortCacheMap.begin? = some e := by rw [OrderedMap.begin?, hl]; rfl
    have herase := OrderedMap.erase_toList hl
    obtain ⟨hout, hmap⟩ := ih (s.popIterator e.1) (by
      rw [popIterator_map, herase]
      simpa [hl] using hn)
    simp only [popBegin, hbegin]
    rw [popIterator_map, herase] at hout
    exact ⟨by rw [hout, hl], hmap⟩

theorem Ordered.popBegin {s : RtpPacketSortor} {period : List Sorted} (h : Ordered s period)
    (hside : OneSided s) (n : Nat) : Keeps s period (RtpPacketSortor.popBegin n s) := by
  induction n generalizing s period with
  | zero => exact h.keeps
  | succ n ih =>
    simp only [RtpPacketSortor.popBegin]
    split
    · exact h.keeps
    · rename_i seq packet hbegin
      have he := hside.nearest hbegin
      exact Keeps.pop he (ih (h.pop he) (OneSided.pop hbegin))

theorem flush_toList (s : RtpPacketSortor) : s.flush.2 = s.pktSortCacheMap.toList :=
  (popBegin_toList _ s rfl).1

theorem Ordered.flush_pairwise {s : RtpPacketSortor} {period : List Sorted} (h : Ordered s period)
    (hside : OneSided s) :
    (s.flush.2.map Prod.fst).Pairwise fun a b => Follows b a := by
  rw [flush_toList, List.pairwise_map]
  refine s.pktSortCacheMap.sorted.imp_of_mem ?_
  intro e e' he he' hlt
  exact follows_of_window (h.window e' he') (hside.ahead_lt he he' hlt)

end RtpPacketSortor

end WifiDisplay
