import WifiDisplay.RtpPacketSortorShift

/-! How much `RtpPacketSortor` keeps, and where the numbers that it keeps lie. The cache never
outgrows `maxSortSize_`, but a cached number falls out of what `IsSeqValid` takes at the one place
where its two bounds meet the wrap. -/

namespace WifiDisplay

open SerialNumber

namespace RtpPacketSortor

attribute [local instance] seqIsLinearOrder seqLawfulOrderLT

variable {s : RtpPacketSortor} {e : Sorted} {kMin kMax n d : Nat}

/-- `SortPacket` with a packet that may be null. -/
def sortPacketPtr (s : RtpPacketSortor) (call : BitVec 16 × Option RtpPacket) : RtpPacketSortor :=
  match call.2 with
  | none => s
  | some packet => (s.sortPacket call.1 packet).1

/-- The cache fits its bound. -/
structure Fits (kMax : Nat) (s : RtpPacketSortor) : Prop where
  size : s.getJitterSize ≤ s.maxSortSize
  limit : s.maxSortSize ≤ kMax

/-- The bound, and every cached number is one that `IsSeqValid` takes. -/
structure Bounded (kMax : Nat) (s : RtpPacketSortor) : Prop extends Fits kMax s where
  window : ∀ e ∈ s.pktSortCacheMap, s.isSeqValid e.1

/-- Number 65535 comes as expected and 0 does not wait behind it, but 32768 does. -/
def PassesWrap (s : RtpPacketSortor) (call : BitVec 16 × Option RtpPacket) : Prop :=
  call.2.isSome ∧ call.1 = maxSeq ∧ s.nextSeqOut = maxSeq ∧
    (s.pktSortCacheMap.find? 32768).isSome ∧ s.pktSortCacheMap.find? 0 = none

instance (s : RtpPacketSortor) (call : BitVec 16 × Option RtpPacket) : Decidable (s.PassesWrap call) :=
  inferInstanceAs (Decidable (_ ∧ _))

/-- No cached number lies further than `d` ahead. -/
def Within (s : RtpPacketSortor) (d : Nat) : Prop :=
  ∀ e ∈ s.pktSortCacheMap, ahead s.nextSeqOut e.1 ≤ d

/-- Between two calls the expected packet is not in the cache. -/
structure Waiting (kMax : Nat) (s : RtpPacketSortor) : Prop extends Fits kMax s where
  bound : s.kMax = kMax
  kMin : s.kMin ≤ kMax
  next : ∀ e ∈ s.pktSortCacheMap, e.1 ≠ s.nextSeqOut

theorem Within.pop (h : Within s (d + 1)) (he : Nearest s e) : Within (s.popIterator e.1) d := by
  intro e' he'
  obtain ⟨hmem, hne⟩ := OrderedMap.mem_erase.mp he'
  have hle := he.2 e' hmem
  have hstep := ahead_succ hne
  have htrans := ahead_of_ahead_le hle
  have hd := h e' hmem
  rw [popIterator_next]
  omega

theorem Within.valid (h : Within s 32767) (he : e ∈ s.pktSortCacheMap) : s.isSeqValid e.1 :=
  (isSeqValid_iff s e.1).mpr (.inl (h e he))

/-- What a loop of pops leaves. -/
structure Popped (s s' : RtpPacketSortor) : Prop where
  mem : ∀ e ∈ s'.pktSortCacheMap, e ∈ s.pktSortCacheMap
  size : s'.pktSortCacheMap.size ≤ s.pktSortCacheMap.size
  kMin : s'.kMin = s.kMin
  kMax : s'.kMax = s.kMax
  moved : s' = s ∨ ∀ d, Within s (d + 1) → Within s' d

theorem Popped.within {s' : RtpPacketSortor} (h : Popped s s') (hw : Within s d) : Within s' d := by
  rcases h.moved with rfl | hmoved
  · exact hw
  · exact hmoved d fun e he => (hw e he).trans (Nat.le_succ d)

theorem Popped.refl (s : RtpPacketSortor) : Popped s s :=
  ⟨fun _ he => he, Nat.le_refl _, rfl, rfl, .inl rfl⟩

theorem Popped.pop {s' : RtpPacketSortor} (he : Nearest s e) (h : Popped (s.popIterator e.1) s') :
    Popped s s' where
  mem e' he' := (OrderedMap.mem_erase.mp (h.mem e' he')).1
  size := by
    have hsize := OrderedMap.size_erase he.1
    have hle := h.size
    rw [popIterator_map] at hle
    omega
  kMin := h.kMin
  kMax := h.kMax
  moved := .inr fun d hw => h.within (hw.pop he)

theorem popped_popExpected (n : Nat) (s : RtpPacketSortor) : Popped s (popExpected n s).1 := by
  induction n generalizing s with
  | zero => exact .refl s
  | succ n ih =>
    rw [popExpected_succ]
    cases hfront : s.front with
    | none => exact .refl s
    | some e =>
      by_cases hnext : e.1 = s.nextSeqOut
      · simpa only [if_pos hnext] using (ih (s.popIterator e.1)).pop (front_iff.mp hfront)
      · simpa only [if_neg hnext] using Popped.refl s

/-- With enough rounds the loop ends because the expected packet is not there. -/
theorem popExpected_next (hn : s.pktSortCacheMap.size ≤ n) {e : Sorted}
    (he : e ∈ (popExpected n s).1.pktSortCacheMap) : e.1 ≠ (popExpected n s).1.nextSeqOut := by
  induction n generalizing s with
  | zero =>
    have hempty : s.pktSortCacheMap.toList = [] := List.length_eq_zero_iff.mp (Nat.le_zero.mp hn)
    rw [popExpected, ← OrderedMap.mem_toList, hempty] at he
    cases he
  | succ n ih =>
    rw [popExpected_succ] at he ⊢
    cases hfront : s.front with
    | none =>
      simp only [hfront] at he
      rw [← OrderedMap.mem_toList, front_none hfront] at he
      cases he
    | some e' =>
      have he' := front_iff.mp hfront
      simp only [hfront] at he ⊢
      by_cases hnext : e'.1 = s.nextSeqOut
      · rw [if_pos hnext] at he ⊢
        have hsize := OrderedMap.size_erase he'.1
        exact ih (by rw [popIterator_map]; omega) he
      · rw [if_neg hnext] at he ⊢
        intro heq
        have hzero : ahead s.nextSeqOut e'.1 = 0 := by
          have hle := he'.2 e he
          rw [heq, ahead_self] at hle
          omega
        exact hnext (ahead_eq_zero.mp hzero)

theorem popExpected_of_missing (h : ∀ e ∈ s.pktSortCacheMap, e.1 ≠ s.nextSeqOut) (n : Nat) :
    popExpected n s = (s, []) := by
  cases n with
  | zero => rfl
  | succ n =>
    rw [popExpected_succ]
    cases hfront : s.front with
    | none => rfl
    | some e => exact if_neg (h e (front_iff.mp hfront).1)

theorem popAndResize_eq (he : Nearest s e) (hnext : e.1 = s.nextSeqOut) : s.popAndResize.1 =
    (popExpected (s.pktSortCacheMap.erase e.1).size (s.popIterator e.1)).1.setSortSize := by
  rw [popAndResize, ← OrderedMap.size_erase he.1, popExpected_succ, front_iff.mpr he]
  simp only [if_pos hnext]

/-- The pops leave room for the new bound. -/
theorem waiting_popAndResize (he : Nearest s e) (hnext : e.1 = s.nextSeqOut) (hkMax : s.kMax = kMax)
    (hkMin : s.kMin ≤ kMax) (hsize : s.getJitterSize ≤ kMax + 1) : Waiting kMax s.popAndResize.1 := by
  rw [popAndResize_eq he hnext]
  have hpopped := popped_popExpected (s.pktSortCacheMap.erase e.1).size (s.popIterator e.1)
  have herase := OrderedMap.size_erase he.1
  have hleft := hpopped.size
  have hbound : (popExpected (s.pktSortCacheMap.erase e.1).size (s.popIterator e.1)).1.kMax = kMax :=
    hpopped.kMax.trans hkMax
  rw [popIterator_map] at hleft
  rw [getJitterSize] at hsize
  refine ⟨⟨?_, ?_⟩, hbound, hpopped.kMin.trans_le hkMin,
    fun e' he' => popExpected_next (s := s.popIterator e.1) le_rfl he'⟩
  · simp only [getJitterSize, setSortSize, hbound]
    split <;> omega
  · simp only [setSortSize, hbound]
    split <;> omega

/-! The state in which `TryPopPacket` finds a sortor that has taken a packet. -/

/-- The packet is in the cache. -/
def taken (s : RtpPacketSortor) (seq : BitVec 16) (packet : RtpPacket) : RtpPacketSortor :=
  { s with
    rtpPacketLostConsecutiveCount := 0
    pktSortCacheMap := s.pktSortCacheMap.emplace seq packet }

variable {seq : BitVec 16} {packet : RtpPacket}

theorem taken_mem (he : e ∈ (s.taken seq packet).pktSortCacheMap) :
    e.1 = seq ∨ e ∈ s.pktSortCacheMap :=
  (OrderedMap.mem_of_mem_emplace he).imp_left fun h => congrArg Prod.fst h

theorem taken_size : (s.taken seq packet).getJitterSize ≤ s.getJitterSize + 1 := by
  have hle := (OrderedMap.emplace_subperm s.pktSortCacheMap seq packet).length_le
  simpa [getJitterSize, taken, OrderedMap.size] using hle

theorem taken_key (s : RtpPacketSortor) (seq : BitVec 16) (packet : RtpPacket) :
    ∃ e ∈ (s.taken seq packet).pktSortCacheMap, e.1 = seq := by
  by_cases hkey : ∃ e ∈ s.pktSortCacheMap, e.1 = seq
  · obtain ⟨⟨_, value⟩, he, rfl⟩ := hkey
    refine ⟨(_, value), ?_, rfl⟩
    rwa [taken, ← OrderedMap.mem_toList, OrderedMap.emplace_of_mem he]
  · exact ⟨(seq, packet), (OrderedMap.mem_emplace fun e he heq => hkey ⟨e, he, heq⟩).mpr (.inl rfl), rfl⟩

theorem sortPacket_taken (hvalid : s.isSeqValid seq) :
    s.sortPacket seq packet = (s.taken seq packet).tryPopPacket := by
  rw [sortPacket, if_neg (by simpa using hvalid)]
  rfl

/-- The cache lies ahead, with up to two numbers below `nextSeqOut_` beyond the half circle. -/
theorem taken_valid (hwindow : ∀ e ∈ s.pktSortCacheMap, s.isSeqValid e.1) (hvalid : s.isSeqValid seq)
    (he : e ∈ (s.taken seq packet).pktSortCacheMap) : ahead s.nextSeqOut e.1 ≤ 32767 ∨
      e.1.toNat < s.nextSeqOut.toNat ∧ s.Opposite e.1 := by
  rw [← isSeqValid_iff]
  rcases taken_mem he with heq | hmem
  · rwa [heq]
  · exact hwindow e hmem

theorem taken_within (hwindow : ∀ e ∈ s.pktSortCacheMap, s.isSeqValid e.1) (hvalid : s.isSeqValid seq) :
    Within (s.taken seq packet) 32769 := by
  intro e he
  show ahead s.nextSeqOut e.1 ≤ 32769
  rcases taken_valid hwindow hvalid he with hle | ⟨-, heq | heq⟩ <;> omega

/-- A jump over missing numbers brings the cache back into the half circle. -/
theorem valid_of_jump (hwithin : Within s 32769) (he : Nearest s e) (hne : e.1 ≠ s.nextSeqOut)
    {e' : Sorted} (he' : e' ∈ { s with nextSeqOut := e.1 }.popAndResize.1.pktSortCacheMap) :
    { s with nextSeqOut := e.1 }.popAndResize.1.isSeqValid e'.1 := by
  have hnearest : Nearest { s with nextSeqOut := e.1 } e := ⟨he.1, by simp⟩
  have hpositive : 0 < ahead s.nextSeqOut e.1 :=
    Nat.pos_of_ne_zero fun hzero => hne (ahead_eq_zero.mp hzero)
  have hjumped : Within { s with nextSeqOut := e.1 } 32768 := by
    intro e'' he''
    have htrans := ahead_of_ahead_le (he.2 e'' he'')
    have hle := hwithin e'' he''
    dsimp only
    omega
  have hpopped := popped_popExpected (s.pktSortCacheMap.erase e.1).size
    ({ s with nextSeqOut := e.1 }.popIterator e.1)
  rw [popAndResize_eq hnearest rfl] at he' ⊢
  exact (hpopped.within (hjumped.pop hnearest)).valid he'

/-- The expected packet is taken out again at once. -/
theorem taken_pop_mem (hmissing : ∀ e ∈ s.pktSortCacheMap, e.1 ≠ s.nextSeqOut) {e' : Sorted}
    (hseq : seq = s.nextSeqOut) :
    e' ∈ ((s.taken seq packet).popIterator seq).pktSortCacheMap ↔ e' ∈ s.pktSortCacheMap := by
  have hnew : ∀ e ∈ s.pktSortCacheMap, e.1 ≠ seq := fun e he => hseq ▸ hmissing e he
  rw [popIterator_map, OrderedMap.mem_erase, taken, OrderedMap.mem_emplace hnew]
  constructor
  · rintro ⟨rfl | hmem, hne⟩
    · exact absurd rfl hne
    · exact hmem
  · intro hmem
    exact ⟨.inr hmem, hnew e' hmem⟩

theorem find?_zero_of_next (hnext : s.nextSeqOut = maxSeq) :
    s.pktSortCacheMap.find? 0 = none ↔ ∀ e ∈ s.pktSortCacheMap, e.1 ≠ s.nextSeqOut + 1 := by
  have hwrap : s.nextSeqOut + 1 = 0 := by
    rw [hnext]
    decide
  rw [hwrap, ← Option.not_isSome_iff_eq_none, OrderedMap.isSome_find?]
  constructor
  · rintro hnone ⟨_, value⟩ he rfl
    exact hnone ⟨value, he⟩
  · rintro hall ⟨value, he⟩
    exact hall _ he rfl

/-- One pop moves the window by one, and only behind 65535 does it leave a number that was in it. -/
theorem valid_popIterator_iff (hwindow : ∀ e ∈ s.pktSortCacheMap, s.isSeqValid e.1)
    (hmissing : ∀ e ∈ s.pktSortCacheMap, e.1 ≠ s.nextSeqOut) (hseq : seq = s.nextSeqOut) :
    (∀ e ∈ s.pktSortCacheMap, ((s.taken seq packet).popIterator seq).isSeqValid e.1) ↔
      ¬ (s.nextSeqOut = maxSeq ∧ (s.pktSortCacheMap.find? 32768).isSome) := by
  rw [OrderedMap.isSome_find?]
  constructor
  · rintro hall ⟨hnext, value, hmem⟩
    have hvalid := (isSeqValid_iff _ _).mp (hall _ hmem)
    rw [popIterator_next, hseq, hnext] at hvalid
    rcases hvalid with hle | ⟨hlt, -⟩
    · exact absurd (show ahead (maxSeq + 1) (32768 : BitVec 16) ≤ 32767 from hle) (by decide)
    · exact absurd (show (32768 : BitVec 16).toNat < (maxSeq + 1).toNat from hlt) (by decide)
  · intro hwrap e he
    have hstep := ahead_succ (hmissing e he)
    rw [isSeqValid_iff, Opposite, popIterator_next, hseq]
    rcases (isSeqValid_iff s e.1).mp (hwindow e he) with hle | ⟨hlt, heq | heq⟩
    · exact .inl (by omega)
    · exact .inl (by omega)
    · have hnext : s.nextSeqOut ≠ maxSeq := by
        intro hnext
        refine hwrap ⟨hnext, e.2, ?_⟩
        have hkey : e.1 = 32768 := by
          apply ahead_injective s.nextSeqOut
          rw [heq, hnext]
          decide
        rwa [← hkey]
      have hsucc : (s.nextSeqOut + 1).toNat = s.nextSeqOut.toNat + 1 := by
        have hmax : maxSeq.toNat = 65535 := rfl
        have hne : s.nextSeqOut.toNat ≠ 65535 := fun h => hnext (BitVec.eq_of_toNat_eq (h.trans hmax.symm))
        have hbound := s.nextSeqOut.isLt
        rw [BitVec.toNat_add, Nat.mod_eq_of_lt]
        · rfl
        · show s.nextSeqOut.toNat + 1 < 65536
          omega
      exact .inr ⟨by omega, .inl (by omega)⟩

theorem window_of_expected (hwindow : ∀ e ∈ s.pktSortCacheMap, s.isSeqValid e.1)
    (hmissing : ∀ e ∈ s.pktSortCacheMap, e.1 ≠ s.nextSeqOut) (he : Nearest (s.taken seq packet) e)
    (hkey : e.1 = s.nextSeqOut) (hseq : seq = s.nextSeqOut) :
    (∀ e' ∈ (s.taken seq packet).popAndResize.1.pktSortCacheMap,
      (s.taken seq packet).popAndResize.1.isSeqValid e'.1) ↔ ¬ s.PassesWrap (seq, some packet) := by
  have hmem := fun e' => @taken_pop_mem s seq packet hmissing e' hseq
  obtain rfl : seq = e.1 := hseq.trans hkey.symm
  rw [popAndResize_eq he hkey]
  by_cases hmore : ∀ e' ∈ s.pktSortCacheMap, e'.1 ≠ s.nextSeqOut + 1
  · have hrest := popExpected_of_missing (s := (s.taken e.1 packet).popIterator e.1)
      (fun e' he' => by rw [popIterator_next, hkey]; exact hmore e' ((hmem e').mp he'))
      ((s.taken e.1 packet).pktSortCacheMap.erase e.1).size
    rw [hrest]
    have hpop := @valid_popIterator_iff s e.1 packet hwindow hmissing hkey
    have hwrap : s.PassesWrap (e.1, some packet) ↔
        s.nextSeqOut = maxSeq ∧ (s.pktSortCacheMap.find? 32768).isSome := by
      simp only [PassesWrap, Option.isSome_some, true_and, hkey]
      constructor
      · rintro ⟨-, hnext, h32768, -⟩
        exact ⟨hnext, h32768⟩
      · rintro ⟨hnext, h32768⟩
        exact ⟨hnext, hnext, h32768, (find?_zero_of_next hnext).mpr hmore⟩
    rw [hwrap, ← hpop]
    exact forall_congr' fun e' => imp_congr_left (hmem e')
  · -- A second packet comes out, so the whole cache is in the half circle again.
    have hpopped := popped_popExpected ((s.taken e.1 packet).pktSortCacheMap.erase e.1).size
      ((s.taken e.1 packet).popIterator e.1)
    have hvalid : s.isSeqValid e.1 := (isSeqValid_iff s e.1).mpr (.inl (by simp [hkey]))
    have hwithin : Within ((s.taken e.1 packet).popIterator e.1) 32768 :=
      (taken_within hwindow hvalid).pop he
    rcases hpopped.moved with hsame | hmoved
    · refine absurd (fun e' he' => ?_) hmore
      have hleft := popExpected_next (s := (s.taken e.1 packet).popIterator e.1) le_rfl
        (hsame ▸ (hmem e').mpr he')
      rwa [popIterator_map, hsame, popIterator_next, hkey] at hleft
    · refine iff_of_true (fun e' he' => (hmoved 32767 hwithin).valid he') ?_
      rintro ⟨-, -, hnext, -, hzero⟩
      exact hmore ((find?_zero_of_next hnext).mp hzero)

/-- What one valid packet leaves of a sortor that is bounded. -/
theorem waiting_sortPacket (hwaiting : Waiting kMax s) (hwindow : ∀ e ∈ s.pktSortCacheMap, s.isSeqValid e.1)
    (hvalid : s.isSeqValid seq) : Waiting kMax (s.sortPacket seq packet).1 ∧
      ((∀ e ∈ (s.sortPacket seq packet).1.pktSortCacheMap, (s.sortPacket seq packet).1.isSeqValid e.1) ↔
        ¬ s.PassesWrap (seq, some packet)) := by
  rw [sortPacket_taken hvalid, tryPopPacket_eq]
  have hsize := @taken_size s seq packet
  have hfits := hwaiting.size
  have hlimit := hwaiting.limit
  have hroom : (s.taken seq packet).getJitterSize ≤ kMax + 1 := by omega
  obtain ⟨e₀, he₀, hkey₀⟩ := taken_key s seq packet
  cases hfront : (s.taken seq packet).front with
  | none =>
    rw [← OrderedMap.mem_toList, front_none hfront] at he₀
    cases he₀
  | some e =>
    have he := front_iff.mp hfront
    dsimp only
    by_cases hnext : e.1 = s.nextSeqOut
    · have hseq : seq = s.nextSeqOut := by
        rcases taken_mem he.1 with heq | hmem
        · exact heq.symm.trans hnext
        · exact absurd hnext (hwaiting.next e hmem)
      have hsame : { s.taken seq packet with nextSeqOut := e.1 } = s.taken seq packet := by
        rw [hnext]
        rfl
      rw [if_neg fun h => h.1 hnext, hsame]
      exact ⟨waiting_popAndResize he hnext hwaiting.bound hwaiting.kMin hroom,
        window_of_expected hwindow hwaiting.next he hnext hseq⟩
    · have hno : ¬ s.PassesWrap (seq, some packet) := by
        rintro ⟨-, hmax, hmax', -⟩
        have hzero : ahead s.nextSeqOut e.1 = 0 := by
          have hle : ahead s.nextSeqOut e.1 ≤ ahead s.nextSeqOut e₀.1 := he.2 e₀ he₀
          rw [hkey₀, show seq = s.nextSeqOut from hmax.trans hmax'.symm, ahead_self] at hle
          exact Nat.le_zero.mp hle
        exact hnext (ahead_eq_zero.mp hzero)
      by_cases hfull : (s.taken seq packet).getJitterSize ≤ s.maxSortSize
      · rw [if_pos ⟨hnext, hfull⟩]
        refine ⟨⟨⟨hfull, hlimit⟩, hwaiting.bound, hwaiting.kMin, fun e' he' heq => ?_⟩, iff_of_true ?_ hno⟩
        · have hle : ahead s.nextSeqOut e.1 ≤ ahead s.nextSeqOut e'.1 := he.2 e' he'
          rw [show e'.1 = s.nextSeqOut from heq, ahead_self] at hle
          exact hnext (ahead_eq_zero.mp (Nat.le_zero.mp hle))
        · intro e' he'
          exact (isSeqValid_iff s e'.1).mpr (taken_valid hwindow hvalid he')
      · rw [if_neg fun h => hfull h.2]
        have hnearest : Nearest { s.taken seq packet with nextSeqOut := e.1 } e := ⟨he.1, by simp⟩
        exact ⟨waiting_popAndResize hnearest rfl hwaiting.bound hwaiting.kMin hroom,
          iff_of_true (fun e' he' => valid_of_jump (taken_within hwindow hvalid) he hnext he') hno⟩

/-- What one call leaves of a sortor that is bounded. -/
theorem bounded_sortPacketPtr_iff (hwaiting : Waiting kMax s)
    (hwindow : ∀ e ∈ s.pktSortCacheMap, s.isSeqValid e.1) (call : BitVec 16 × Option RtpPacket) :
    Waiting kMax (s.sortPacketPtr call) ∧
      (Bounded kMax (s.sortPacketPtr call) ↔ ¬ s.PassesWrap call) := by
  obtain ⟨seq, _ | packet⟩ := call
  · exact ⟨hwaiting, iff_of_true ⟨hwaiting.toFits, hwindow⟩ fun h => nomatch h.1⟩
  · by_cases hvalid : s.isSeqValid seq
    · obtain ⟨hkept, hiff⟩ := @waiting_sortPacket s kMax seq packet hwaiting hwindow hvalid
      exact ⟨hkept, fun h => hiff.mp h.window, fun h => ⟨hkept.toFits, hiff.mpr h⟩⟩
    · have hno : ¬ s.PassesWrap (seq, some packet) := by
        rintro ⟨-, hmax, hmax', -⟩
        refine hvalid ((isSeqValid_iff s seq).mpr (.inl ?_))
        rw [show seq = s.nextSeqOut from hmax.trans hmax'.symm]
        simp
      simp only [sortPacketPtr, sortPacket, if_pos hvalid]
      split
      · exact ⟨⟨⟨hwaiting.size, hwaiting.limit⟩, hwaiting.bound, hwaiting.kMin, hwaiting.next⟩,
          iff_of_true ⟨⟨hwaiting.size, hwaiting.limit⟩, hwindow⟩ hno⟩
      · exact ⟨⟨⟨hwaiting.size, hwaiting.limit⟩, hwaiting.bound, hwaiting.kMin, hwaiting.next⟩,
          iff_of_true ⟨⟨hwaiting.size, hwaiting.limit⟩, hwindow⟩ hno⟩

/-- The first 65 packets and the next 65 make the sortor jump to 32768 and to 65535. Then 32768
waits while 65535 comes. -/
def throughWrap : List (BitVec 16) :=
  (List.range' 32703 65 ++ List.range' 65470 65).map (BitVec.ofNat 16) ++ [32768, 65535]

end RtpPacketSortor

end WifiDisplay
