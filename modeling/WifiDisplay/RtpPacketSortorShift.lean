import WifiDisplay.RtpPacketSortorOrder
import WifiDisplay.GuardedRuns

/-! What `RtpPacketSortor` does with a stream does not depend on where in the 16-bit space the
stream lies, unless a packet lies opposite to `nextSeqOut_`. -/

namespace WifiDisplay

open SerialNumber

namespace RtpPacketSortor

theorem seqIsLinearOrder : Std.IsLinearOrder (BitVec 16) := inferInstance

theorem seqLawfulOrderLT : Std.LawfulOrderLT (BitVec 16) := inferInstance

attribute [local instance] seqIsLinearOrder seqLawfulOrderLT

variable {s s' : RtpPacketSortor} {k : BitVec 16} {f : RtpPacket → RtpPacket} {e : Sorted}

/-- The packet `k` numbers on; `f` is what the new number does to its bytes. -/
def shiftEntry (k : BitVec 16) (f : RtpPacket → RtpPacket) (e : Sorted) : Sorted := (e.1 + k, f e.2)

/-- The sortor with all its numbers `k` on. -/
def shift (s : RtpPacketSortor) (k : BitVec 16) (f : RtpPacket → RtpPacket) : RtpPacketSortor :=
  { s with
    nextSeqOut := s.nextSeqOut + k
    pktSortCacheMap := .ofList (s.pktSortCacheMap.toList.map (shiftEntry k f)) }

/-- For each `SortPacket` of a run whether the packet is taken, and the packets handed out on it. -/
def answers : RtpPacketSortor → List Sorted → List (Bool × List Sorted)
  | _, [] => []
  | s, (seq, packet) :: calls =>
    (s.isSeqValid seq, (s.sortPacket seq packet).2) :: answers (s.sortPacket seq packet).1 calls

def shiftAnswer (k : BitVec 16) (f : RtpPacket → RtpPacket) (answer : Bool × List Sorted) :
    Bool × List Sorted := (answer.1, answer.2.map (shiftEntry k f))

/-- The two numbers that `IsSeqValid` takes only behind the wrap. -/
def Opposite (s : RtpPacketSortor) (seq : BitVec 16) : Prop :=
  ahead s.nextSeqOut seq = 32768 ∨ ahead s.nextSeqOut seq = 32769

theorem isSeqValid_iff (s : RtpPacketSortor) (seq : BitVec 16) : s.isSeqValid seq = true ↔
    ahead s.nextSeqOut seq ≤ 32767 ∨ seq.toNat < s.nextSeqOut.toNat ∧ s.Opposite seq := by
  have hhalf : halfMaxSeq = 32767 := rfl
  have hnext := s.nextSeqOut.isLt
  rw [Opposite]
  by_cases hlt : seq.toNat < s.nextSeqOut.toNat
  · rw [ahead_of_lt hlt]
    simp only [isSeqValid, hhalf, toNat_lt, hlt, if_true, true_and]
    split <;> simp <;> omega
  · have hseq := seq.isLt
    rw [ahead_of_le (by omega)]
    simp only [isSeqValid, hhalf, toNat_lt, hlt, if_false, false_and, or_false]
    split <;> simp <;> omega

/-! The entry that the sortor pops next, if it pops one. -/

def front (s : RtpPacketSortor) : Option Sorted :=
  (s.pktSortCacheMap.lowerBound s.nextSeqOut).or s.pktSortCacheMap.begin?

theorem front_none (h : s.front = none) : s.pktSortCacheMap.toList = [] := by
  obtain ⟨-, hbegin⟩ := Option.or_eq_none_iff.mp h
  exact List.head?_eq_none_iff.mp hbegin

theorem front_nil (h : s.pktSortCacheMap.toList = []) : s.front = none := by
  simp [front, OrderedMap.lowerBound, OrderedMap.begin?, h]

theorem front_iff : s.front = some e ↔ Nearest s e := by
  have hnearest {e : Sorted} (h : s.front = some e) : Nearest s e := by
    rcases Option.or_eq_some_iff.mp h with hlb | ⟨hlb, hbegin⟩
    · exact nearest_lowerBound hlb
    · exact nearest_begin hlb hbegin
  refine ⟨hnearest, fun he => ?_⟩
  cases hfront : s.front with
  | none =>
    have hmem := OrderedMap.mem_toList.mpr he.1
    rw [front_none hfront] at hmem
    cases hmem
  | some e' =>
    have he' := hnearest hfront
    have hkey : e'.1 = e.1 :=
      ahead_injective s.nextSeqOut (Nat.le_antisymm (he'.2 e he.1) (he.2 e' he'.1))
    have hmem : (e.1, e'.2) ∈ s.pktSortCacheMap := hkey ▸ he'.1
    exact congrArg some (Prod.ext hkey (OrderedMap.value_unique _ hmem he.1))

theorem lowerBound_front (h : s.front = some e) (hnext : e.1 = s.nextSeqOut) :
    s.pktSortCacheMap.lowerBound s.nextSeqOut = some e := by
  rw [← hnext]
  exact OrderedMap.lowerBound_key (front_iff.mp h).1

theorem front_lowerBound (h : s.pktSortCacheMap.lowerBound s.nextSeqOut = some e) :
    s.front = some e := by
  rw [front, h]
  rfl

theorem popExpected_succ (n : Nat) (s : RtpPacketSortor) : popExpected (n + 1) s =
    match s.front with
    | none => (s, [])
    | some e =>
      if e.1 = s.nextSeqOut then
        ((popExpected n (s.popIterator e.1)).1, e :: (popExpected n (s.popIterator e.1)).2)
      else (s, []) := by
  rw [popExpected]
  cases hlb : s.pktSortCacheMap.lowerBound s.nextSeqOut with
  | some e =>
    rw [front_lowerBound hlb]
  | none =>
    cases hfront : s.front with
    | none => rfl
    | some e =>
      have hne : e.1 ≠ s.nextSeqOut := by
        intro hnext
        rw [lowerBound_front hfront hnext] at hlb
        cases hlb
      exact (if_neg hne).symm

theorem tryPopPacket_eq (s : RtpPacketSortor) : s.tryPopPacket =
    match s.front with
    | none => (s, [])
    | some e =>
      if e.1 ≠ s.nextSeqOut ∧ s.pktSortCacheMap.size ≤ s.maxSortSize then (s, [])
      else { s with nextSeqOut := e.1 }.popAndResize := by
  simp only [tryPopPacket]
  rw [← front]
  cases hfront : s.front with
  | none =>
    obtain ⟨hlb, -⟩ := Option.or_eq_none_iff.mp hfront
    simp [hlb]
  | some e =>
    by_cases hnext : e.1 = s.nextSeqOut
    · simp [lowerBound_front hfront hnext, hnext]
    · have hlb : (s.pktSortCacheMap.lowerBound s.nextSeqOut).map Prod.fst ≠ some s.nextSeqOut := by
        intro h
        obtain ⟨e', hlb, he'⟩ := Option.map_eq_some_iff.mp h
        rw [front_lowerBound hlb] at hfront
        cases hfront
        exact hnext he'
      simp [hlb, hnext]

/-! Two sortors whose numbers lie `k` apart. -/

structure Shifted (k : BitVec 16) (f : RtpPacket → RtpPacket) (s s' : RtpPacketSortor) : Prop where
  next : s'.nextSeqOut = s.nextSeqOut + k
  cache : s'.pktSortCacheMap.toList.Perm (s.pktSortCacheMap.toList.map (shiftEntry k f))
  maxSortSize : s'.maxSortSize = s.maxSortSize
  kMin : s'.kMin = s.kMin
  kMax : s'.kMax = s.kMax

/-- The same packets are handed out, and the sortors stay `k` apart. -/
def Alike (k : BitVec 16) (f : RtpPacket → RtpPacket) (r r' : RtpPacketSortor × List Sorted) : Prop :=
  Shifted k f r.1 r'.1 ∧ r'.2 = r.2.map (shiftEntry k f)

theorem shifted_shift (s : RtpPacketSortor) (k : BitVec 16) (f : RtpPacket → RtpPacket) :
    Shifted k f s (s.shift k f) where
  next := rfl
  cache := by
    refine OrderedMap.perm_ofList ?_
    have hkeys : (s.pktSortCacheMap.toList.map (shiftEntry k f)).map Prod.fst =
        (s.pktSortCacheMap.toList.map Prod.fst).map (· + k) := by
      simp [shiftEntry, Function.comp_def]
    rw [hkeys]
    refine List.Nodup.map (add_left_injective k) ?_
    rw [List.nodup_iff_pairwise_ne, List.pairwise_map]
    exact s.pktSortCacheMap.sorted.imp Std.ne_of_lt
  maxSortSize := rfl
  kMin := rfl
  kMax := rfl

namespace Shifted

theorem mem_iff (h : Shifted k f s s') :
    e ∈ s'.pktSortCacheMap ↔ ∃ e₀ ∈ s.pktSortCacheMap, shiftEntry k f e₀ = e :=
  h.cache.mem_iff.trans List.mem_map

theorem size (h : Shifted k f s s') : s'.pktSortCacheMap.size = s.pktSortCacheMap.size := by
  simpa [OrderedMap.size] using h.cache.length_eq

theorem ahead (h : Shifted k f s s') (seq : BitVec 16) :
    ahead s'.nextSeqOut (seq + k) = SerialNumber.ahead s.nextSeqOut seq := by
  rw [h.next, ahead_add]

theorem front (h : Shifted k f s s') : s'.front = s.front.map (shiftEntry k f) := by
  cases hfront : s.front with
  | none =>
    have hnil := h.cache
    rw [front_none hfront] at hnil
    exact front_nil hnil.eq_nil
  | some e =>
    obtain ⟨hmem, hleast⟩ := front_iff.mp hfront
    refine front_iff.mpr ⟨h.mem_iff.mpr ⟨e, hmem, rfl⟩, fun e' he' => ?_⟩
    obtain ⟨e₀, he₀, rfl⟩ := h.mem_iff.mp he'
    rw [shiftEntry, shiftEntry, h.ahead, h.ahead]
    exact hleast e₀ he₀

theorem popIterator (h : Shifted k f s s') (seq : BitVec 16) :
    Shifted k f (s.popIterator seq) (s'.popIterator (seq + k)) where
  next := by
    rw [popIterator_next, popIterator_next, add_right_comm]
  cache := by
    refine (h.cache.filter _).trans ?_
    rw [List.filter_map]
    refine List.Perm.of_eq (congrArg _ (List.filter_congr fun e _ => ?_))
    simp [shiftEntry]
  maxSortSize := h.maxSortSize
  kMin := h.kMin
  kMax := h.kMax

theorem popExpected (h : Shifted k f s s') (n : Nat) :
    Alike k f (RtpPacketSortor.popExpected n s) (RtpPacketSortor.popExpected n s') := by
  induction n generalizing s s' with
  | zero => exact ⟨h, rfl⟩
  | succ n ih =>
    rw [popExpected_succ, popExpected_succ, h.front]
    cases hfront : s.front with
    | none => exact ⟨h, rfl⟩
    | some e =>
      have hiff : (shiftEntry k f e).1 = s'.nextSeqOut ↔ e.1 = s.nextSeqOut := by
        rw [shiftEntry, h.next, add_left_inj]
      simp only [Option.map_some, hiff]
      split
      · obtain ⟨hs, hout⟩ := ih (h.popIterator e.1)
        exact ⟨hs, congrArg (shiftEntry k f e :: ·) hout⟩
      · exact ⟨h, rfl⟩

theorem popAndResize (h : Shifted k f s s') : Alike k f s.popAndResize s'.popAndResize := by
  obtain ⟨hs, hout⟩ := h.popExpected s.pktSortCacheMap.size
  rw [RtpPacketSortor.popAndResize, RtpPacketSortor.popAndResize, h.size]
  refine ⟨⟨hs.next, hs.cache, ?_, hs.kMin, hs.kMax⟩, hout⟩
  simp only [setSortSize, hs.size, hs.kMin, hs.kMax]

theorem tryPopPacket (h : Shifted k f s s') : Alike k f s.tryPopPacket s'.tryPopPacket := by
  rw [tryPopPacket_eq, tryPopPacket_eq, h.front]
  cases hfront : s.front with
  | none => exact ⟨h, rfl⟩
  | some e =>
    have hiff : (shiftEntry k f e).1 = s'.nextSeqOut ↔ e.1 = s.nextSeqOut := by
      rw [shiftEntry, h.next, add_left_inj]
    simp only [Option.map_some, ne_eq, hiff, h.size, h.maxSortSize]
    split
    · exact ⟨h, rfl⟩
    · exact popAndResize ⟨rfl, h.cache, rfl, h.kMin, h.kMax⟩

theorem emplace (h : Shifted k f s s') (e : Sorted) :
    (s'.pktSortCacheMap.emplace (e.1 + k) (f e.2)).toList.Perm
      ((s.pktSortCacheMap.emplace e.1 e.2).toList.map (shiftEntry k f)) := by
  by_cases hold : ∃ e₀ ∈ s.pktSortCacheMap, e₀.1 = e.1
  · obtain ⟨⟨seq, packet⟩, hmem, rfl⟩ := hold
    have hmem' : (e.1 + k, f packet) ∈ s'.pktSortCacheMap := h.mem_iff.mpr ⟨_, hmem, rfl⟩
    rw [OrderedMap.emplace_of_mem hmem, OrderedMap.emplace_of_mem hmem']
    exact h.cache
  · have hnew : ∀ e₀ ∈ s.pktSortCacheMap, e₀.1 ≠ e.1 :=
      fun e₀ he₀ hkey => hold ⟨e₀, he₀, hkey⟩
    have hnew' : ∀ e' ∈ s'.pktSortCacheMap, e'.1 ≠ e.1 + k := by
      intro e' he'
      obtain ⟨e₀, he₀, rfl⟩ := h.mem_iff.mp he'
      simpa [shiftEntry] using hnew e₀ he₀
    refine (OrderedMap.perm_emplace hnew').trans ?_
    exact (h.cache.cons _).trans ((OrderedMap.perm_emplace hnew).map (shiftEntry k f)).symm

theorem isSeqValid (h : Shifted k f s s') {seq : BitVec 16} (hside : ¬ s.Opposite seq) :
    s'.isSeqValid (seq + k) = s.isSeqValid seq := by
  have hside' : ¬ s'.Opposite (seq + k) := by rwa [Opposite, h.ahead]
  rw [Bool.eq_iff_iff, isSeqValid_iff, isSeqValid_iff, h.ahead]
  simp [hside, hside']

theorem sortPacket (h : Shifted k f s s') (hside : ¬ s.Opposite e.1) :
    Alike k f (s.sortPacket e.1 e.2) (s'.sortPacket (e.1 + k) (f e.2)) := by
  simp only [RtpPacketSortor.sortPacket, h.isSeqValid hside]
  by_cases hvalid : s.isSeqValid e.1 = true
  · rw [if_neg (not_not.mpr hvalid), if_neg (not_not.mpr hvalid)]
    exact tryPopPacket ⟨h.next, h.emplace e, h.maxSortSize, h.kMin, h.kMax⟩
  · rw [if_pos hvalid, if_pos hvalid]
    split <;> split <;> exact ⟨⟨h.next, h.cache, h.maxSortSize, h.kMin, h.kMax⟩, rfl⟩

end Shifted

/-- A number opposite to `nextSeqOut_` is taken in one place of the circle and refused in another. -/
theorem not_opposite {S : BitVec 16 → RtpPacketSortor} (hS : ∀ k, (S k).nextSeqOut = s.nextSeqOut + k)
    {seq : BitVec 16} (hsame : ∀ k, (S k).isSeqValid (seq + k) = s.isSeqValid seq) :
    ¬ s.Opposite seq := by
  intro hside
  have hahead (k : BitVec 16) : ahead (S k).nextSeqOut (seq + k) = ahead s.nextSeqOut seq := by
    rw [hS, ahead_add]
  have hside' (k : BitVec 16) : (S k).Opposite (seq + k) := by rwa [Opposite, hahead]
  have htaken : (S (-seq)).isSeqValid (seq + -seq) = true := by
    rw [isSeqValid_iff]
    refine Or.inr ⟨?_, hside' _⟩
    have hne : (S (-seq)).nextSeqOut ≠ 0 := by
      intro h0
      have h := hside' (-seq)
      rw [Opposite, h0, add_neg_cancel] at h
      simp at h
    rw [add_neg_cancel]
    exact Nat.pos_of_ne_zero fun h => hne (BitVec.eq_of_toNat_eq h)
  have hrefused : (S (-s.nextSeqOut)).isSeqValid (seq + -s.nextSeqOut) ≠ true := by
    rw [Ne, isSeqValid_iff, hS, add_neg_cancel, ← add_neg_cancel s.nextSeqOut, ahead_add, add_neg_cancel]
    rintro (hle | ⟨hlt, -⟩)
    · rcases hside with h | h <;> omega
    · exact Nat.not_lt_zero _ hlt
  rw [hsame] at htaken hrefused
  exact hrefused htaken

theorem answers_family {calls : List Sorted} {S : BitVec 16 → (RtpPacket → RtpPacket) → RtpPacketSortor}
    (hS : ∀ k f, Shifted k f s (S k f)) :
    (∀ k f, (S k f).answers (calls.map (shiftEntry k f)) = (s.answers calls).map (shiftAnswer k f)) ↔
      AllMeet (fun s call => (s.sortPacket call.1 call.2).1) (fun s call => ¬ s.Opposite call.1)
        s calls := by
  induction calls generalizing s S with
  | nil => exact iff_of_true (fun _ _ => rfl) trivial
  | cons e calls ih =>
    have hcons (k : BitVec 16) (f : RtpPacket → RtpPacket) :
        (S k f).answers ((e :: calls).map (shiftEntry k f)) =
            (s.answers (e :: calls)).map (shiftAnswer k f) ↔
          ((S k f).isSeqValid (e.1 + k) = s.isSeqValid e.1 ∧
            ((S k f).sortPacket (e.1 + k) (f e.2)).2 = (s.sortPacket e.1 e.2).2.map (shiftEntry k f)) ∧
          ((S k f).sortPacket (e.1 + k) (f e.2)).1.answers (calls.map (shiftEntry k f)) =
            ((s.sortPacket e.1 e.2).1.answers calls).map (shiftAnswer k f) := by
      rw [← Prod.mk_inj, ← List.cons_eq_cons]
      rfl
    rw [AllMeet]
    constructor
    · intro hall
      have hside : ¬ s.Opposite e.1 :=
        not_opposite (fun k => (hS k id).next) fun k => ((hcons k id).mp (hall k id)).1.1
      refine ⟨hside, (ih fun k f => ((hS k f).sortPacket hside).1).mp fun k f => ?_⟩
      exact ((hcons k f).mp (hall k f)).2
    · rintro ⟨hside, hrest⟩ k f
      refine (hcons k f).mpr ⟨⟨(hS k f).isSeqValid hside, ((hS k f).sortPacket hside).2⟩, ?_⟩
      exact (ih fun k f => ((hS k f).sortPacket hside).1).mpr hrest k f

/-- A run gives the same answers wherever the stream lies exactly when no packet of it lies opposite
to the number expected then. -/
theorem answers_shift_iff (s : RtpPacketSortor) (calls : List Sorted) :
    (∀ k f, (s.shift k f).answers (calls.map (shiftEntry k f)) =
        (s.answers calls).map (shiftAnswer k f)) ↔
      AllMeet (fun s call => (s.sortPacket call.1 call.2).1) (fun s call => ¬ s.Opposite call.1)
        s calls :=
  answers_family (shifted_shift s)

/-- A packet 32768 ahead of an expected number 40000 fills the cache of 64, one 32768 ahead of 0 is
refused. -/
theorem oppositePacket_answers_ne : ¬ ∀ (s : RtpPacketSortor) (k : BitVec 16)
    (f : RtpPacket → RtpPacket) (calls : List Sorted),
    ((s.shift k f).answers (calls.map (shiftEntry k f))).map Prod.snd =
      ((s.answers calls).map (shiftAnswer k f)).map Prod.snd := by
  intro hall
  have h := congrArg (List.map (List.map Prod.fst)) (hall (create 90000) 40000 id
    ((32768 :: (List.range' 1 64).map (BitVec.ofNat 16)).map fun seq => (seq, ⟨[], 90000, .trackVideo⟩)))
  revert h
  decide +kernel

end RtpPacketSortor

end WifiDisplay
