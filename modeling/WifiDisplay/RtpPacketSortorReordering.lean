import WifiDisplay.RtpPacketSortorStreams

/-! Streams that arrive out of order by no more than the cache of the sortor holds. -/

namespace WifiDisplay

namespace RtpPacketSortor

/-- The calls for a stream whose positions arrive in an order of their own. -/
def arrivals (stream : Stream) (order : List ℕ) : List Input :=
  order.filterMap fun i => stream[i]?.map fun p => (p.1, some p.2)

/-- The first position arrives first, every other one after at most `kMin` later positions
and at most 32767 ahead of the oldest missing one. -/
structure Tolerable (kMin : ℕ) (order : List ℕ) : Prop where
  first : ∀ i ∈ order.head?, i = 0
  overtaken : ∀ k, ∀ h : k < order.length, ((order.take k).filter (order[k] < ·)).length ≤ kMin
  ahead : ∀ k, ∀ h : k < order.length, ∀ m, m ∉ order.take k → (∀ j < m, j ∈ order.take k) →
    order[k] ≤ m + 32767

def streamPacket (rate : BitVec 32) (stream : Stream) (i : ℕ) : RtpPacket :=
  packetOf rate (stream.getD i (.trackVideo, []))

/-- Where a sortor stands in a stream: `m` is the oldest missing position. -/
structure Sorting (rate ssrc : BitVec 32) (kMax kMin : ℕ) (first : BitVec 16) (packet : ℕ → RtpPacket)
    (arrived : List ℕ) (m : ℕ) (s : RtpPacketSortor) : Prop where
  waits : Waits first packet arrived m s
  missing : m ∉ arrived
  done : ∀ j < m, j ∈ arrived
  sampleRate : s.sampleRate = rate
  ssrc : s.ssrc = ssrc
  limit : kMin ≤ s.maxSortSize
  kMax : s.kMax = kMax
  kMin : s.kMin = kMin

variable {rate ssrc : BitVec 32} {kMax kMin : ℕ} {first : BitVec 16} {packet : ℕ → RtpPacket}
  {arrived order : List ℕ} {stream : Stream} {m : ℕ}

theorem Sorting.congr {s : RtpPacketSortor} {arrived' : List ℕ}
    (h : Sorting rate ssrc kMax kMin first packet arrived m s) (hmem : ∀ i, i ∈ arrived ↔ i ∈ arrived') :
    Sorting rate ssrc kMax kMin first packet arrived' m s :=
  ⟨h.waits.congr hmem, fun hm => h.missing ((hmem m).mpr hm), fun j hj => (hmem j).mp (h.done j hj),
    h.sampleRate, h.ssrc, h.limit, h.kMax, h.kMin⟩

/-- One more position arrives, and the ones that are complete with it are handed out. -/
theorem Sorting.arrive {s : RtpPacketSortor} (h : Sorting rate ssrc kMax kMin first packet arrived m s)
    (hsizes : kMin ≤ kMax) {i : ℕ} (hnew : i ∉ arrived) (hi : i ≤ m + 32767) (hnodup : arrived.Nodup)
    (hroom : i ≠ m → ((i :: arrived).filter (m ≤ ·)).length ≤ kMin) :
    ∃ k, (s.sortPacket (entry first packet i).1 (entry first packet i).2).2 =
        (List.range' m k).map (entry first packet) ∧
      Sorting rate ssrc kMax kMin first packet (i :: arrived) (m + k)
        (s.sortPacket (entry first packet i).1 (entry first packet i).2).1 := by
  have hm : m ≤ i := by
    by_contra hlt
    exact hnew (h.done i (by omega))
  have hlimit := h.limit
  obtain ⟨k, hall, hmissing, hout, hwaits, hsame, hkeeps⟩ := h.waits.sortPacket hnew hm hi hnodup h.missing
    (fun him => (hroom him).trans hlimit)
  refine ⟨k, hout, hwaits, hmissing, ?_, ?_, ?_, ?_, ?_, ?_⟩
  · intro j hj
    by_cases hlt : j < m
    · exact List.mem_cons_of_mem i (h.done j hlt)
    · exact hall j (by omega) hj
  · rw [hsame.sampleRate, h.sampleRate]
  · rw [hsame.ssrc, h.ssrc]
  · rw [h.kMin, h.kMax] at hkeeps
    exact hkeeps hsizes hlimit
  · rw [hsame.kMax, h.kMax]
  · rw [hsame.kMin, h.kMin]

/-- What waits in the cache has overtaken the oldest missing position. -/
theorem Tolerable.room (h : Tolerable kMin order) (horder : order.Nodup) {k k' : ℕ} (hk : k < k')
    (hk' : k' < order.length) :
    ((order.take (k + 1)).filter (order[k'] ≤ ·)).length ≤ kMin := by
  have hsub : (order.take (k + 1)).Sublist (order.take k') := by
    rw [show order.take (k + 1) = (order.take k').take (k + 1) by
      rw [List.take_take, Nat.min_eq_left (by omega)]]
    exact List.take_sublist _ _
  have hlt : (order.take (k + 1)).filter (order[k'] ≤ ·) = (order.take (k + 1)).filter (order[k'] < ·) := by
    apply List.filter_congr
    intro i hi
    have hne : i ≠ order[k'] := by
      intro heq
      obtain ⟨j, hj, hget⟩ := List.mem_take_iff_getElem.mp hi
      rw [heq] at hget
      have hjk := (horder.getElem_inj_iff).mp hget
      omega
    simp only [decide_eq_decide]
    omega
  rw [hlt]
  exact (hsub.filter _).length_le.trans (h.overtaken k' hk')

theorem record_flatten (h : History) (e : Emitted) :
    (h.record e).periods.flatten = h.periods.flatten ++ (e.flushed.getD [] ++ e.sorted) := by
  cases hf : e.flushed <;> simp [History.record, History.periods, hf]

/-- The state of a run and what it has handed out. -/
def InOrder (rate ssrc : BitVec 32) (kMax kMin : ℕ) (first : BitVec 16) (packet : ℕ → RtpPacket)
    (arrived : List ℕ) (r : RtpPacketSortor × History) : Prop :=
  ∃ m, Sorting rate ssrc kMax kMin first packet arrived m r.1 ∧
    r.2.periods.flatten = (List.range m).map (entry first packet)

theorem RunOf.entry (h : RunOf ssrc first stream) {i : ℕ} (hi : i < stream.length) :
    RtpPacketSortor.entry first (streamPacket rate stream) i =
      (RtpHeader.seq stream[i].2, packetOf rate stream[i]) := by
  rw [RtpPacketSortor.entry, streamPacket, h.seq i hi, List.getD_eq_getElem?_getD,
    List.getElem?_eq_getElem hi]
  rfl

theorem InOrder.congr {arrived' : List ℕ} {r : RtpPacketSortor × History}
    (h : InOrder rate ssrc kMax kMin first packet arrived r) (hmem : ∀ i, i ∈ arrived ↔ i ∈ arrived') :
    InOrder rate ssrc kMax kMin first packet arrived' r := by
  obtain ⟨m, hsorting, hout⟩ := h
  exact ⟨m, hsorting.congr hmem, hout⟩

/-- A sortor that has the stream's SSRC takes the next arrival. -/
theorem InOrder.step {r : RtpPacketSortor × History} {i : ℕ}
    (hrun : RunOf ssrc first stream) (hrate : rate ≠ 0) (hsizes : kMin ≤ kMax)
    (h : InOrder rate ssrc kMax kMin first (streamPacket rate stream) arrived r)
    (hi : i < stream.length) (hnew : i ∉ arrived) (hnodup : arrived.Nodup)
    (hahead : ∀ m, m ∉ arrived → (∀ j < m, j ∈ arrived) → i ≤ m + 32767)
    (hroom : ∀ m, m ∉ i :: arrived → m < i → ((i :: arrived).filter (m ≤ ·)).length ≤ kMin) :
    InOrder rate ssrc kMax kMin first (streamPacket rate stream) (i :: arrived)
      (step r (stream[i].1, some stream[i].2)) := by
  obtain ⟨m, hsorting, hout⟩ := h
  have hmem := List.getElem_mem hi
  have hwf : r.1.wellFormed stream[i].2 := by
    rw [wellFormed_iff, hsorting.sampleRate]
    exact ⟨hrate, hrun.wellFormed _ hmem⟩
  have hsame : r.1.ssrc = RtpHeader.ssrc stream[i].2 := by
    rw [hsorting.ssrc, hrun.ssrc _ hmem]
  have hfull : i ≠ m → ((i :: arrived).filter (m ≤ ·)).length ≤ kMin := by
    intro him
    apply hroom m
    · intro hmem
      rcases List.mem_cons.mp hmem with heq | hmem
      · exact him heq.symm
      · exact hsorting.missing hmem
    · by_contra hlt
      exact hnew (hsorting.done i (by omega))
  obtain ⟨k, hsorted, hsorting'⟩ := hsorting.arrive hsizes hnew (hahead m hsorting.missing hsorting.done)
    hnodup hfull
  rw [hrun.entry hi] at hsorted hsorting'
  refine ⟨m + k, ?_, ?_⟩
  · rw [RtpPacketSortor.step, inputRtp_same hwf hsame, hsorting.sampleRate]
    exact hsorting'
  · rw [RtpPacketSortor.step, inputRtp_same hwf hsame, hsorting.sampleRate]
    simp only [record_flatten, Option.getD_none, List.nil_append]
    have hrange : List.range' 0 m ++ List.range' m k = List.range' 0 (m + k) := by
      simpa using List.range'_append_1 (s := 0) (m := m) (n := k)
    rw [hout, hsorted, List.range_eq_range', List.range_eq_range', ← hrange, List.map_append]

theorem RunOf.first_inOrder (hrun : RunOf ssrc first stream) (hrate : rate ≠ 0) (hssrc : ssrc ≠ 0)
    (hsizes : kMin ≤ kMax) (hi : 0 < stream.length) :
    InOrder rate ssrc kMax kMin first (streamPacket rate stream) [0]
      (step (create rate kMax kMin, {}) (stream[0].1, some stream[0].2)) := by
  have hmem := List.getElem_mem hi
  have hseq : RtpHeader.seq stream[0].2 = first := by simpa using hrun.seq 0 hi
  have hwf : (create rate kMax kMin).wellFormed stream[0].2 :=
    (wellFormed_iff _ _).mpr ⟨hrate, hrun.wellFormed _ hmem⟩
  have hother : (create rate kMax kMin).ssrc ≠ RtpHeader.ssrc stream[0].2 := by
    rw [hrun.ssrc _ hmem]
    exact hssrc.symm
  obtain ⟨hset, hlimit⟩ := changeSsrc_settings (create rate kMax kMin) (packetOf rate stream[0])
  have hempty : ((create rate kMax kMin).changeSsrc (packetOf rate stream[0])).1.pktSortCacheMap.toList = [] :=
    rfl
  have hwaits := waits_nil hempty (streamPacket rate stream)
  have hnext : ((create rate kMax kMin).changeSsrc (packetOf rate stream[0])).1.nextSeqOut = first := hseq
  rw [hnext] at hwaits
  have hstart : Sorting rate ssrc kMax kMin first (streamPacket rate stream) [] 0
      ((create rate kMax kMin).changeSsrc (packetOf rate stream[0])).1 :=
    ⟨hwaits, List.not_mem_nil, fun j hj => by omega, hset.sampleRate, hset.ssrc.trans (hrun.ssrc _ hmem),
      hlimit.ge, hset.kMax, hset.kMin⟩
  obtain ⟨k, hsorted, hsorting⟩ := hstart.arrive hsizes (i := 0) List.not_mem_nil (by omega) List.nodup_nil
    (fun h => absurd rfl h)
  rw [hrun.entry hi] at hsorted hsorting
  rw [Nat.zero_add] at hsorting
  refine ⟨k, ?_, ?_⟩
  · rw [RtpPacketSortor.step, inputRtp_other hwf hother]
    exact hsorting
  · rw [RtpPacketSortor.step, inputRtp_other hwf hother]
    have hflushed : ((create rate kMax kMin).changeSsrc (packetOf rate stream[0])).2 = [] :=
      changeSsrc_flushed _ _
    simp only [record_flatten, Option.getD_some]
    rw [List.range_eq_range', ← hsorted]
    exact congrArg (· ++ _) hflushed

theorem mem_order (horder : order.Perm (List.range stream.length)) {k : ℕ} (hk : k < order.length) :
    order[k] < stream.length :=
  List.mem_range.mp (horder.mem_iff.mp (List.getElem_mem hk))

theorem arrivals_take (horder : order.Perm (List.range stream.length)) {k : ℕ} (hk : k < order.length) :
    arrivals stream (order.take (k + 1)) = arrivals stream (order.take k) ++
      [((stream.get ⟨order[k], mem_order horder hk⟩).1,
        some (stream.get ⟨order[k], mem_order horder hk⟩).2)] := by
  rw [arrivals, arrivals, ← List.take_concat_get' order k hk, List.filterMap_append]
  simp [List.getElem?_eq_getElem (mem_order horder hk)]

/-- After each arrival the positions before the oldest missing one are out. -/
theorem inOrder_take (hrun : RunOf ssrc first stream) (hrate : rate ≠ 0) (hssrc : ssrc ≠ 0)
    (hsizes : kMin ≤ kMax) (horder : order.Perm (List.range stream.length)) (htol : Tolerable kMin order)
    {k : ℕ} (hk : k < order.length) :
    InOrder rate ssrc kMax kMin first (streamPacket rate stream) (order.take (k + 1))
      (run (create rate kMax kMin) (arrivals stream (order.take (k + 1)))) := by
  have hnodup : order.Nodup := horder.nodup_iff.mpr List.nodup_range
  induction k with
  | zero =>
    have hfirst : order[0] = 0 := by
      apply htol.first
      rw [List.head?_eq_getElem?, List.getElem?_eq_getElem hk]
      rfl
    have hpos : 0 < stream.length := by
      have hlt := mem_order horder hk
      omega
    have hcalls := arrivals_take horder hk
    have hone : order.take (0 + 1) = [0] := by
      rw [← List.take_concat_get' order 0 hk, hfirst]
      rfl
    simp only [hfirst] at hcalls
    rw [hcalls, hone]
    exact hrun.first_inOrder hrate hssrc hsizes hpos
  | succ k ih =>
    have hbefore : order.take (k + 1 + 1) = order.take (k + 1) ++ [order[k + 1]] :=
      (List.take_concat_get' order (k + 1) hk).symm
    have hmem (i : ℕ) : i ∈ order[k + 1] :: order.take (k + 1) ↔ i ∈ order.take (k + 1 + 1) := by
      rw [hbefore, List.mem_append, List.mem_singleton, List.mem_cons, or_comm]
    have hnodup' := hnodup.sublist (List.take_sublist (k + 1 + 1) order)
    rw [hbefore] at hnodup'
    have hnew : order[k + 1] ∉ order.take (k + 1) := by
      intro hmem
      exact List.disjoint_of_nodup_append hnodup' hmem (List.mem_singleton_self _)
    have hlast := ih (by omega)
    have hstep := hlast.step hrun hrate hsizes (mem_order horder hk) hnew hnodup'.of_append_left
      (htol.ahead (k + 1) hk) ?_
    · rw [arrivals_take horder hk, ← step_run]
      exact hstep.congr hmem
    · -- the missing position arrives later, overtaken by all that wait
      intro m hm hlt
      rw [hmem] at hm
      have hlater : m ∈ order := by
        rw [horder.mem_iff, List.mem_range]
        have hlt' := mem_order horder hk
        omega
      obtain ⟨k', hk', rfl⟩ := List.getElem_of_mem hlater
      have hbehind : k + 1 < k' := by
        by_contra hle
        exact hm (List.mem_take_iff_getElem.mpr ⟨k', by omega, rfl⟩)
      have hperm : (order[k + 1] :: order.take (k + 1)).Perm (order.take (k + 1 + 1)) := by
        rw [hbefore]
        exact (List.perm_append_singleton _ _).symm
      rw [(hperm.filter _).length_eq]
      exact htol.room hnodup hbehind hk'

theorem tolerable_swap : Tolerable 1 [0, 2, 1, 3] where
  first := by simp
  overtaken := by decide
  ahead k hk m _ _ := by
    have hle : ∀ k, ∀ h : k < [0, 2, 1, 3].length, [0, 2, 1, 3][k] ≤ 3 := by decide
    exact (hle k hk).trans (by omega)

end RtpPacketSortor

end WifiDisplay
