import WifiDisplay.RtpPacketSortorArrivals

/-! Streams of one SSRC, and when a fresh sortor passes one that is in order through. -/

namespace WifiDisplay

namespace RtpPacketSortor

/-- The packets of a stream with the track each comes on. -/
abbrev Stream := List (TrackType × List Byte)

def packetOf (rate : BitVec 32) (p : TrackType × List Byte) : RtpPacket :=
  { data := p.2, sampleRate := rate, type := p.1 }

/-- The checks of `InputRtp` on a packet. -/
def WellFormedPacket (ptr : RtpHeader) : Prop :=
  rtpHeaderSize ≤ ptr.length ∧ ptr.version = rtpVersion ∧ ptr.getPayloadSize ptr.length ≠ 0 ∧
    ptr.length < 2 ^ 31

/-- Well-formed packets of one SSRC whose numbers count up from the first. -/
structure RunOf (ssrc : BitVec 32) (first : BitVec 16) (stream : Stream) : Prop where
  wellFormed : ∀ p ∈ stream, WellFormedPacket p.2
  ssrc : ∀ p ∈ stream, RtpHeader.ssrc p.2 = ssrc
  seq : ∀ i, ∀ h : i < stream.length, RtpHeader.seq stream[i].2 = first + BitVec.ofNat 16 i

theorem wellFormed_iff (s : RtpPacketSortor) (ptr : RtpHeader) :
    s.wellFormed ptr ↔ s.sampleRate ≠ 0 ∧ WellFormedPacket ptr := by
  simp only [wellFormed, WellFormedPacket, Bool.and_eq_true, decide_eq_true_eq]
  tauto

theorem inputRtp_same {s : RtpPacketSortor} {p : TrackType × List Byte} (hwf : s.wellFormed p.2)
    (hssrc : s.ssrc = RtpHeader.ssrc p.2) :
    s.inputRtp p.1 (some p.2) =
      ((s.sortPacket (RtpHeader.seq p.2) (packetOf s.sampleRate p)).1,
        { sorted := (s.sortPacket (RtpHeader.seq p.2) (packetOf s.sampleRate p)).2 }) := by
  have hsame : ¬ s.ssrc ≠ (packetOf s.sampleRate p).getSSRC := not_not.mpr hssrc
  rw [inputRtp, if_neg (not_not.mpr hwf)]
  exact if_neg hsame

theorem inputRtp_other {s : RtpPacketSortor} {p : TrackType × List Byte} (hwf : s.wellFormed p.2)
    (hssrc : s.ssrc ≠ RtpHeader.ssrc p.2) :
    s.inputRtp p.1 (some p.2) =
      (((s.changeSsrc (packetOf s.sampleRate p)).1.sortPacket (RtpHeader.seq p.2)
          (packetOf s.sampleRate p)).1,
        { flushed := some (s.changeSsrc (packetOf s.sampleRate p)).2
          sorted := ((s.changeSsrc (packetOf s.sampleRate p)).1.sortPacket (RtpHeader.seq p.2)
            (packetOf s.sampleRate p)).2 }) := by
  have hother : s.ssrc ≠ (packetOf s.sampleRate p).getSSRC := hssrc
  rw [inputRtp, if_neg (not_not.mpr hwf)]
  exact if_pos hother

theorem Waits.congr {first : BitVec 16} {packet : ℕ → RtpPacket} {arrived arrived' : List ℕ} {m : ℕ}
    {s : RtpPacketSortor} (h : Waits first packet arrived m s)
    (hmem : ∀ i, i ∈ arrived ↔ i ∈ arrived') : Waits first packet arrived' m s where
  next := h.next
  window i hi := h.window i ((hmem i).mpr hi)
  cache e := by
    rw [h.cache]
    simp only [hmem]

theorem waits_nil {s : RtpPacketSortor} (hempty : s.pktSortCacheMap.toList = [])
    (packet : ℕ → RtpPacket) : Waits s.nextSeqOut packet [] 0 s where
  next := by simp
  window i hi := by cases hi
  cache e := by
    rw [← OrderedMap.mem_toList, hempty]
    simp

theorem popBegin_settings (n : ℕ) (s : RtpPacketSortor) : SameSettings s (popBegin n s).1 := by
  induction n generalizing s with
  | zero => exact .refl s
  | succ n ih =>
    simp only [popBegin]
    split
    · exact .refl s
    · rename_i seq packet _
      have hpop : SameSettings s (s.popIterator seq) := ⟨rfl, rfl, rfl, rfl⟩
      exact hpop.trans (ih _)

theorem changeSsrc_settings (s : RtpPacketSortor) (rtp : RtpPacket) :
    SameSettings { s with ssrc := rtp.getSSRC } (s.changeSsrc rtp).1 ∧
      (s.changeSsrc rtp).1.maxSortSize = s.kMin := by
  have h := popBegin_settings s.pktSortCacheMap.size { s with ssrc := rtp.getSSRC }
  exact ⟨⟨h.ssrc, h.sampleRate, h.kMin, h.kMax⟩, h.kMin⟩

/-! In order. -/

/-- Every call hands out its own packet and nothing else. -/
def PassesThrough (s : RtpPacketSortor) : Stream → Prop
  | [] => True
  | p :: stream =>
    let (s', emitted) := s.inputRtp p.1 (some p.2)
    emitted.flushed.getD [] = [] ∧
      emitted.sorted = [(RtpHeader.seq p.2, packetOf s.sampleRate p)] ∧ PassesThrough s' stream

theorem RunOf.tail {ssrc : BitVec 32} {first : BitVec 16} {p : TrackType × List Byte} {stream : Stream}
    (h : RunOf ssrc first (p :: stream)) : RunOf ssrc (first + 1) stream where
  wellFormed q hq := h.wellFormed q (List.mem_cons_of_mem p hq)
  ssrc q hq := h.ssrc q (List.mem_cons_of_mem p hq)
  seq i hi := by
    have hseq := h.seq (i + 1) (by simpa using hi)
    rw [List.getElem_cons_succ] at hseq
    rw [hseq, BitVec.ofNat_add, BitVec.add_comm (BitVec.ofNat 16 i), ← BitVec.add_assoc]
    rfl

theorem RunOf.head_seq {ssrc : BitVec 32} {first : BitVec 16} {p : TrackType × List Byte}
    {stream : Stream} (h : RunOf ssrc first (p :: stream)) : RtpHeader.seq p.2 = first := by
  have hseq := h.seq 0 (by simp)
  rw [List.getElem_cons_zero] at hseq
  rw [hseq]
  simp

theorem sortPacket_next {s : RtpPacketSortor} (hempty : s.pktSortCacheMap.toList = [])
    (packet : RtpPacket) :
    (s.sortPacket s.nextSeqOut packet).2 = [(s.nextSeqOut, packet)] ∧
      (s.sortPacket s.nextSeqOut packet).1.pktSortCacheMap.toList = [] ∧
      (s.sortPacket s.nextSeqOut packet).1.nextSeqOut = s.nextSeqOut + 1 ∧
      SameSettings s (s.sortPacket s.nextSeqOut packet).1 := by
  have hwaits := waits_nil hempty fun _ => packet
  have hfirst : 0 ∉ ([] : List ℕ) := List.not_mem_nil
  obtain ⟨k, hall, hnext, hout, hwaits', hsame, -⟩ := hwaits.sortPacket hfirst (Nat.le_refl 0)
    (by omega) List.nodup_nil hfirst (by simp)
  have hk : k = 1 := by
    by_contra hk
    by_cases h0 : k = 0
    · exact hnext (by simp [h0])
    · have hmem := hall 1 (by omega) (by omega)
      simp at hmem
  subst hk
  have hentry : entry s.nextSeqOut (fun _ => packet) 0 = (s.nextSeqOut, packet) := by simp [entry]
  rw [hentry] at hout hwaits' hsame
  refine ⟨by simpa [entry] using hout, ?_, hwaits'.next, hsame⟩
  rw [List.eq_nil_iff_forall_not_mem]
  intro e he
  obtain ⟨i, hi, hone, -⟩ := (hwaits'.cache e).mp (OrderedMap.mem_toList.mp he)
  rw [List.mem_singleton] at hi
  omega

theorem passesThrough_of_waiting {stream : Stream} {ssrc : BitVec 32} {s : RtpPacketSortor}
    (hrun : RunOf ssrc s.nextSeqOut stream) (hrate : s.sampleRate ≠ 0) (hssrc : s.ssrc = ssrc)
    (hempty : s.pktSortCacheMap.toList = []) : PassesThrough s stream := by
  induction stream generalizing s with
  | nil => trivial
  | cons p stream ih =>
    have hwf : s.wellFormed p.2 := (wellFormed_iff s p.2).mpr ⟨hrate, hrun.wellFormed p List.mem_cons_self⟩
    have hsame : s.ssrc = RtpHeader.ssrc p.2 := hssrc.trans (hrun.ssrc p List.mem_cons_self).symm
    obtain ⟨hout, hempty', hnext, hset⟩ := sortPacket_next hempty (packetOf s.sampleRate p)
    simp only [PassesThrough, inputRtp_same hwf hsame, hrun.head_seq]
    refine ⟨rfl, hout, ih ?_ ?_ ?_ hempty'⟩
    · rw [hnext]
      exact hrun.tail
    · rw [hset.sampleRate]
      exact hrate
    · rw [hset.ssrc, hssrc]

theorem passesThrough_of_change {stream : Stream} {ssrc : BitVec 32} {first : BitVec 16}
    {s : RtpPacketSortor} (hrun : RunOf ssrc first stream) (hrate : s.sampleRate ≠ 0)
    (hssrc : s.ssrc ≠ ssrc) (hempty : s.pktSortCacheMap.toList = []) : PassesThrough s stream := by
  cases stream with
  | nil => trivial
  | cons p stream =>
    have hwf : s.wellFormed p.2 := (wellFormed_iff s p.2).mpr ⟨hrate, hrun.wellFormed p List.mem_cons_self⟩
    have hown := hrun.ssrc p List.mem_cons_self
    have hother : s.ssrc ≠ RtpHeader.ssrc p.2 := by
      rw [hown]
      exact hssrc
    have hflushed := changeSsrc_flushed s (packetOf s.sampleRate p)
    have hclear : (s.changeSsrc (packetOf s.sampleRate p)).1.pktSortCacheMap.toList = [] := rfl
    have hwaited : (s.changeSsrc (packetOf s.sampleRate p)).1.nextSeqOut = RtpHeader.seq p.2 := rfl
    obtain ⟨hout, hempty', hnext, hset⟩ := sortPacket_next hclear (packetOf s.sampleRate p)
    rw [hwaited] at hout hempty' hnext hset
    simp only [PassesThrough, inputRtp_other hwf hother]
    obtain ⟨hchanged, -⟩ := changeSsrc_settings s (packetOf s.sampleRate p)
    have hrun' := hrun.tail
    rw [← hrun.head_seq, ← hnext] at hrun'
    refine ⟨by rw [hflushed, hempty]; rfl, hout, passesThrough_of_waiting hrun' ?_ ?_ hempty'⟩
    · rw [hset.sampleRate, changeSsrc_sampleRate]
      exact hrate
    · rw [hset.ssrc, hchanged.ssrc]
      exact hown

theorem inputRtp_ignored {s : RtpPacketSortor} {p : TrackType × List Byte} (hwf : ¬ s.wellFormed p.2) :
    s.inputRtp p.1 (some p.2) = (s, {}) := if_pos hwf

theorem isSeqValid_zero {s : RtpPacketSortor} (hnext : s.nextSeqOut = 0) (seq : BitVec 16) :
    s.isSeqValid seq ↔ seq.toNat ≤ 32767 := by
  have hhalf : halfMaxSeq = 32767 := rfl
  simp only [isSeqValid, hnext, hhalf, toNat_lt]
  rw [if_neg (by simp)]
  by_cases h : seq.toNat - (0 : BitVec 16).toNat > 32767
  · rw [if_pos h]
    simp at h
    simp
    omega
  · rw [if_neg h]
    simp at h
    simp
    omega

/-- The first packet of SSRC 0 at a fresh sortor finds the cache that expects 0. -/
theorem lowerBound_first {seq next : BitVec 16} (h : ¬ seq < next) (packet : RtpPacket) :
    (OrderedMap.empty.emplace seq packet).lowerBound next = some (seq, packet) := by
  show List.find? _ [(seq, packet)] = _
  rw [List.find?_cons_of_pos (by simpa using h)]

theorem not_lt_zero (seq : BitVec 16) : ¬ seq < 0 := by
  rw [toNat_lt]
  simp

/-- A full cache takes the first packet behind the expected one for it. -/
theorem tryPopPacket_forced {s : RtpPacketSortor} {seq : BitVec 16} {packet : RtpPacket}
    (hlb : s.pktSortCacheMap.lowerBound s.nextSeqOut = some (seq, packet)) (hne : seq ≠ s.nextSeqOut)
    (hfull : s.maxSortSize < s.pktSortCacheMap.size) :
    s.tryPopPacket = { s with nextSeqOut := seq }.popAndResize := by
  have hmap : (s.pktSortCacheMap.lowerBound s.nextSeqOut).map Prod.fst ≠ some s.nextSeqOut := by
    rw [hlb]
    simpa using hne
  rw [tryPopPacket, if_pos hmap, if_neg (by omega), hlb]
  rfl

theorem tryPopPacket_found {s : RtpPacketSortor} {packet : RtpPacket}
    (hlb : s.pktSortCacheMap.lowerBound s.nextSeqOut = some (s.nextSeqOut, packet)) :
    s.tryPopPacket = s.popAndResize := by
  rw [tryPopPacket, if_neg]
  rw [hlb]
  simp

theorem sortPacket_fresh_held (rate : BitVec 32) (kMax kMin : ℕ) {seq : BitVec 16} (hseq : seq ≠ 0)
    (hheld : ¬ (kMin = 0 ∧ seq.toNat ≤ 32767)) (packet : RtpPacket) :
    ((create rate kMax kMin).sortPacket seq packet).2 = [] := by
  rw [sortPacket]
  by_cases hvalid : (create rate kMax kMin).isSeqValid seq
  · have hsmall := (isSeqValid_zero rfl seq).mp hvalid
    have hlb := lowerBound_first (not_lt_zero seq) packet
    rw [if_neg (not_not.mpr hvalid), tryPopPacket]
    have hne : (OrderedMap.lowerBound (OrderedMap.empty.emplace seq packet) 0).map Prod.fst ≠ some 0 := by
      rw [hlb]
      simpa using hseq
    have hroom : (OrderedMap.empty.emplace seq packet).size ≤ kMin := by
      show 1 ≤ kMin
      omega
    exact congrArg Prod.snd ((if_pos hne).trans (if_pos hroom))
  · rw [if_pos hvalid]
    simp only
    split <;> rfl

theorem sortPacket_fresh_forced (rate : BitVec 32) (kMax : ℕ) {seq : BitVec 16} (hseq : seq ≠ 0)
    (hsmall : seq.toNat ≤ 32767) (packet : RtpPacket) :
    (create rate kMax 0).sortPacket seq packet =
      { create rate kMax 0 with nextSeqOut := seq }.sortPacket seq packet := by
  have hvalid : (create rate kMax 0).isSeqValid seq := (isSeqValid_zero rfl seq).mpr hsmall
  have hvalid' : { create rate kMax 0 with nextSeqOut := seq }.isSeqValid seq := by
    apply isSeqValid_of_ahead
    rw [SerialNumber.ahead_self]
    omega
  rw [sortPacket, if_neg (not_not.mpr hvalid), sortPacket, if_neg (not_not.mpr hvalid')]
  have hforced := tryPopPacket_forced (s := { create rate kMax 0 with
    pktSortCacheMap := OrderedMap.empty.emplace seq packet })
    (lowerBound_first (not_lt_zero seq) packet) hseq (by show 0 < 1; omega)
  have hfound := tryPopPacket_found (s := { create rate kMax 0 with
    nextSeqOut := seq, pktSortCacheMap := OrderedMap.empty.emplace seq packet })
    (lowerBound_first (BitVec.lt_irrefl seq) packet)
  exact hforced.trans hfound.symm

theorem not_passesThrough {s : RtpPacketSortor} {p : TrackType × List Byte} {stream : Stream}
    (h : (s.inputRtp p.1 (some p.2)).2.sorted = []) : ¬ PassesThrough s (p :: stream) := by
  intro hpass
  simp only [PassesThrough, h] at hpass
  exact List.cons_ne_nil _ _ hpass.2.1.symm

theorem passesThrough_congr {s s' : RtpPacketSortor} {p : TrackType × List Byte} {stream : Stream}
    (h : s.inputRtp p.1 (some p.2) = s'.inputRtp p.1 (some p.2)) (hrate : s.sampleRate = s'.sampleRate) :
    PassesThrough s (p :: stream) ↔ PassesThrough s' (p :: stream) := by
  simp only [PassesThrough, h, hrate]

/-- A fresh sortor passes a stream through exactly if it is empty, or the sample rate is
not 0 and the SSRC is not 0, unless the first number is the expected 0 or there is no
cache and the number is not too far ahead of 0. -/
theorem passesThrough_fresh_iff (rate : BitVec 32) (kMax kMin : ℕ) {ssrc : BitVec 32}
    {first : BitVec 16} {stream : Stream} (hrun : RunOf ssrc first stream) :
    PassesThrough (create rate kMax kMin) stream ↔
      stream = [] ∨ rate ≠ 0 ∧ (ssrc ≠ 0 ∨ first = 0 ∨ kMin = 0 ∧ first.toNat ≤ 32767) := by
  cases stream with
  | nil => simp [PassesThrough]
  | cons p stream =>
    have hseq := hrun.head_seq
    have hown := hrun.ssrc p List.mem_cons_self
    rw [or_iff_right (by simp)]
    by_cases hrate : rate = 0
    · have hwf : ¬ (create rate kMax kMin).wellFormed p.2 :=
        fun h => ((wellFormed_iff _ _).mp h).1 hrate
      rw [iff_false_right fun h => h.1 hrate]
      exact not_passesThrough (by rw [inputRtp_ignored hwf])
    · rw [and_iff_right hrate]
      by_cases hssrc : ssrc = 0
      · rw [or_iff_right (not_not.mpr hssrc)]
        have hwf : (create rate kMax kMin).wellFormed p.2 :=
          (wellFormed_iff _ p.2).mpr ⟨hrate, hrun.wellFormed p List.mem_cons_self⟩
        have hsame : (create rate kMax kMin).ssrc = RtpHeader.ssrc p.2 := hssrc.symm.trans hown.symm
        have hinput := inputRtp_same hwf hsame
        by_cases hzero : first = 0
        · rw [iff_true_right (Or.inl hzero)]
          rw [hzero] at hrun
          exact passesThrough_of_waiting hrun hrate hssrc.symm rfl
        · rw [or_iff_right hzero]
          by_cases hforced : kMin = 0 ∧ first.toNat ≤ 32767
          · obtain ⟨rfl, hsmall⟩ := hforced
            rw [iff_true_right ⟨rfl, hsmall⟩]
            have hsort := sortPacket_fresh_forced rate kMax hzero hsmall (packetOf rate p)
            have hinput' := inputRtp_same (s := { create rate kMax 0 with nextSeqOut := first }) hwf hsame
            have hcongr : (create rate kMax 0).inputRtp p.1 (some p.2) =
                { create rate kMax 0 with nextSeqOut := first }.inputRtp p.1 (some p.2) := by
              rw [hinput, hinput', hseq]
              exact congrArg (fun r => (r.1, ({ sorted := r.2 } : Emitted))) hsort
            rw [passesThrough_congr hcongr rfl]
            exact passesThrough_of_waiting hrun hrate hssrc.symm rfl
          · rw [iff_false_right hforced]
            apply not_passesThrough
            rw [hinput, hseq]
            exact sortPacket_fresh_held rate kMax kMin hzero hforced (packetOf rate p)
      · rw [iff_true_right (Or.inl hssrc)]
        exact passesThrough_of_change hrun hrate (Ne.symm hssrc) rfl

instance (ptr : RtpHeader) : Decidable (WellFormedPacket ptr) :=
  inferInstanceAs (Decidable (_ ∧ _))

/-- Packets of payload type 33 with one byte of payload. -/
def sampleStream (ssrc : Byte) (first : BitVec 16) (count : ℕ) : Stream :=
  (List.range count).map fun i =>
    let seq := first + BitVec.ofNat 16 i
    (.trackVideo, [0x80, 33, seq.extractLsb' 8 8, seq.extractLsb' 0 8, 0, 0, 0, 0, 0, 0, 0, ssrc, 0x55])

theorem runOf_sampleStream_wrap : RunOf 1 65534 (sampleStream 1 65534 4) := ⟨by decide, by decide, by decide⟩

theorem passesThrough_wrap :
    RunOf 1 65534 (sampleStream 1 65534 4) ∧
      (PassesThrough (create 90000) (sampleStream 1 65534 4) ↔ sampleStream 1 65534 4 = [] ∨
        (90000 : BitVec 32) ≠ 0 ∧ ((1 : BitVec 32) ≠ 0 ∨ (65534 : BitVec 16) = 0 ∨
          64 = 0 ∧ (65534 : BitVec 16).toNat ≤ 32767)) :=
  ⟨runOf_sampleStream_wrap, passesThrough_fresh_iff 90000 1024 64 runOf_sampleStream_wrap⟩

/-- A stream of SSRC 0 waits in the cache for the packet 0 that is never sent. -/
theorem ssrc_zero_held : RunOf 0 5 (sampleStream 0 5 2) ∧
    (run (create 90000) ((sampleStream 0 5 2).map fun p => (p.1, some p.2))).2.periods.flatten = [] ∧
    ¬ PassesThrough (create 90000) (sampleStream 0 5 2) := by
  have hrun : RunOf 0 5 (sampleStream 0 5 2) := ⟨by decide, by decide, by decide⟩
  refine ⟨hrun, by decide, not_passesThrough ?_⟩
  decide

end RtpPacketSortor

end WifiDisplay
