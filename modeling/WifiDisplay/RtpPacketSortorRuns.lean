import WifiDisplay.RtpPacketSortorOrder

/-! Runs of `InputRtp`: what reaches the callback in each SSRC period. -/

namespace WifiDisplay

open SerialNumber

namespace RtpPacketSortor

/-- The arguments of one `InputRtp` call. -/
abbrev Input := TrackType × Option (List Byte)

/-- What the callback has seen: the finished SSRC periods, the current one, and
what each `Flush` handed out. -/
structure History where
  closed : List (List Sorted) := []
  period : List Sorted := []
  flushes : List (List Sorted) := []

def History.periods (h : History) : List (List Sorted) := h.closed ++ [h.period]

def History.record (h : History) (e : Emitted) : History :=
  match e.flushed with
  | none => { h with period := h.period ++ e.sorted }
  | some f =>
    { closed := h.closed ++ [h.period ++ f], period := e.sorted, flushes := h.flushes ++ [f] }

def step (r : RtpPacketSortor × History) (i : Input) : RtpPacketSortor × History :=
  let (s, e) := r.1.inputRtp i.1 i.2
  (s, r.2.record e)

def run (s : RtpPacketSortor) (inputs : List Input) : RtpPacketSortor × History :=
  inputs.foldl step (s, {})

/-- An SSRC change finds the cached numbers on one side of `nextSeqOut_`; another
packet is not 32767 or 32768 behind it. -/
def Admissible (s : RtpPacketSortor) (i : Input) : Prop :=
  ∀ bytes ∈ i.2, s.wellFormed bytes →
    (s.ssrc ≠ RtpHeader.ssrc bytes → OneSided s) ∧
    (s.ssrc = RtpHeader.ssrc bytes →
      (RtpHeader.seq bytes).toNat + 32767 ≠ s.nextSeqOut.toNat ∧
        (RtpHeader.seq bytes).toNat + 32768 ≠ s.nextSeqOut.toNat)

instance (s : RtpPacketSortor) : Decidable (OneSided s) :=
  inferInstanceAs (Decidable ((∀ e ∈ s.pktSortCacheMap.toList, e.1 < s.nextSeqOut) ∨
    ∀ e ∈ s.pktSortCacheMap.toList, ¬ e.1 < s.nextSeqOut))

instance (s : RtpPacketSortor) (i : Input) : Decidable (Admissible s i) :=
  inferInstanceAs (Decidable (∀ bytes ∈ i.2, _))

/-- The packets of the calls under their own numbers. -/
def received (rate : BitVec 32) (inputs : List Input) : List Sorted :=
  inputs.filterMap fun i => i.2.map fun bytes =>
    (RtpHeader.seq bytes, { data := bytes, sampleRate := rate, type := i.1 })

/-- Every period advances, every emission is a call's packet and none is one
twice, and what a `Flush` emits is in serial order. -/
structure InSerialOrder (rate : BitVec 32) (inputs : List Input) (h : History) : Prop where
  unwinds : ∀ p ∈ h.periods, ∃ counts, Unwinds counts (p.map Prod.fst)
  once : h.periods.flatten.Subperm (received rate inputs)
  flushes : ∀ f ∈ h.flushes, (f.map Prod.fst).Pairwise fun a b => Follows b a

theorem step_run (s : RtpPacketSortor) (inputs : List Input) (i : Input) :
    step (run s inputs) i = run s (inputs ++ [i]) := by
  rw [run, run, List.foldl_concat]

/-- The invariant of a run. -/
structure Reached (rate : BitVec 32) (inputs : List Input)
    (r : RtpPacketSortor × History) : Prop where
  sampleRate : r.1.sampleRate = rate
  ordered : Ordered r.1 r.2.period
  closed : ∀ p ∈ r.2.closed, Advancing (p.map Prod.fst)
  flushes : ∀ f ∈ r.2.flushes, (f.map Prod.fst).Pairwise fun a b => Follows b a
  once : (r.2.periods.flatten ++ r.1.pktSortCacheMap.toList).Subperm (received rate inputs)

theorem ordered_of_empty {s : RtpPacketSortor} (h : s.pktSortCacheMap = .empty) : Ordered s [] := by
  refine ⟨?_, by simp, .nil⟩
  intro e he
  rw [h] at he
  simp [← OrderedMap.mem_toList, OrderedMap.empty] at he

theorem reached_create (rate : BitVec 32) (kMax kMin : Nat) :
    Reached rate [] (create rate kMax kMin, {}) where
  sampleRate := rfl
  ordered := ordered_of_empty rfl
  closed := by simp
  flushes := by simp
  once := by simp [History.periods, create, OrderedMap.empty]

@[simp] theorem popExpected_sampleRate (n : Nat) (s : RtpPacketSortor) :
    (popExpected n s).1.sampleRate = s.sampleRate := by
  induction n generalizing s with
  | zero => rfl
  | succ n ih =>
    simp only [popExpected]
    split
    · rfl
    · split
      · exact ih _
      · rfl

@[simp] theorem sortPacket_sampleRate (s : RtpPacketSortor) (seq : BitVec 16)
    (packet : RtpPacket) : (s.sortPacket seq packet).1.sampleRate = s.sampleRate := by
  simp only [sortPacket, tryPopPacket, popAndResize, setSortSize]
  repeat' split
  all_goals simp

@[simp] theorem popBegin_sampleRate (n : Nat) (s : RtpPacketSortor) :
    (popBegin n s).1.sampleRate = s.sampleRate := by
  induction n generalizing s with
  | zero => rfl
  | succ n ih =>
    simp only [popBegin]
    split
    · rfl
    · exact ih _

@[simp] theorem changeSsrc_sampleRate (s : RtpPacketSortor) (rtp : RtpPacket) :
    (s.changeSsrc rtp).1.sampleRate = s.sampleRate := popBegin_sampleRate _ _

theorem changeSsrc_flushed (s : RtpPacketSortor) (rtp : RtpPacket) :
    (s.changeSsrc rtp).2 = s.pktSortCacheMap.toList := flush_toList _

theorem Reached.skip {rate : BitVec 32} {inputs : List Input} {s : RtpPacketSortor} {h : History}
    (hr : Reached rate inputs (s, h)) (i : Input) :
    Reached rate (inputs ++ [i]) (s, h.record {}) where
  sampleRate := hr.sampleRate
  ordered := by simpa [History.record] using hr.ordered
  closed := hr.closed
  flushes := hr.flushes
  once := by
    have hmore : (received rate inputs).Subperm (received rate (inputs ++ [i])) := by
      rw [received, received, List.filterMap_append]
      exact (List.sublist_append_left _ _).subperm
    refine List.Subperm.trans ?_ hmore
    simpa [History.record, History.periods] using hr.once

theorem subperm_accept {A C out C' I : List Sorted} {e : Sorted} (h : (A ++ C).Subperm I)
    (h' : (out ++ C').Subperm (e :: C)) : (A ++ out ++ C').Subperm (I ++ [e]) := by
  have hcons : (A ++ e :: C).Subperm (e :: I) :=
    List.perm_middle.subperm.trans ((List.subperm_cons e).mpr h)
  have hmore : (A ++ (out ++ C')).Subperm (A ++ e :: C) := (List.Subperm.refl A).append h'
  rw [List.append_assoc]
  exact hmore.trans (hcons.trans (List.perm_append_singleton e I).symm.subperm)

theorem Reached.continue {rate : BitVec 32} {inputs : List Input} {s : RtpPacketSortor}
    {h : History} (hr : Reached rate inputs (s, h)) {i : Input} {rtp : RtpPacket}
    (hcond : rtp.getSeq.toNat + 32767 ≠ s.nextSeqOut.toNat ∧
      rtp.getSeq.toNat + 32768 ≠ s.nextSeqOut.toNat)
    (hnew : received rate (inputs ++ [i]) = received rate inputs ++ [(rtp.getSeq, rtp)]) :
    Reached rate (inputs ++ [i])
      ((s.sortPacket rtp.getSeq rtp).1, h.record { sorted := (s.sortPacket rtp.getSeq rtp).2 }) := by
  have haccepts : Accepts s h.period (rtp.getSeq, rtp) (s.sortPacket rtp.getSeq rtp) :=
    hr.ordered.sortPacket fun hvalid => ahead_of_isSeqValid hvalid hcond.1 hcond.2
  obtain ⟨hord, hsub⟩ := haccepts
  refine ⟨by simpa using hr.sampleRate, hord, hr.closed, hr.flushes, ?_⟩
  rw [hnew]
  simpa [History.record, History.periods] using subperm_accept hr.once hsub

theorem Reached.change {rate : BitVec 32} {inputs : List Input} {s : RtpPacketSortor}
    {h : History} (hr : Reached rate inputs (s, h)) {i : Input} {rtp : RtpPacket}
    (hcond : OneSided s)
    (hnew : received rate (inputs ++ [i]) = received rate inputs ++ [(rtp.getSeq, rtp)]) :
    Reached rate (inputs ++ [i])
      (((s.changeSsrc rtp).1.sortPacket rtp.getSeq rtp).1,
        h.record { flushed := some (s.changeSsrc rtp).2,
                   sorted := ((s.changeSsrc rtp).1.sortPacket rtp.getSeq rtp).2 }) := by
  have hentered : Ordered { s with ssrc := rtp.getSSRC } h.period :=
    ⟨hr.ordered.window, hr.ordered.next, hr.ordered.advancing⟩
  have hside : OneSided { s with ssrc := rtp.getSSRC } := hcond
  have hflush := hentered.popBegin hside s.pktSortCacheMap.size
  have hempty : Ordered (s.changeSsrc rtp).1 [] := ordered_of_empty rfl
  have haccepts : Accepts (s.changeSsrc rtp).1 [] (rtp.getSeq, rtp)
      ((s.changeSsrc rtp).1.sortPacket rtp.getSeq rtp) := by
    apply hempty.sortPacket
    intro _
    show ahead rtp.getSeq rtp.getSeq < _
    rw [ahead_self]
    omega
  obtain ⟨hord, hsub⟩ := haccepts
  refine ⟨by simpa using hr.sampleRate, hord, ?_, ?_, ?_⟩
  · intro p hp
    rcases List.mem_append.mp hp with hp | hp
    · exact hr.closed p hp
    · obtain rfl := List.mem_singleton.mp hp
      exact hflush.1.advancing
  · intro f hf
    rcases List.mem_append.mp hf with hf | hf
    · exact hr.flushes f hf
    · obtain rfl := List.mem_singleton.mp hf
      exact hentered.flush_pairwise hside
  · rw [hnew]
    have honce : (h.periods.flatten ++ s.pktSortCacheMap.toList ++ []).Subperm (received rate inputs) := by
      simpa using hr.once
    simpa [History.record, History.periods, changeSsrc_flushed] using subperm_accept honce hsub

theorem Reached.step {rate : BitVec 32} {inputs : List Input} {r : RtpPacketSortor × History}
    (hr : Reached rate inputs r) {i : Input} (hi : Admissible r.1 i) :
    Reached rate (inputs ++ [i]) (step r i) := by
  obtain ⟨s, h⟩ := r
  obtain ⟨type, ptr⟩ := i
  cases ptr with
  | none => exact hr.skip _
  | some bytes =>
    simp only [RtpPacketSortor.step, inputRtp]
    split
    · exact hr.skip _
    · rename_i hwf
      have hcond := hi bytes rfl (not_not.mp hwf)
      have hnew : received rate (inputs ++ [(type, some bytes)]) = received rate inputs ++
          [(RtpHeader.seq bytes, { data := bytes, sampleRate := s.sampleRate, type })] := by
        simp [received, ← hr.sampleRate]
      split
      · rename_i hssrc
        exact hr.change (hcond.1 hssrc) hnew
      · rename_i hssrc
        exact hr.continue (hcond.2 (not_not.mp hssrc)) hnew

/-- In a run whose steps are all admissible the packets of each SSRC period
reach the callback in serial order, none of them twice. -/
theorem run_inSerialOrder (rate : BitVec 32) (kMax kMin : Nat) (inputs : List Input)
    (hadm : ∀ n, (hn : n < inputs.length) →
      Admissible (run (create rate kMax kMin) (inputs.take n)).1 inputs[n]) :
    InSerialOrder rate inputs (run (create rate kMax kMin) inputs).2 := by
  have hreached (n : Nat) (hn : n ≤ inputs.length) :
      Reached rate (inputs.take n) (run (create rate kMax kMin) (inputs.take n)) := by
    induction n with
    | zero => exact reached_create rate kMax kMin
    | succ n ih =>
      have hstep := (ih (by omega)).step (hadm n hn)
      rwa [step_run, List.take_concat_get' inputs n hn] at hstep
  have hall := hreached inputs.length (Nat.le_refl _)
  rw [List.take_length] at hall
  refine ⟨?_, (List.sublist_append_left _ _).subperm.trans hall.once, hall.flushes⟩
  intro p hp
  rcases List.mem_append.mp hp with hp | hp
  · exact (hall.closed p hp).exists_unwinds
  · obtain rfl := List.mem_singleton.mp hp
    exact hall.ordered.advancing.exists_unwinds

/-- A packet of payload type 33 with one byte of payload. -/
def sample (ssrc : Byte) (seq : BitVec 16) : Input :=
  (.trackVideo, some [0x80, 33, seq.extractLsb' 8 8, seq.extractLsb' 0 8,
    0, 0, 0, 0, 0, 0, 0, ssrc, 0x55])

theorem run_reordered_wrap :
    InSerialOrder 90000 [sample 1 65534, sample 1 0, sample 1 65535, sample 1 2, sample 2 7]
      (run (create 90000) [sample 1 65534, sample 1 0, sample 1 65535, sample 1 2, sample 2 7]).2 :=
  run_inSerialOrder 90000 1024 64 _ (by decide)

/-- 65534 is lost, 65535 and 0 wait for it when the SSRC changes. -/
def wrapInputs : List Input := [sample 1 65533, sample 1 65535, sample 1 0, sample 2 7]

theorem flush_wrap_not_inSerialOrder :
    ¬ ∀ inputs, InSerialOrder 90000 inputs (run (create 90000) inputs).2 := by
  intro h
  have hflush := (h wrapInputs).flushes
  have hwrap : (run (create 90000) wrapInputs).2.flushes.map (fun f => f.map Prod.fst) =
      [[], [0, 65535]] := by decide
  obtain ⟨f, hf, hnumbers⟩ : ∃ f ∈ (run (create 90000) wrapInputs).2.flushes,
      f.map Prod.fst = [0, 65535] := by
    rw [← List.mem_map, hwrap]
    simp
  have hserial := hflush f hf
  rw [hnumbers] at hserial
  exact absurd (List.rel_of_pairwise_cons hserial (List.mem_singleton_self _)) (by
    unfold Follows ahead
    decide)

/-- `IsSeqValid` takes a packet 32767 behind for one ahead. -/
example : (run (create 90000) [sample 1 32767, sample 1 1, sample 2 7]).2.closed.map
    (fun p => p.map Prod.fst) = [[], [32767, 1]] := by decide

end RtpPacketSortor

end WifiDisplay
