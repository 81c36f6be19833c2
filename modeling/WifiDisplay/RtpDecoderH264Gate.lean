import WifiDisplay.GuardedRuns
import WifiDisplay.RtpDecoderH264Units

/-! The gate behind lost packets. `LossGate` is what `gopDropped_` is for: a gap in the
sequence numbers closes it ahead of the packet that shows the gap, a packet that the
decoder gives up on closes it behind itself, and only a key frame opens it. -/

namespace WifiDisplay

structure LossGate where
  prev : Option (BitVec 16) := none
  closed : Bool := false
  deriving DecidableEq, Repr

namespace LossGate

/-- The number does not follow the one of the packet before. -/
def reveals (g : LossGate) (seq : BitVec 16) : Bool := g.prev.any fun p => seq ≠ p + 1

def input (g : LossGate) (seq : BitVec 16) (units : List (List Byte)) (broken : Bool) :
    LossGate × List (List Byte) :=
  let closed := g.closed || g.reveals seq
  ({ prev := some seq, closed := broken || closedAfter isKeyUnit closed units },
    passGate isKeyUnit closed units)

end LossGate

/-- A decoder and the gate, with what has come out and what the gate lets out. -/
structure GatedDecoder where
  decoder : RtpDecoderH264 := {}
  gate : LossGate := {}
  out : List (List Byte) := []
  due : List (List Byte) := []
  deriving DecidableEq, Repr

namespace GatedDecoder

/-- The gate ignores the packets that `InputRtp` ignores. -/
def step (s : GatedDecoder) (rtp : Option RtpPacket) : Except Fault GatedDecoder := do
  let (d, out) ← s.decoder.inputRtp rtp
  match rtp with
  | none => return { s with decoder := d, out := s.out ++ out.map (·.data) }
  | some rtp =>
    let payload := rtp.getPayload.take rtp.getPayloadSize
    if payload = [] then return { s with decoder := d, out := s.out ++ out.map (·.data) }
    else
      let (gate, due) := s.gate.input rtp.getSeq (s.decoder.units payload rtp.getSeq)
        (RtpDecoderH264.isBroken payload)
      return { decoder := d, gate, out := s.out ++ out.map (·.data), due := s.due ++ due }

def Agrees (s : GatedDecoder) : Prop := s.out = s.due

instance (s : GatedDecoder) : Decidable s.Agrees := inferInstanceAs (Decidable (_ = _))

/-- The decoder's own gate stands like the ideal one. -/
structure InStep (s : GatedDecoder) : Prop where
  agrees : s.Agrees
  closed : s.gate.closed = s.decoder.gopDropped
  prev : s.gate.prev = some s.decoder.lastSeq ∨ s.gate.prev = none ∧ s.decoder.lastSeq = 0
  prefixSize : s.decoder.frame.prefixSize = 4

/-- A packet at which the decoder's order, units first and numbers afterwards, makes no
difference: what the gap would hold back is held back already, and the gate ends up where
the gap and the key frames put it. A gap behind number 0 is not seen. -/
def Harmless (d : RtpDecoderH264) (units : List (List Byte)) (broken : Bool) : Prop :=
  (d.gopDropped = true ∨ ∀ u ∈ units.head?, isKeyUnit u = true) ∧
    (broken = true ∨ if d.lastSeq = 0 then d.gopDropped = true ∨ ∃ u ∈ units, isKeyUnit u = true
      else ∀ u ∈ units, isKeyUnit u = false)

instance (d : RtpDecoderH264) (units : List (List Byte)) (broken : Bool) :
    Decidable (Harmless d units broken) := by
  unfold Harmless
  infer_instance

def GapHarmless (s : GatedDecoder) (rtp : Option RtpPacket) : Prop :=
  ∀ p ∈ rtp, p.getPayload.take p.getPayloadSize ≠ [] → s.gate.reveals p.getSeq = true →
    Harmless s.decoder (s.decoder.units (p.getPayload.take p.getPayloadSize) p.getSeq)
      (RtpDecoderH264.isBroken (p.getPayload.take p.getPayloadSize))

instance (s : GatedDecoder) (rtp : Option RtpPacket) : Decidable (s.GapHarmless rtp) := by
  unfold GapHarmless
  infer_instance

end GatedDecoder

theorem passGate_closed_iff {α : Type*} {isKey : α → Bool} {us : List α} :
    us = passGate isKey true us ↔ ∀ u ∈ us.head?, isKey u = true := by
  cases us with
  | nil => simp
  | cons u us =>
    cases hu : isKey u with
    | true => simp [passGate, hu]
    | false =>
      have hlength := (List.dropWhile_sublist (! isKey ·) (l := us)).length_le
      have hne : u :: us ≠ passGate isKey true (u :: us) := by
        intro heq
        have := congrArg List.length heq
        simp [passGate, hu] at this
        omega
      simp [hne, hu]

namespace GatedDecoder

open RtpDecoderH264

theorem step_counted {s s' : GatedDecoder} {rtp : RtpPacket} {payload : List Byte}
    (hpayload : rtp.getPayload.take rtp.getPayloadSize = payload) (hne : payload ≠ [])
    (hsize : s.decoder.frame.prefixSize = 4) (h : s.step (some rtp) = .ok s') :
    ∃ d out, PutsOut s.decoder d out (s.decoder.units payload rtp.getSeq) (isBroken payload) ∧
      s' = { decoder := d.compareSeq rtp.getSeq,
             gate := (s.gate.input rtp.getSeq (s.decoder.units payload rtp.getSeq)
              (isBroken payload)).1,
             out := s.out ++ out.map (·.data),
             due := s.due ++ (s.gate.input rtp.getSeq (s.decoder.units payload rtp.getSeq)
              (isBroken payload)).2 } := by
  cases hunpack : s.decoder.unpack payload rtp.getStampMS rtp.getSeq with
  | error e =>
    simp only [step, inputRtp, hpayload, if_neg hne, hunpack] at h
    cases h
  | ok r =>
    obtain ⟨d, out, key⟩ := r
    refine ⟨d, out, unpack_putsOut hsize hunpack, ?_⟩
    simp only [step, inputRtp_of_unpack hpayload hne hunpack, hpayload, if_neg hne] at h
    cases h
    rfl

theorem step_ignored {s s' : GatedDecoder} {rtp : Option RtpPacket}
    (hnone : ∀ p ∈ rtp, p.getPayload.take p.getPayloadSize = []) (h : s.step rtp = .ok s') :
    s' = s := by
  cases rtp with
  | none =>
    simp only [step, inputRtp] at h
    cases h
    simp
  | some p =>
    simp only [step, inputRtp, hnone p rfl, if_true] at h
    cases h
    simp

/-- Behind a packet that shows a gap the two gates agree exactly if the gap is harmless. -/
theorem gates_agree_iff {d d' : RtpDecoderH264} {out : List H264Frame}
    {units : List (List Byte)} {broken : Bool} {seq : BitVec 16}
    (hput : PutsOut d d' out units broken) (hgap : seq ≠ d.lastSeq + 1) :
    (out.map (·.data) = passGate isKeyUnit true units ∧
      (broken || closedAfter isKeyUnit true units) = (d'.compareSeq seq).gopDropped) ↔
      Harmless d units broken := by
  refine and_congr ?_ ?_
  · rw [hput.out]
    cases d.gopDropped with
    | true => simp
    | false => simpa using passGate_closed_iff
  · simp only [compareSeq, hput.gopDropped, hput.lastSeq, decide_eq_true hgap]
    by_cases hzero : d.lastSeq = 0
    · simp only [decide_eq_false (not_not.mpr hzero), if_pos hzero]
      cases broken <;> cases d.gopDropped <;> simp [closedAfter]
    · simp only [decide_eq_true hzero, if_neg hzero]
      cases broken <;> cases d.gopDropped <;> simp [closedAfter]

theorem gates_agree {d d' : RtpDecoderH264} {out : List H264Frame} {units : List (List Byte)}
    {broken : Bool} {seq : BitVec 16} (hput : PutsOut d d' out units broken)
    (hnext : seq = d.lastSeq + 1 ∨ d.lastSeq = 0) :
    (broken || closedAfter isKeyUnit d.gopDropped units) = (d'.compareSeq seq).gopDropped := by
  rw [compareSeq, ← hput.gopDropped, hput.lastSeq]
  rcases hnext with hnext | hzero
  · simp [hnext]
  · simp [hzero]

theorem step_inStep_iff {s s' : GatedDecoder} {rtp : Option RtpPacket} (hs : s.InStep)
    (h : s.step rtp = .ok s') : s'.InStep ↔ s.GapHarmless rtp := by
  by_cases hcounted : ∃ p ∈ rtp, p.getPayload.take p.getPayloadSize ≠ []
  · obtain ⟨p, rfl, hne⟩ := hcounted
    obtain ⟨d, out, hput, rfl⟩ := step_counted rfl hne hs.prefixSize h
    cases hreveals : s.gate.reveals p.getSeq with
    | false =>
      have hharmless : s.GapHarmless (some p) := by
        rintro q ⟨⟩ - hq
        rw [hreveals] at hq
        cases hq
      have hnext : p.getSeq = s.decoder.lastSeq + 1 ∨ s.decoder.lastSeq = 0 := by
        rcases hs.prev with hprev | ⟨-, hzero⟩
        · exact .inl (by simpa [LossGate.reveals, hprev] using hreveals)
        · exact .inr hzero
      refine iff_of_true ⟨?_, ?_, .inl rfl, hput.prefixSize⟩ hharmless
      · simp only [Agrees, LossGate.input, hreveals, Bool.or_false, hs.closed, hput.out]
        rw [hs.agrees]
      · simp only [LossGate.input, hreveals, Bool.or_false, hs.closed]
        exact gates_agree hput hnext
    | true =>
      have hgap : p.getSeq ≠ s.decoder.lastSeq + 1 := by
        rcases hs.prev with hprev | ⟨hprev, -⟩
        · simpa [LossGate.reveals, hprev] using hreveals
        · simp [LossGate.reveals, hprev] at hreveals
      have hharmless : s.GapHarmless (some p) ↔ Harmless s.decoder
          (s.decoder.units (p.getPayload.take p.getPayloadSize) p.getSeq)
          (isBroken (p.getPayload.take p.getPayloadSize)) :=
        ⟨fun hok => hok p rfl hne hreveals, by rintro hok q ⟨⟩ - -; exact hok⟩
      rw [hharmless, ← gates_agree_iff hput hgap]
      constructor
      · intro hin
        have hagrees := hin.agrees
        have hclosed := hin.closed
        simp only [Agrees, LossGate.input, hreveals, Bool.or_true] at hagrees
        simp only [LossGate.input, hreveals, Bool.or_true] at hclosed
        rw [hs.agrees] at hagrees
        exact ⟨List.append_cancel_left hagrees, hclosed⟩
      · rintro ⟨hout, hclosed⟩
        refine ⟨?_, ?_, .inl rfl, hput.prefixSize⟩
        · simp only [Agrees, LossGate.input, hreveals, Bool.or_true, hout]
          rw [hs.agrees]
        · simp only [LossGate.input, hreveals, Bool.or_true]
          exact hclosed
  · have hnone : ∀ p ∈ rtp, p.getPayload.take p.getPayloadSize = [] :=
      fun p hp => by_contra fun hne => hcounted ⟨p, hp, hne⟩
    rw [step_ignored hnone h]
    exact iff_of_true hs fun p hp hne => absurd (hnone p hp) hne

/-- In a run whose gaps are all harmless exactly the frames come out that the gate lets out. -/
theorem run_agrees {calls : List (Option RtpPacket)} {s : GatedDecoder}
    (run : GuardedRun step GapHarmless {} calls s) : s.Agrees := by
  have hinit : ({} : GatedDecoder).InStep :=
    { agrees := rfl, closed := rfl, prev := .inr ⟨rfl, rfl⟩, prefixSize := rfl }
  have hs : s.InStep := run.invariant hinit
    fun _ _ _ hs hok hstep => (step_inStep_iff hs hstep).mpr hok
  exact hs.agrees

def plainPacket (seq : BitVec 16) (payload : List Byte) : Option RtpPacket :=
  some ((RtpMaker.create 0 1 1400 96 90000 seq 0).built payload false 0)

/-- A key frame and, behind a lost packet, a slice. -/
theorem sliceBehindGap_not_agrees :
    ¬ ∀ calls s, GuardedRun step (fun _ _ => True) {} calls s → s.Agrees := by
  intro h
  obtain ⟨s, hrun⟩ := Option.isSome_iff_exists.mp
    (show (GuardedRun.check step (fun _ _ => True) {}
      [plainPacket 1 [0x65, 0x88], plainPacket 3 [0x41, 0x9A]]).isSome by decide +kernel)
  have hfails : (GuardedRun.check step (fun _ _ => True) {}
      [plainPacket 1 [0x65, 0x88], plainPacket 3 [0x41, 0x9A]]).all fun s => ! decide s.Agrees := by
    decide +kernel
  rw [hrun] at hfails
  have hagrees := h _ _ (GuardedRun.of_check hrun)
  simp [hagrees] at hfails

/-- The gap is shown by a fragment of a NAL unit whose start is lost: the slice behind it
is held back, the one behind the next key frame is not. -/
theorem run_fragmentAtGap_agrees :
    ∃ s, GuardedRun step GapHarmless {}
        [plainPacket 1 [0x65, 0x88], plainPacket 2 [0x41, 0x9A], plainPacket 5 [0x5C, 0x01, 7],
          plainPacket 6 [0x41, 0x9B], plainPacket 7 [0x65, 0x89], plainPacket 8 [0x41, 0x9C]] s ∧
      s.out = [startCode ++ [0x65, 0x88], startCode ++ [0x41, 0x9A], startCode ++ [0x65, 0x89],
        startCode ++ [0x41, 0x9C]] ∧ s.Agrees := by
  obtain ⟨s, hrun⟩ := Option.isSome_iff_exists.mp
    (show (GuardedRun.check step GapHarmless {}
      [plainPacket 1 [0x65, 0x88], plainPacket 2 [0x41, 0x9A], plainPacket 5 [0x5C, 0x01, 7],
        plainPacket 6 [0x41, 0x9B], plainPacket 7 [0x65, 0x89],
        plainPacket 8 [0x41, 0x9C]]).isSome by decide +kernel)
  have hout : (GuardedRun.check step GapHarmless {}
      [plainPacket 1 [0x65, 0x88], plainPacket 2 [0x41, 0x9A], plainPacket 5 [0x5C, 0x01, 7],
        plainPacket 6 [0x41, 0x9B], plainPacket 7 [0x65, 0x89],
        plainPacket 8 [0x41, 0x9C]]).all fun s =>
      s.out = [startCode ++ [0x65, 0x88], startCode ++ [0x41, 0x9A], startCode ++ [0x65, 0x89],
        startCode ++ [0x41, 0x9C]] := by decide +kernel
  rw [hrun] at hout
  exact ⟨s, GuardedRun.of_check hrun, by simpa using hout, run_agrees (GuardedRun.of_check hrun)⟩

end GatedDecoder

end WifiDisplay
