import Mathlib.Tactic.IntervalCases
import WifiDisplay.Rtcp

/-! The time of a round trip, from a sender report over a receiver report back. -/

namespace WifiDisplay

theorem htonl_htonl (x : BitVec 32) : htonl (htonl x) = x := by
  apply BitVec.eq_of_getLsbD_eq
  intro i hi
  simp only [htonl, BitVec.getLsbD_append, BitVec.getLsbD_extractLsb']
  interval_cases i <;> simp

inductive SenderOp where
  | rtp (stamp : BitVec 32) (ntpStampMs bytes : BitVec 64)
  | sr (rtcpSSRC : BitVec 32) (now : BitVec 64)
  | rtcp (packet : RtcpPacket) (now : Nat → BitVec 64)

inductive ReceiverOp where
  | rtp (seq : BitVec 16) (stamp : BitVec 32) (ntpStampMs : BitVec 64) (sampleRate : BitVec 32)
      (bytes now : BitVec 64)
  | rtcp (packet : RtcpPacket) (now : BitVec 64)
  | rr (rtcpSSRC rtpSSRC : BitVec 32) (now : BitVec 64)

def ReceiverOp.takesReport : ReceiverOp → Bool
  | .rtcp (.sr _) _ => true
  | _ => false

def RtcpSenderContext.apply (s : RtcpSenderContext) : SenderOp → RtcpSenderContext
  | .rtp stamp ntpStampMs bytes => s.onRtp stamp ntpStampMs bytes
  | .sr rtcpSSRC now => (s.createRtcpSR rtcpSSRC now).1
  | .rtcp packet now => s.onRtcp packet now

def RtcpReceiverContext.apply (r : RtcpReceiverContext) : ReceiverOp → RtcpReceiverContext
  | .rtp seq stamp ntpStampMs sampleRate bytes now =>
    r.onRtp seq stamp ntpStampMs sampleRate bytes now
  | .rtcp packet now => r.onRtcp packet now
  | .rr rtcpSSRC rtpSSRC now => (r.createRtcpRR rtcpSSRC rtpSSRC now).1

theorem RtcpReceiverContext.apply_quiet (r : RtcpReceiverContext) {op : ReceiverOp}
    (h : op.takesReport = false) :
    (r.apply op).lastSrLsr = r.lastSrLsr ∧ (r.apply op).lastSrNtpSys = r.lastSrNtpSys := by
  cases op with
  | rtp => exact ⟨rfl, rfl⟩
  | rr => exact ⟨rfl, rfl⟩
  | rtcp packet now =>
    cases packet with
    | sr => simp [ReceiverOp.takesReport] at h
    | rr => exact ⟨rfl, rfl⟩
    | xr => exact ⟨rfl, rfl⟩
    | other => exact ⟨rfl, rfl⟩

theorem RtcpReceiverContext.run_quiet (r : RtcpReceiverContext) {ops : List ReceiverOp}
    (h : ∀ op ∈ ops, op.takesReport = false) :
    (ops.foldl apply r).lastSrLsr = r.lastSrLsr ∧
      (ops.foldl apply r).lastSrNtpSys = r.lastSrNtpSys := by
  induction ops generalizing r with
  | nil => exact ⟨rfl, rfl⟩
  | cons op ops ih =>
    obtain ⟨hlsr, hsys⟩ := ih (r.apply op) fun op hop => h op (List.mem_cons_of_mem _ hop)
    obtain ⟨hlsr', hsys'⟩ := r.apply_quiet (h op List.mem_cons_self)
    exact ⟨hlsr.trans hlsr', hsys.trans hsys'⟩

namespace RtcpSenderContext

variable (s : RtcpSenderContext)

/-- A receiver report that comes back finds the entry of its sender report and sets the
time of the round trip to the one from sending to arrival without the delay. -/
def Measures (sr : RtcpSR) (sent : BitVec 64) (rr : RtcpRR) (arrival : BitVec 64)
    (ssrc : BitVec 32) : Prop :=
  ∃ item rtt, rr.items = [item] ∧ item.lastSrStamp = sr.middle ∧
    s.senderReportNtp.find? item.lastSrStamp = some sent ∧
    s.measure item arrival = some (ssrc, rtt) ∧
    (s.onRtcp (.rr rr) fun _ => arrival).getRtt ssrc = rtt ∧
    (rtt.toNat : ℤ) = arrival.toNat - sent.toNat - delayMs (ntohl item.delaySinceLastSr)

theorem delayMs_lt (d : BitVec 32) : delayMs d < 2 ^ 31 := by
  have h := d.isLt
  simp only [delayMs]
  omega

theorem passed_toNat (arrival sent : BitVec 64) (d : Nat) :
    (((arrival - sent - BitVec.ofNat 64 d).setWidth 32).toNat : ℤ) =
      (arrival.toNat - sent.toNat - d) % 2 ^ 32 := by
  have ha := arrival.isLt
  have hs := sent.isLt
  simp only [BitVec.toNat_setWidth, BitVec.toNat_sub, BitVec.toNat_ofNat]
  omega

theorem onRtcp_single {rr : RtcpRR} {item : ReportItem} (hrr : rr.items = [item])
    {arrival : BitVec 64} {ssrc rtt : BitVec 32} (h : s.measure item arrival = some (ssrc, rtt)) :
    (s.onRtcp (.rr rr) fun _ => arrival).getRtt ssrc = rtt := by
  simp only [onRtcp, hrr, List.zipIdx_singleton, List.foldl_cons, List.foldl_nil, report, h, getRtt,
    OrderedMap.find?_assign_self, Option.getD_some]

theorem measure_of_found {item : ReportItem} {sent arrival : BitVec 64}
    (hne : item.lastSrStamp ≠ 0) (hfound : s.senderReportNtp.find? item.lastSrStamp = some sent) :
    s.measure item arrival =
      let rtt := (arrival - sent - BitVec.ofNat 64 (delayMs item.delaySinceLastSr)).setWidth 32
      if 0 ≤ rtt.toInt then some (item.ssrc, rtt) else none := by
  rw [measure, if_neg hne, hfound]

/-- The measured time is the true one exactly when the delay is the same in both byte
orders and the true time fits. -/
theorem measured_value (arrival sent : BitVec 64) (d d' : BitVec 32) :
    0 ≤ ((arrival - sent - BitVec.ofNat 64 (delayMs d')).setWidth 32).toInt ∧
        (((arrival - sent - BitVec.ofNat 64 (delayMs d')).setWidth 32).toNat : ℤ) =
          arrival.toNat - sent.toNat - delayMs d ↔
      delayMs d' = delayMs d ∧ 0 ≤ (arrival.toNat : ℤ) - sent.toNat - delayMs d ∧
        (arrival.toNat : ℤ) - sent.toNat - delayMs d < 2 ^ 31 := by
  have hvalue := passed_toNat arrival sent (delayMs d')
  have hd := delayMs_lt d
  have hd' := delayMs_lt d'
  have hsign : 0 ≤ ((arrival - sent - BitVec.ofNat 64 (delayMs d')).setWidth 32).toInt ↔
      (((arrival - sent - BitVec.ofNat 64 (delayMs d')).setWidth 32).toNat : ℤ) < 2 ^ 31 := by
    rw [BitVec.toInt_eq_toNat_cond]
    have hlt := ((arrival - sent - BitVec.ofNat 64 (delayMs d')).setWidth 32).isLt
    split <;> omega
  rw [hsign, hvalue]
  constructor
  · rintro ⟨hsmall, heq⟩
    omega
  · rintro ⟨heq, hlow, hhigh⟩
    omega

end RtcpSenderContext

open RtcpSenderContext RtcpReceiverContext

/-- A round trip is measured exactly when the stamp of the report is not zero and reads
the same in both byte orders, the sender still keeps it, the SSRC of the block is the
receiver's one in the other byte order, the delay comes to the same milliseconds in
both byte orders, and the time fits 31 bits. -/
theorem measures_iff (s₀ : RtcpSenderContext) (senderSSRC : BitVec 32) (sent : BitVec 64)
    (senderOps : List SenderOp) (r₀ : RtcpReceiverContext) (taken : BitVec 64)
    (receiverOps : List ReceiverOp) (hquiet : ∀ op ∈ receiverOps, op.takesReport = false)
    (rtcpSSRC rtpSSRC : BitVec 32) (reported arrival : BitVec 64) (ssrc : BitVec 32) :
    let sr := (s₀.createRtcpSR senderSSRC sent).2
    let s := senderOps.foldl RtcpSenderContext.apply (s₀.createRtcpSR senderSSRC sent).1
    let r := receiverOps.foldl RtcpReceiverContext.apply (r₀.onRtcp (.sr sr) taken)
    let d := dlsr (reported - taken)
    s.Measures sr sent (r.createRtcpRR rtcpSSRC rtpSSRC reported).2 arrival ssrc ↔
      sr.middle ≠ 0 ∧ htonl sr.middle = sr.middle ∧ s.senderReportNtp.find? sr.middle = some sent ∧
        htonl rtpSSRC = ssrc ∧ delayMs (htonl d) = delayMs d ∧
        0 ≤ (arrival.toNat : ℤ) - sent.toNat - delayMs d ∧
        (arrival.toNat : ℤ) - sent.toNat - delayMs d < 2 ^ 31 := by
  intro sr s r d
  obtain ⟨hlsr, hsys⟩ : r.lastSrLsr = sr.middle ∧ r.lastSrNtpSys = taken :=
    (r₀.onRtcp (.sr sr) taken).run_quiet hquiet
  obtain ⟨item, hitem, hstamp, hssrc, hdelay⟩ : ∃ item,
      (r.createRtcpRR rtcpSSRC rtpSSRC reported).2.items = [item] ∧
        item.lastSrStamp = htonl sr.middle ∧ item.ssrc = htonl rtpSSRC ∧
        item.delaySinceLastSr = htonl (if sr.middle = 0 then 0 else d) := by
    refine ⟨_, rfl, ?_, rfl, ?_⟩
    · rw [hlsr]
    · rw [hlsr, hsys]
  constructor
  · rintro ⟨item', rtt, hitem', hmatch, hfound, hmeasure, -, hvalue⟩
    rw [hitem] at hitem'
    cases hitem'
    have hsame : htonl sr.middle = sr.middle := hstamp ▸ hmatch
    have hne : sr.middle ≠ 0 := by
      intro h0
      rw [RtcpSenderContext.measure, if_pos (hmatch.trans h0)] at hmeasure
      cases hmeasure
    rw [if_neg hne] at hdelay
    rw [s.measure_of_found (hmatch ▸ hne) hfound, hdelay] at hmeasure
    simp only at hmeasure
    split at hmeasure
    · rename_i hsign
      obtain ⟨hk, hrtt⟩ := Prod.mk.inj (Option.some.inj hmeasure)
      rw [← hrtt, hdelay, ntohl, htonl_htonl] at hvalue
      exact ⟨hne, hsame, hmatch ▸ hfound, hssrc ▸ hk,
        (measured_value arrival sent d _).mp ⟨hsign, hvalue⟩⟩
    · cases hmeasure
  · rintro ⟨hne, hsame, hkept, hk, hfits⟩
    rw [if_neg hne] at hdelay
    have hmatch : item.lastSrStamp = sr.middle := hstamp.trans hsame
    obtain ⟨hsign, hvalue⟩ := (measured_value arrival sent d (htonl d)).mpr hfits
    have hmeasure : s.measure item arrival = some (ssrc,
        (arrival - sent - BitVec.ofNat 64 (delayMs (htonl d))).setWidth 32) := by
      rw [s.measure_of_found (hmatch ▸ hne) (hmatch ▸ hkept), hdelay]
      simp only [if_pos hsign, hssrc, hk]
    refine ⟨item, _, hitem, hmatch, hmatch ▸ hkept, hmeasure, s.onRtcp_single hitem hmeasure, ?_⟩
    rw [hvalue, hdelay, ntohl, htonl_htonl]

/-- A sender whose last media is of 9:14:40.5 o'clock on the first day of 1970. -/
def mirroredSender : RtcpSenderContext := { lastNtpStampMs := 33280500 }

/-- Media, and a second sender report. -/
def betweenSent : List SenderOp := [.rtp 90000 33282500 1316, .sr 1 2010]

/-- Media, and a first receiver report. -/
def betweenReceived : List ReceiverOp := [.rtp 7 90000 33282500 90000 1316 2030, .rr 7 0x01000001 5020]

/-- The report that the second one of the receiver answers is 32125 ms old, and the round trip takes 40 ms. -/
theorem mirroredSender_measures :
    let sr := (mirroredSender.createRtcpSR 1 10).2
    let s := betweenSent.foldl RtcpSenderContext.apply (mirroredSender.createRtcpSR 1 10).1
    let r := betweenReceived.foldl RtcpReceiverContext.apply (({} : RtcpReceiverContext).onRtcp (.sr sr) 20)
    s.Measures sr 10 (r.createRtcpRR 7 0x01000001 32145).2 32175 0x01000001 :=
  (measures_iff mirroredSender 1 10 betweenSent {} 20 betweenReceived
    (by simp [betweenReceived, ReceiverOp.takesReport]) 7 0x01000001 32145 32175 0x01000001).mpr
    (by decide +kernel)

def plainSender : RtcpSenderContext := { lastNtpStampMs := 1000 }

/-- At one second past the epoch no receiver report finds its sender report. -/
theorem plainSender_unmeasured :
    ¬ ∃ ssrc, (plainSender.createRtcpSR 1 10).1.Measures (plainSender.createRtcpSR 1 10).2 10
      (((({} : RtcpReceiverContext).onRtcp (.sr (plainSender.createRtcpSR 1 10).2) 20).createRtcpRR
        7 0x01000001 20).2) 50 ssrc := by
  intro h
  obtain ⟨ssrc, item, rtt, hitem, hmatch, -⟩ := h
  have hstamp : item.lastSrStamp = 0x0000817E := by
    rw [List.cons.inj hitem |>.1.symm]
    decide +kernel
  rw [hstamp] at hmatch
  exact absurd hmatch (by decide +kernel)

end WifiDisplay
