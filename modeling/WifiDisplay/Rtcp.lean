import Mathlib.Data.Rat.Floor
import WifiDisplay.OrderedMap

/-! RTCP sender and receiver reports and the contexts at both ends of a stream. The
words of a packet are those that its host reads in memory, on a little-endian one. -/

namespace WifiDisplay

/-- The bytes of a word in the other order. -/
def htonl (x : BitVec 32) : BitVec 32 :=
  x.extractLsb' 0 8 ++ x.extractLsb' 8 8 ++ x.extractLsb' 16 8 ++ x.extractLsb' 24 8

def ntohl (x : BitVec 32) : BitVec 32 := htonl x

def htons (x : BitVec 16) : BitVec 16 := x.extractLsb' 0 8 ++ x.extractLsb' 8 8

/-! Floating-point values are rationals. An operation rounds to the nearest value with
the bits of its type, ties to the even one. -/

def roundEven (q : ℚ) : ℤ :=
  let n := ⌊q⌋
  if q - n < 1 / 2 then n
  else if 1 / 2 < q - n then n + 1
  else if n % 2 = 0 then n
  else n + 1

/-- The greatest power of two that is not above the value. -/
def exponent (q : ℚ) : ℤ :=
  let e := (Nat.log2 q.num.natAbs : ℤ) - Nat.log2 q.den
  if 2 ^ e ≤ |q| then e else e - 1

def roundBits (bits : ℕ) (q : ℚ) : ℚ :=
  if q = 0 then 0
  else
    let unit : ℚ := 2 ^ (exponent q + 1 - bits)
    roundEven (q / unit) * unit

def toDouble (q : ℚ) : ℚ := roundBits 53 q

def toFloat (q : ℚ) : ℚ := roundBits 24 q

/-- The integer part, for values that the type can hold. -/
def toUInt32 (q : ℚ) : BitVec 32 := BitVec.ofInt 32 ⌊q⌋

structure ReportItem where
  seqMax : BitVec 16
  seqCycles : BitVec 16
  ssrc : BitVec 32
  jitter : BitVec 32
  lastSrStamp : BitVec 32
  cumulative : BitVec 24
  fractionLost : BitVec 8
  delaySinceLastSr : BitVec 32
  deriving DecidableEq, Repr

structure RtcpSR where
  ssrc : BitVec 32
  rtpts : BitVec 32
  ntpmsw : BitVec 32
  ntplsw : BitVec 32
  octetCount : BitVec 32
  packetCount : BitVec 32
  deriving DecidableEq, Repr

structure RtcpRR where
  ssrc : BitVec 32
  items : List ReportItem
  deriving DecidableEq, Repr

structure RtcpXRRRTR where
  bt : BitVec 8
  ssrc : BitVec 32
  ntpmsw : BitVec 32
  ntplsw : BitVec 32
  deriving DecidableEq, Repr

inductive RtcpPacket where
  | sr (p : RtcpSR)
  | rr (p : RtcpRR)
  | xr (p : RtcpXRRRTR)
  | other
  deriving DecidableEq, Repr

/-- The number of seconds from 1900 to 1970. -/
def ntpEpoch : BitVec 32 := 0x83AA7E80

/-- `SetNtpStamp`, both words. The second one is computed in `double`s; the product
with `2 ^ 32` is exact. -/
def ntpStamp (unixStampMs : BitVec 64) : BitVec 32 × BitVec 32 :=
  let sec := unixStampMs.toNat / 1000
  let usec := unixStampMs.toNat % 1000 * 1000
  let micro : ℚ := toDouble (1 / 1000000)
  (htonl (BitVec.ofNat 32 sec + ntpEpoch), htonl (toUInt32 (toDouble (usec * 2 ^ 32 * micro))))

/-- The middle bits of the stamp of a sender report. -/
def RtcpSR.middle (sr : RtcpSR) : BitVec 32 :=
  ((ntohl sr.ntpmsw &&& 0xFFFF) <<< 16) ||| ((ntohl sr.ntplsw >>> 16) &&& 0xFFFF)

structure RtcpContext where
  lastRtpStamp : BitVec 32 := 0
  bytes : BitVec 64 := 0
  packets : BitVec 64 := 0
  lastNtpStampMs : BitVec 64 := 0

def RtcpContext.onRtp (c : RtcpContext) (stamp : BitVec 32) (ntpStampMs bytes : BitVec 64) :
    RtcpContext :=
  { packets := c.packets + 1, bytes := c.bytes + bytes, lastRtpStamp := stamp
    lastNtpStampMs := ntpStampMs }

structure RtcpSenderContext extends RtcpContext where
  rtt : OrderedMap (BitVec 32) (BitVec 32) := .empty
  xrXrrtrRecvLastRr : OrderedMap (BitVec 32) (BitVec 32) := .empty
  senderReportNtp : OrderedMap (BitVec 32) (BitVec 64) := .empty
  xrRrtrRecvSysStamp : OrderedMap (BitVec 32) (BitVec 64) := .empty

namespace RtcpSenderContext

variable (s : RtcpSenderContext)

def createRtcpSR (rtcpSSRC : BitVec 32) (now : BitVec 64) : RtcpSenderContext × RtcpSR :=
  let (ntpmsw, ntplsw) := ntpStamp s.lastNtpStampMs
  let rtcp : RtcpSR :=
    { ssrc := htonl rtcpSSRC, rtpts := htonl s.lastRtpStamp, ntpmsw, ntplsw
      octetCount := htonl (s.bytes.setWidth 32), packetCount := htonl (s.packets.setWidth 32) }
  let senderReportNtp := s.senderReportNtp.assign rtcp.middle now
  let senderReportNtp := match senderReportNtp.begin? with
    | some (first, _) => if senderReportNtp.size ≥ 5 then senderReportNtp.erase first else senderReportNtp
    | none => senderReportNtp
  ({ s with senderReportNtp }, rtcp)

def delayMs (delaySinceLastSr : BitVec 32) : Nat := delaySinceLastSr.toNat * 1000 / 65536

/-- The entry of `rtt_` that a report block sets. -/
def measure (item : ReportItem) (now : BitVec 64) : Option (BitVec 32 × BitVec 32) :=
  if item.lastSrStamp = 0 then none
  else
    match s.senderReportNtp.find? item.lastSrStamp with
    | none => none
    | some sent =>
      let msInc := now - sent
      let rtt := (msInc - BitVec.ofNat 64 (delayMs item.delaySinceLastSr)).setWidth 32
      if 0 ≤ rtt.toInt then some (item.ssrc, rtt) else none

def report (item : ReportItem) (now : BitVec 64) : RtcpSenderContext :=
  match s.measure item now with
  | some (ssrc, rtt) => { s with rtt := s.rtt.assign ssrc rtt }
  | none => s

/-- Each block of a receiver report reads the clock for itself. -/
def onRtcp (rtcp : RtcpPacket) (now : Nat → BitVec 64) : RtcpSenderContext :=
  match rtcp with
  | .rr rr => rr.items.zipIdx.foldl (fun s p => s.report p.1 (now p.2)) s
  | .xr xr =>
    if xr.bt = 4 then
      { s with
        xrXrrtrRecvLastRr := s.xrXrrtrRecvLastRr.assign xr.ssrc
          (((xr.ntpmsw &&& 0xFFFF) <<< 16) ||| ((xr.ntplsw >>> 16) &&& 0xFFFF))
        xrRrtrRecvSysStamp := s.xrRrtrRecvSysStamp.assign xr.ssrc (now 0) }
    else s
  | _ => s

def onRtp (stamp : BitVec 32) (ntpStampMs bytes : BitVec 64) : RtcpSenderContext :=
  { s with toRtcpContext := s.toRtcpContext.onRtp stamp ntpStampMs bytes }

def getRtt (ssrc : BitVec 32) : BitVec 32 := (s.rtt.find? ssrc).getD 0

end RtcpSenderContext

structure RtcpReceiverContext extends RtcpContext where
  seqMax : BitVec 16 := 0
  seqBase : BitVec 16 := 0
  seqCycles : BitVec 16 := 0
  lastRtpSeq : BitVec 16 := 0
  lastSrLsr : BitVec 32 := 0
  jitter : ℚ := 0
  lastSrNtpSys : BitVec 64 := 0
  lastRtpSysStamp : BitVec 64 := 0
  lastLost : BitVec 64 := 0
  lastExpected : BitVec 64 := 0
  lastCyclePackets : BitVec 64 := 0

namespace RtcpReceiverContext

variable (r : RtcpReceiverContext)

def nextJitter (stamp : BitVec 32) (sampleRate : BitVec 32) (sysStamp : BitVec 64) : ℚ :=
  if r.lastRtpSysStamp = 0 then 0
  else
    let elapsed := toDouble (toDouble (sysStamp - r.lastRtpSysStamp).toInt *
      toDouble (sampleRate.toNat / 1000))
    let diff := |toDouble (elapsed - toDouble ((stamp.toNat : ℤ) - r.lastRtpStamp.toNat))|
    toDouble (r.jitter + toDouble (diff - r.jitter) / 16)

def onRtp (seq : BitVec 16) (stamp : BitVec 32) (ntpStampMs : BitVec 64) (sampleRate : BitVec 32)
    (bytes now : BitVec 64) : RtcpReceiverContext :=
  let loops := 0xFF00 < r.lastRtpSeq ∧ seq < 0xFF ∧
    (r.seqCycles = 0 ∨ 0x1FFF < r.packets - r.lastCyclePackets)
  let seqCycles := if loops then r.seqCycles + 1 else r.seqCycles
  { toRtcpContext := r.toRtcpContext.onRtp stamp ntpStampMs bytes
    seqMax := if loops ∨ r.seqMax < seq then seq else r.seqMax
    seqBase := if r.seqBase = 0 ∨ seqCycles = 0 ∧ seq < r.seqBase then seq else r.seqBase
    seqCycles
    lastRtpSeq := seq
    lastSrLsr := r.lastSrLsr
    jitter := r.nextJitter stamp sampleRate now
    lastSrNtpSys := r.lastSrNtpSys
    lastRtpSysStamp := now
    lastLost := r.lastLost
    lastExpected := r.lastExpected
    lastCyclePackets := if loops then r.packets else r.lastCyclePackets }

def onRtcp (rtcp : RtcpPacket) (now : BitVec 64) : RtcpReceiverContext :=
  match rtcp with
  | .sr sr => { r with lastSrLsr := sr.middle, lastSrNtpSys := now }
  | _ => r

/-- An `int`, so that a count of cycles from 2 ^ 15 on goes into its sign. -/
def getExpectedPackets : BitVec 64 :=
  ((r.seqCycles.setWidth 32 <<< 16) + r.seqMax.setWidth 32 - r.seqBase.setWidth 32 + 1).signExtend 64

def getLost : BitVec 64 := r.getExpectedPackets - r.packets

/-- The delay in units of 1/65536 seconds, computed in `float`s. -/
def dlsr (delay : BitVec 64) : BitVec 32 :=
  toUInt32 (toFloat (toFloat (toFloat delay.toNat / 1000) * 65536))

def createRtcpRR (rtcpSSRC rtpSSRC : BitVec 32) (now : BitVec 64) : RtcpReceiverContext × RtcpRR :=
  let expectedInterval := r.getExpectedPackets - r.lastExpected
  let fraction := ((r.getLost - r.lastLost) <<< 8) / expectedInterval
  let item : ReportItem :=
    { ssrc := htonl rtpSSRC
      fractionLost := if expectedInterval = 0 then 0 else fraction.setWidth 8
      cumulative := (htonl (r.getLost.setWidth 32) >>> 8).setWidth 24
      seqCycles := htons r.seqCycles
      seqMax := htons r.seqMax
      jitter := htonl (toUInt32 r.jitter)
      lastSrStamp := htonl r.lastSrLsr
      delaySinceLastSr := htonl (if r.lastSrLsr = 0 then 0 else dlsr (now - r.lastSrNtpSys)) }
  ({ r with
      lastExpected := r.getExpectedPackets
      lastLost := if expectedInterval = 0 then r.lastLost else r.getLost },
    { ssrc := htonl rtcpSSRC, items := [item] })

end RtcpReceiverContext

end WifiDisplay
