import WifiDisplay.RtpPacket

/-! `RtpMaker` and `RtpEncoderH264`: from the NAL units of frames to RTP packets.
A function returns the packets it hands to `onRtpPack_`, null pointers included. -/

namespace WifiDisplay

def h264Type (v : Byte) : Nat := v.toNat % 32

def nalIdr : Nat := 5
def nalSps : Nat := 7
def nalPps : Nat := 8
def nalBP : Nat := 1

structure H264Frame where
  data : List Byte := []
  prefixSize : Nat := 0
  dts : BitVec 32 := 0
  pts : BitVec 64 := 0
  deriving DecidableEq, Repr

namespace H264Frame

/-- The bytes behind the start code. -/
def nal (f : H264Frame) : List Byte := f.data.drop f.prefixSize

def getPts (f : H264Frame) : BitVec 64 := if f.pts ≠ 0 then f.pts else f.dts.setWidth 64

def decodeAble (f : H264Frame) : Bool :=
  if f.nal.length < 2 then false
  else
    let type := h264Type (f.nal.getD 0 0)
    nalBP ≤ type && type ≤ nalIdr && (f.nal.getD 1 0).getLsbD 7

def keyFrame (f : H264Frame) : Bool := h264Type (f.nal.getD 0 0) = nalIdr && f.decodeAble

end H264Frame

def maxUshort : Nat := 65535

/-- `packetSampleRate` is what the `sampleRate_` of a new packet happens to hold:
`MakeRtp` does not set it. -/
structure RtpMaker where
  pt : Byte
  seq : BitVec 16
  ssrc : BitVec 32
  sampleRate : BitVec 32
  mtuSize : Nat
  packetSampleRate : BitVec 32
  deriving DecidableEq, Repr

namespace RtpMaker

/-- The constructor; `self` are the low bits of its address. -/
def create (self ssrc : BitVec 32) (mtuSize : Nat) (payloadType : Byte) (sampleRate : BitVec 32)
    (seq : BitVec 16) (packetSampleRate : BitVec 32) : RtpMaker :=
  { pt := payloadType, seq, ssrc := if ssrc = 0 then self else ssrc, sampleRate, mtuSize,
    packetSampleRate }

def getMaxSize (m : RtpMaker) : Nat :=
  if m.mtuSize ≤ rtpHeaderSize then 0 else m.mtuSize - rtpHeaderSize

/-- The stamp in clock ticks. -/
def scaledStamp (m : RtpMaker) (stamp : BitVec 32) : BitVec 32 :=
  BitVec.ofNat 32 (stamp.toNat * (m.sampleRate.toNat / 1000))

def octets16 (v : BitVec 16) : List Byte := [v.extractLsb' 8 8, v.extractLsb' 0 8]

def octets32 (v : BitVec 32) : List Byte :=
  [v.extractLsb' 24 8, v.extractLsb' 16 8, v.extractLsb' 8 8, v.extractLsb' 0 8]

def header (m : RtpMaker) (mark : Bool) (stamp : BitVec 32) : List Byte :=
  [0x80, BitVec.ofBool mark ++ m.pt.extractLsb' 0 7] ++ octets16 m.seq ++
    octets32 (m.scaledStamp stamp) ++ octets32 m.ssrc

/-- `memcpy_s` refuses to copy nothing. -/
def makeRtp (m : RtpMaker) (data : Option (List Byte)) (len : Nat) (mark : Bool)
    (stamp : BitVec 32) : RtpMaker × Option RtpPacket :=
  match data with
  | none => (m, none)
  | some bytes =>
    if len > maxUshort - rtpHeaderSize then (m, none)
    else
      let m' := { m with seq := m.seq + 1 }
      if len = 0 then (m', none)
      else (m', some { data := m.header mark stamp ++ bytes.take len, sampleRate := m.packetSampleRate })

end RtpMaker

namespace RtpEncoderH264

/-- What `onRtpPack_` receives. -/
abbrev Packed := Except Fault (RtpMaker × List (Option RtpPacket))

/-- Writes through `GetPayload()` of a packet, which faults on a null one. -/
def writePayload (rtp : Option RtpPacket) (payload : List Byte) : Except Fault RtpPacket :=
  match rtp with
  | none => .error .nullPointer
  | some p => .ok { p with data := p.data.take rtpHeaderSize ++ payload }

def packSingle (m : RtpMaker) (data : List Byte) (pts : BitVec 32) (isMark : Bool) : Packed :=
  let (m', rtp) := m.makeRtp (some data) data.length isMark pts
  .ok (m', [rtp])

def packRtpStapA (m : RtpMaker) (data : List Byte) (pts : BitVec 32) (isMark : Bool) : Packed := do
  let (m', rtp) := m.makeRtp none (data.length + 3) isMark pts
  let len := BitVec.ofNat 16 data.length
  let rtp ← writePayload rtp
    (((data.getD 0 0 &&& 0xE0) ||| 24) :: RtpMaker.octets16 len ++ data)
  return (m', [some rtp])

/-- The loop of `PackRtpFu`; a round that has a packet to write to goes on. -/
def packFuLoop (m : RtpMaker) (data : List Byte) (pts : BitVec 32) (isMark : Bool)
    (startBit : Bool) (packetSize offset : Nat) : Packed :=
  let endBit := ¬ startBit ∧ data.length ≤ offset + packetSize
  let packetSize := if endBit then data.length - offset else packetSize
  let fuChar0 := (data.getD 0 0 &&& 0xE0) ||| 28
  let fuChar1 : Byte := (data.getD 0 0 &&& 0x1F) ||| (if startBit then 0x80 else 0) |||
    if endBit then 0x40 else 0
  match _h : m.makeRtp none (packetSize + 2) (endBit && isMark) pts with
  | (_, none) => .error .nullPointer
  | (m', some rtp) => do
    let rtp ← writePayload (some rtp) (fuChar0 :: fuChar1 :: (data.drop offset).take packetSize)
    let (m', rest) ← if endBit then .ok (m', [])
      else packFuLoop m' data pts isMark false packetSize (offset + packetSize)
    return (m', some rtp :: rest)
termination_by data.length - offset
decreasing_by simp [RtpMaker.makeRtp] at _h

/-- `GetMaxSize() - 2` is a `size_t`. -/
def packRtpFu (m : RtpMaker) (data : List Byte) (pts : BitVec 32) (isMark : Bool) : Packed :=
  let packetSize := (m.getMaxSize + 2 ^ 64 - 2) % 2 ^ 64
  if data.length ≤ (packetSize + 1) % 2 ^ 64 then packRtpStapA m data pts isMark
  else packFuLoop m data pts isMark true packetSize 1

def packRtp (m : RtpMaker) (data : List Byte) (pts : BitVec 32) (isMark : Bool) : Packed :=
  if data.length ≤ m.getMaxSize then packSingle m data pts isMark
  else packRtpFu m data pts isMark

end RtpEncoderH264

structure RtpEncoderH264 extends RtpMaker where
  sps : Option H264Frame := none
  pps : Option H264Frame := none
  lastFrame : Option H264Frame := none
  deriving DecidableEq, Repr

namespace RtpEncoderH264

def insertConfigFrame (m : RtpMaker) (sps pps : Option H264Frame) (pts : BitVec 32) : Packed :=
  match sps, pps with
  | some sps, some pps => do
    let (m, out) ← packRtp m sps.nal pts false
    let (m, out') ← packRtp m pps.nal pts false
    return (m, out ++ out')
  | _, _ => .ok (m, [])

/-- The private overload of `InputFrame`. -/
def inputFrameMarked (e : RtpEncoderH264) (frame : H264Frame) (isMark : Bool) :
    Except Fault (RtpEncoderH264 × List (Option RtpPacket)) := do
  let pts := frame.getPts.setWidth 32
  let (m, out) ← if frame.keyFrame then insertConfigFrame e.toRtpMaker e.sps e.pps pts
    else .ok (e.toRtpMaker, [])
  let (m, out') ← packRtp m frame.nal pts isMark
  return ({ e with toRtpMaker := m }, out ++ out')

def inputFrame (e : RtpEncoderH264) (frame : H264Frame) :
    Except Fault (RtpEncoderH264 × List (Option RtpPacket)) :=
  let type := h264Type (frame.nal.getD 0 0)
  if type = nalSps then .ok ({ e with sps := some frame }, [])
  else if type = nalPps then .ok ({ e with pps := some frame }, [])
  else do
    let (e, out) ← match e.lastFrame with
      | none => .ok (e, [])
      | some last => e.inputFrameMarked last (last.getPts ≠ frame.getPts)
    return ({ e with lastFrame := some frame }, out)

end RtpEncoderH264

end WifiDisplay
