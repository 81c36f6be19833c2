import WifiDisplay.Adts
import WifiDisplay.InputStream
import WifiDisplay.RtpEncoderH264

/-! `RtpEncoderAAC` and `RtpDecoderAAC`: access units of AAC in RTP packets. -/

namespace WifiDisplay

structure FrameImpl where
  data : List Byte := []
  dts : BitVec 32 := 0
  prefixSize : Nat := 0
  deriving DecidableEq, Repr

namespace RtpEncoderAAC

def sectionRoom : Nat := 1600 - 4

/-- `GetMaxSize() - 4` is a `size_t`. -/
def maxSize (m : RtpMaker) : Nat := (m.getMaxSize + 2 ^ 64 - 4) % 2 ^ 64

def Accepts (m : RtpMaker) : Prop := maxSize m ≠ 0 ∧ maxSize m ≤ sectionRoom

instance (m : RtpMaker) : Decidable (Accepts m) := inferInstanceAs (Decidable (_ ∧ _))

/-- An AU header count of one, the AU header for `len` bytes, and bytes of the unit. -/
def sectionBuf (len : Nat) (chunk : List Byte) : List Byte :=
  [0, 16, BitVec.ofNat 8 (len >>> 5), BitVec.ofNat 8 ((len % 32) <<< 3)] ++ chunk

def makeAACRtp (m : RtpMaker) (data : List Byte) (mark : Bool) (stamp : BitVec 32) :
    RtpMaker × List RtpPacket :=
  let (m, rtp) := m.makeRtp (some data) data.length mark stamp
  (m, rtp.toList)

def packLoop (m : RtpMaker) (len : Nat) (stamp : BitVec 32) (maxSize : Nat) (h : maxSize ≠ 0)
    (data : List Byte) : RtpMaker × List RtpPacket :=
  if data = [] then (m, [])
  else if data.length ≤ maxSize then makeAACRtp m (sectionBuf len data) true stamp
  else
    let (m, out) := makeAACRtp m (sectionBuf len (data.take maxSize)) false stamp
    let (m, out') := packLoop m len stamp maxSize h (data.drop maxSize)
    (m, out ++ out')
termination_by data.length
decreasing_by
  rw [List.length_drop]
  omega

def inputFrame (m : RtpMaker) (frame : Option FrameImpl) : RtpMaker × List RtpPacket :=
  match frame with
  | none => (m, [])
  | some frame =>
    if frame.data.length = 0 ∨ frame.data.length < frame.prefixSize then (m, [])
    else
      let data := frame.data.drop frame.prefixSize
      if h : Accepts m then packLoop m data.length frame.dts (maxSize m) h.1 data else (m, [])

end RtpEncoderAAC

structure RtpDecoderAAC where
  lastDts : BitVec 32 := 0
  aacConfig : List Byte := []
  deriving DecidableEq, Repr

inductive AacFailure where
  | fault (fault : Fault)
  | endless
  deriving DecidableEq, Repr

namespace RtpDecoderAAC

open InputStream in
/-- `sscanf` with `%02X`; `cfg` is what the target holds before. -/
def scanByte (c₁ c₂ : Char) (cfg : BitVec 32) : Byte :=
  let (v, s) := number hex32 { rest := [c₁, c₂] } 0
  (if s.failed then cfg else BitVec.ofInt 32 v).setWidth 8

def create (aacConfig : List Char) (cfg : BitVec 32) : RtpDecoderAAC :=
  { aacConfig := bytes aacConfig }
where
  bytes : List Char → List Byte
    | c₁ :: c₂ :: t => scanByte c₁ c₂ cfg :: bytes t
    | _ => []

/-- The loop of `InputFrame` from an offset into the frame. A length of -1 moves `ptr` back by
one byte. The loop keeps nothing but the offset, so after as many rounds as there are
offsets it comes back to one and never ends. -/
def scanFrames (data : List Byte) : Nat → Nat → Except AacFailure Bool
  | 0, _ => .error .endless
  | fuel + 1, offset =>
    if data.length ≤ offset then .ok false
    else
      match AdtsHeader.getAacFrameLength (data.drop offset) with
      | none =>
        if offset = 0 then .error (.fault .outOfBounds) else scanFrames data fuel (offset - 1)
      | some frameLen =>
        if frameLen < adtsHeaderLen then .ok false
        else if frameLen = data.length then .ok true
        else if offset + frameLen > data.length then .ok false
        else scanFrames data fuel (offset + frameLen)

def inputFrame (frame : FrameImpl) : Except AacFailure (List FrameImpl) :=
  if frame.prefixSize = 0 then .ok []
  else do
    let found ← scanFrames frame.data (frame.data.length + 1) 0
    return if found then [frame] else []

/-- A first byte FF is followed by a look at the second one. -/
def flushData (d : RtpDecoderAAC) (frame : FrameImpl) : Except AacFailure (List FrameImpl) :=
  let dumped := do
    let header ← (AdtsHeader.dumpAacConfig d.aacConfig frame.data.length).mapError .fault
    inputFrame { frame with data := header ++ frame.data, prefixSize := adtsHeaderLen }
  match frame.data with
  | [] => .error (.fault .nullPointer)
  | b :: rest =>
    if b = 0xFF then
      match rest with
      | [] => .error (.fault .outOfBounds)
      | b' :: _ =>
        if b' &&& 0xF0 = 0xF0 ∧ frame.data.length > adtsHeaderLen then
          inputFrame { frame with prefixSize := adtsHeaderLen }
        else dumped
    else dumped

/-- The loop of `InputRtp` over the AU headers; `headers` and `data` stand at `auHeaderPtr`
and `ptr`, `i` counts from `auHeaderCount - left`. -/
def auLoop (d : RtpDecoderAAC) (dtsInc : BitVec 32) (headers data : List Byte) (i : Nat) :
    Nat → Except AacFailure (List FrameImpl)
  | 0 => .ok []
  | left + 1 =>
    let size := (headers.getD 0 0 ++ headers.getD 1 0 : BitVec 16).toNat / 8
    if size > data.length then .ok []
    else if size = 0 then auLoop d dtsInc headers data (i + 1) left
    else do
      let out ← d.flushData { data := data.take size, dts := d.lastDts + BitVec.ofNat 32 i * dtsInc }
      let out' ← auLoop d dtsInc (headers.drop 2) (data.drop size) (i + 1) left
      return out ++ out'

def inputRtp (d : RtpDecoderAAC) (rtp : Option RtpPacket) :
    Except AacFailure (RtpDecoderAAC × List FrameImpl) :=
  match rtp with
  | none => .ok (d, [])
  | some rtp =>
    let stamp := rtp.getStampMS
    let payload := rtp.getPayload.take rtp.getPayloadSize
    if payload.length < 2 then .ok (d, [])
    else
      let auHeaderCount := (payload.getD 0 0 ++ payload.getD 1 0 : BitVec 16).toNat / 16
      if payload.length < 2 + auHeaderCount * 2 then .ok (d, [])
      else if auHeaderCount = 0 then .ok (d, [])
      else do
        let d := if d.lastDts = 0 then { d with lastDts := stamp } else d
        let dtsInc := (stamp - d.lastDts) / BitVec.ofNat 32 auHeaderCount
        let dtsInc := if dtsInc.toNat > 100 then 0 else dtsInc
        let out ← d.auLoop dtsInc (payload.drop 2) (payload.drop (2 + auHeaderCount * 2)) 0
          auHeaderCount
        return ({ d with lastDts := stamp }, out)

def inputAll (d : RtpDecoderAAC) : List RtpPacket →
    Except AacFailure (RtpDecoderAAC × List FrameImpl)
  | [] => .ok (d, [])
  | rtp :: rtps => do
    let (d, out) ← d.inputRtp (some rtp)
    let (d, out') ← d.inputAll rtps
    return (d, out ++ out')

end RtpDecoderAAC

end WifiDisplay
