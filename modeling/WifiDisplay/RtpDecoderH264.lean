import WifiDisplay.RtpEncoderH264

/-! `RtpDecoderH264`: from RTP packets back to frames. A function returns the
frames it hands to `onFrame_`, and the result its caller looks at. -/

namespace WifiDisplay

def startCode : List Byte := [0, 0, 0, 1]

structure RtpDecoderH264 where
  fuDropped : Bool := true
  gopDropped : Bool := false
  lastSeq : BitVec 16 := 0
  frame : H264Frame := { prefixSize := 4 }
  deriving DecidableEq, Repr

namespace RtpDecoderH264

def obtainFrame : H264Frame := { prefixSize := 4 }

/-- A decoder, the frames it put out and the returned flag. -/
abbrev Unpacked := RtpDecoderH264 × List H264Frame × Bool

def outputFrame (d : RtpDecoderH264) (frame : H264Frame) : RtpDecoderH264 × List H264Frame :=
  let gopDropped := d.gopDropped && ! frame.keyFrame
  ({ d with gopDropped, frame := obtainFrame }, if gopDropped then [] else [frame])

def unpackSingle (d : RtpDecoderH264) (ptr : List Byte) (stamp : BitVec 32) : Unpacked :=
  let frame := { d.frame with data := startCode ++ ptr, pts := stamp.setWidth 64 }
  let (d, out) := d.outputFrame frame
  (d, out, frame.keyFrame)

/-- The loop of `UnpackStapA` over the bytes up to `end`. The length check stands
before the step over the length field, so a unit can reach past the end. -/
def unpackStapA (d : RtpDecoderH264) (ptr : List Byte) (stamp : BitVec 32) : Except Fault Unpacked :=
  match ptr with
  | hi :: lo :: rest =>
    if rest = [] then .ok (d, [], false)
    else
      let len := (hi ++ lo).toNat
      if len = 0 ∨ len > rest.length + 2 then .ok ({ d with gopDropped := true }, [], false)
      else if len > rest.length then .error .outOfBounds
      else do
        let (d, out, key) := d.unpackSingle (rest.take len) stamp
        let (d, out', key') ← d.unpackStapA (rest.drop len) stamp
        return (d, out ++ out', key || key')
  | _ => .ok (d, [], false)
termination_by ptr.length
decreasing_by
  rw [List.length_drop]
  exact Nat.lt_add_right 1 (Nat.lt_succ_of_le (Nat.sub_le _ _))

/-- The flags stand in the second byte, which is read whatever `size` is. -/
def unpackFuA (d : RtpDecoderH264) (ptr : List Byte) (stamp : BitVec 32) (seq : BitVec 16) :
    Except Fault Unpacked :=
  match ptr with
  | indicator :: flags :: rest =>
    let startBit := flags.getLsbD 7
    let endBit := flags.getLsbD 6
    let d := if startBit then
        { d with
          frame := { d.frame with
            data := startCode ++ [(indicator &&& 0xE0) ||| (flags &&& 0x1F)]
            pts := stamp.setWidth 64 }
          fuDropped := false }
      else d
    if d.fuDropped then .ok (d, [], false)
    else if ¬ startBit ∧ seq ≠ d.lastSeq + 1 then
      .ok ({ d with fuDropped := true, frame := { d.frame with data := [] } }, [], false)
    else
      let frame := { d.frame with data := d.frame.data ++ rest }
      if ¬ endBit then .ok ({ d with frame }, [], startBit && frame.keyFrame)
      else
        let (d, out) := { d with frame, fuDropped := true }.outputFrame frame
        .ok (d, out, false)
  | _ => .error .outOfBounds

/-- The part of `InputRtp` that depends on the NAL unit type. -/
def unpack (d : RtpDecoderH264) (payload : List Byte) (stamp : BitVec 32) (seq : BitVec 16) :
    Except Fault Unpacked :=
  let nal := h264Type (payload.getD 0 0)
  if nal = 24 then d.unpackStapA (payload.drop 1) stamp
  else if nal = 28 then d.unpackFuA payload stamp seq
  else if nal < 24 then .ok (d.unpackSingle payload stamp)
  else .ok ({ d with gopDropped := true }, [], false)

def inputRtp (d : RtpDecoderH264) (rtp : Option RtpPacket) :
    Except Fault (RtpDecoderH264 × List H264Frame) :=
  match rtp with
  | none => .ok (d, [])
  | some rtp =>
    let payload := rtp.getPayload.take rtp.getPayloadSize
    if payload = [] then .ok (d, [])
    else do
      let seq := rtp.getSeq
      let (d, out, _) ← d.unpack payload rtp.getStampMS seq
      let lost := ! d.gopDropped && seq ≠ d.lastSeq + 1 && d.lastSeq ≠ 0
      return ({ d with gopDropped := d.gopDropped || lost, lastSeq := seq }, out)

/-- Packets fed in order. -/
def inputAll (d : RtpDecoderH264) : List (Option RtpPacket) →
    Except Fault (RtpDecoderH264 × List H264Frame)
  | [] => .ok (d, [])
  | rtp :: rtps => do
    let (d, out) ← d.inputRtp rtp
    let (d, out') ← d.inputAll rtps
    return (d, out ++ out')

end RtpDecoderH264

end WifiDisplay
