import WifiDisplay.FrameMergerSplit
import WifiDisplay.RtpPacketFormat
import WifiDisplay.RtpUnpackLanes

/-! `RtpPackImpl`, and the encoders behind it for sound and for transport streams. A function returns
the packets it hands to `onRtpPack_`, null pointers included. -/

namespace WifiDisplay

structure RtpEncoderG711 extends RtpMaker where
  channels : BitVec 32
  cacheFrame : Frame := {}

inductive G711Failure where
  | fault (fault : Fault)
  | divisionByZero
  deriving DecidableEq, Repr

namespace RtpEncoderG711

/-- `Clear` frees the bytes of the cache, so an empty one is a null pointer. -/
def inputFrame (e : RtpEncoderG711) (frame : Option Frame) :
    Except G711Failure (RtpEncoderG711 × List (Option RtpPacket)) :=
  match frame with
  | none => .ok (e, [])
  | some frame =>
    if 8 * e.channels = 0 then .error .divisionByZero
    else
      let dur := BitVec.ofNat 64 (e.cacheFrame.data.length / (8 * e.channels).toNat)
      let nextPts := e.cacheFrame.pts + dur
      let pts :=
        if nextPts = 0 then frame.pts
        else if nextPts + 20 < frame.pts then frame.pts - dur
        else e.cacheFrame.pts
      match FrameMerger.appendNalu e.cacheFrame.data frame with
      | .error fault => .error (.fault fault)
      | .ok data =>
        let (m, rtp) := e.makeRtp (if data = [] then none else some data) data.length false (pts.setWidth 32)
        .ok ({ e with toRtpMaker := m, cacheFrame := { e.cacheFrame with data := [], pts := pts + 46 } }, [rtp])

def inputFrames (e : RtpEncoderG711) :
    List Frame → Except G711Failure (RtpEncoderG711 × List (Option RtpPacket))
  | [] => .ok (e, [])
  | frame :: frames => do
    let (e, out) ← e.inputFrame (some frame)
    let (e, out') ← e.inputFrames frames
    return (e, out ++ out')

end RtpEncoderG711

/-- The frames that `RtpEncoderTs` takes. -/
inductive TsFrame where
  | h264 (frame : H264Frame)
  | aac (frame : Frame)
  | pcm (frame : Frame)

namespace TsFrame

def dts : TsFrame → BitVec 32
  | h264 frame => frame.dts
  | aac frame | pcm frame => frame.dts

def keyFrame : TsFrame → Except Fault Bool
  | h264 frame => frame.toFrame.keyFrame
  | aac frame | pcm frame => frame.keyFrame

end TsFrame

inductive TsAudioCodec where
  | aac
  | pcm
  deriving DecidableEq, Repr

structure RtpEncoderTs extends RtpMaker where
  exit : Bool := false
  onRtpPack : Bool := false
  keyFrame : Bool := false
  timeStamp : BitVec 32 := 0
  merger : FrameMerger := { type := .h264Prefix }
  dataQueue : List TsFrame := []
  audioCodeId : Option TsAudioCodec := none
  encodeThread : Bool := false

namespace RtpEncoderTs

/-- The frame that the callback of the merger makes. -/
def outFrame (output : MergedFrame) : H264Frame where
  data := output.buffer
  prefixSize := SplitH264.prefixSize output.buffer
  dts := output.dts
  pts := output.pts.setWidth 64

def saveFrame (e : RtpEncoderTs) (frame : TsFrame) : RtpEncoderTs :=
  { e with dataQueue := e.dataQueue ++ [frame] }

/-- The end of `InputFrame`: the thread waits for the first frame of sound. -/
def startThread (e : RtpEncoderTs) (frame : TsFrame) : RtpEncoderTs :=
  let audioCodeId := e.audioCodeId.or (match frame with
    | .h264 _ => none
    | .aac _ => some .aac
    | .pcm _ => some .pcm)
  { e with audioCodeId, encodeThread := e.encodeThread || audioCodeId.isSome }

/-- A frame of another codec is only logged; null stands for it as well. -/
def inputFrame (e : RtpEncoderTs) (frame : Option TsFrame) : Except Fault RtpEncoderTs :=
  match frame with
  | none => .ok e
  | some frame =>
    if e.exit then .ok e
    else do
      let e ← match frame with
        | .h264 h264 => do
          let input ← e.merger.inputFrame (some h264.toFrame) (some [])
          pure { e with
            merger := input.merger
            dataQueue := e.dataQueue ++ input.outputs.map fun output => .h264 (outFrame output) }
        | .aac _ | .pcm _ => pure (e.saveFrame frame)
      return e.startThread frame

/-- What `ReadFrame` comes to: it sleeps and looks again, or it returns. -/
inductive FrameRead where
  | waits
  | returns (frame : Option TsFrame)

def readFrame (e : RtpEncoderTs) : Except Fault (RtpEncoderTs × FrameRead) :=
  match e.dataQueue with
  | [] => .ok (e, if e.exit then .returns none else .waits)
  | frame :: queue => do
    let keyFrame ← frame.keyFrame
    return ({ e with dataQueue := queue, keyFrame, timeStamp := frame.dts }, .returns (some frame))

/-- FFmpeg hands out a part of the transport stream. -/
def writePacket (e : RtpEncoderTs) (buf : List Byte) : RtpEncoderTs × List RtpPacket :=
  if e.onRtpPack then
    let (m, rtp) := e.makeRtp (some buf) buf.length e.keyFrame e.timeStamp
    ({ e with toRtpMaker := m }, rtp.toList)
  else (e, [])

/-- `Release` in three steps: up to the join, which waits for the end of the thread, and behind it. -/
def releaseCallback (e : RtpEncoderTs) : RtpEncoderTs := { e with onRtpPack := false }

def releaseExit (e : RtpEncoderTs) : RtpEncoderTs := { e with exit := true }

def releaseQueue (e : RtpEncoderTs) : RtpEncoderTs := { e with encodeThread := false, dataQueue := [] }

inductive Act where
  | inputFrame (frame : Option TsFrame)
  | readFrame
  | writePacket (buf : List Byte)
  | releaseCallback
  | releaseExit
  | releaseQueue

def step (e : RtpEncoderTs) : Act → Except Fault (RtpEncoderTs × List RtpPacket)
  | .inputFrame frame => do return (← e.inputFrame frame, [])
  | .readFrame => do return ((← e.readFrame).1, [])
  | .writePacket buf => .ok (e.writePacket buf)
  | .releaseCallback => .ok (e.releaseCallback, [])
  | .releaseExit => .ok (e.releaseExit, [])
  | .releaseQueue => .ok (e.releaseQueue, [])

def run (e : RtpEncoderTs) : List Act → Except Fault (RtpEncoderTs × List RtpPacket)
  | [] => .ok (e, [])
  | act :: acts => do
    let (e, out) ← e.step act
    let (e, out') ← e.run acts
    return (e, out ++ out')

end RtpEncoderTs

inductive RtpEncoder where
  | h264 (encoder : RtpEncoderH264)
  | g711 (encoder : RtpEncoderG711)
  | ts (encoder : RtpEncoderTs)

structure RtpPackImpl where
  rtpEncoder : Option RtpEncoder

namespace RtpPackImpl

/-- The constructor, with `seq_` at its initial 0; `self` and `packetSampleRate` are as for `RtpMaker`. -/
def create (self ssrc : BitVec 32) (mtuSize : Nat) (sampleRate : BitVec 32) (pt : Byte)
    (ps : RtpPayloadStream) (channels packetSampleRate : BitVec 32) : RtpPackImpl :=
  let toRtpMaker := RtpMaker.create self ssrc mtuSize pt sampleRate 0 packetSampleRate
  match ps with
  | .h264 => { rtpEncoder := some (.h264 { toRtpMaker }) }
  | .pcma | .pcmu => { rtpEncoder := some (.g711 { toRtpMaker, channels }) }
  | .mpeg2Ts => { rtpEncoder := some (.ts { toRtpMaker, onRtpPack := true }) }
  | .mpeg4Generic | .mpeg2Ps => { rtpEncoder := none }

end RtpPackImpl

end WifiDisplay
