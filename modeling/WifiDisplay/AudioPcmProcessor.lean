import WifiDisplay.Basic
import WifiDisplay.ByteOrder
import WifiDisplay.GuardedRuns

/-! `AudioPcmProcessor`: samples in payloads of a fixed size. All processors of a process share the time and
the buffer for a payload. -/

namespace WifiDisplay

inductive PcmFault where
  | nullPointer
  | outOfBounds
  | endlessLoop
  deriving DecidableEq

/-- An `AVAudioFifo`, whose samples of all channels lie one after the other. -/
structure AudioFifo where
  blockSize : Nat
  bytes : List Byte := []
  deriving DecidableEq

namespace AudioFifo

variable (f : AudioFifo)

/-- `av_audio_fifo_alloc` for `AV_SAMPLE_FMT_S16`. -/
def alloc (channels : UInt32) : AudioFifo := { blockSize := 2 * channels.toNat }

def size : Nat := f.bytes.length / f.blockSize

/-- `av_audio_fifo_write`. The queue grows as it has to. -/
def write (data : List Byte) (nbSamples : Nat) : Except PcmFault AudioFifo :=
  if nbSamples * f.blockSize ≤ data.length then
    .ok { f with bytes := f.bytes ++ data.take (nbSamples * f.blockSize) }
  else .error .outOfBounds

def read (data : List Byte) (nbSamples : Nat) : Except PcmFault (AudioFifo × List Byte) :=
  let len := min nbSamples f.size * f.blockSize
  if len ≤ data.length then
    .ok ({ f with bytes := f.bytes.drop len }, f.bytes.take len ++ data.drop len)
  else .error .outOfBounds

end AudioFifo

structure PcmFrame where
  pts : UInt64
  bytes : List Byte
  deriving DecidableEq

def PcmFrame.samples (f : PcmFrame) : List Byte := f.bytes.drop 4

structure PcmStatics where
  duration : UInt64 := 0
  data : List Byte := List.replicate 1920 0

structure AudioPcmProcessor where
  channels : UInt32 := 0
  sampleBit : UInt32 := 0
  sampleRate : UInt32 := 0
  sampleSize : UInt32 := 0
  fifo : Option AudioFifo := none
  deriving DecidableEq

namespace AudioPcmProcessor

variable (p : AudioPcmProcessor)

/-- `allocated` is false where there is no room for the queue. -/
def init (channels sampleBit sampleRate : UInt32) (allocated : Bool) : AudioPcmProcessor × Int32 :=
  if channels = 0 ∨ sampleBit = 0 ∨ sampleRate = 0 then
    ({ p with channels, sampleBit, sampleRate }, 1)
  else
    let sampleSize := sampleBit * channels / 8
    if allocated then
      ({ p with channels, sampleBit, sampleRate, sampleSize, fifo := some (.alloc channels) }, 0)
    else ({ p with channels, sampleBit, sampleRate, sampleSize, fifo := none }, 1)

def swapAt (data : List Byte) (i : Nat) : List Byte :=
  (data.set i (data.getD (i + 1) 0)).set (i + 1) (data.getD i 0)

/-- Of each sample only the first two bytes change places. -/
def pcmLittleToBigEndian (data : List Byte) : List Byte :=
  if p.channels = 0 then data
  else
    let sampleSize := (p.sampleSize / p.channels).toNat
    if sampleSize ≤ 1 then data
    else (List.range (data.length / sampleSize)).foldl (fun data i => swapAt data (i * sampleSize)) data

def payloadHeader : List Byte := [0xa0, 0x06, 0x00, 2 <<< 3 ||| 1]

/-- The loop over the payloads, which ends after as many rounds as there are samples. -/
def deliver (payloadSampleNum : Nat) :
    Nat → PcmStatics → AudioFifo → Except PcmFault (PcmStatics × AudioFifo × List PcmFrame)
  | 0, statics, fifo => .ok (statics, fifo, [])
  | rounds + 1, statics, fifo =>
    if fifo.size < payloadSampleNum then .ok (statics, fifo, [])
    else do
      let (fifo, data) ← fifo.read statics.data payloadSampleNum
      let pcmFrame : PcmFrame := { pts := statics.duration, bytes := payloadHeader ++ data }
      let (statics, fifo, pcmFrames) ←
        deliver payloadSampleNum rounds { duration := statics.duration + 10, data } fifo
      return (statics, fifo, pcmFrame :: pcmFrames)

/-- `elapsed` is the time since the start of the process in milliseconds. -/
def timeBase (statics : PcmStatics) (elapsed : UInt64) : PcmStatics :=
  if statics.duration = 0 then { statics with duration := elapsed } else statics

/-- Payloads of no sample at all are delivered without end. -/
def onFrame (statics : PcmStatics) (frame : Option (List Byte)) (elapsed : UInt64) :
    Except PcmFault (AudioPcmProcessor × PcmStatics × List PcmFrame) :=
  match frame with
  | none => .ok (p, statics, [])
  | some frame =>
    if p.channels = 0 ∨ p.sampleBit = 0 ∨ p.sampleRate = 0 then .ok (p, statics, [])
    else if p.sampleSize = 0 then .ok (p, timeBase statics elapsed, [])
    else
      match p.fifo with
      | none => .error .nullPointer
      | some fifo => do
        let payloadSampleNum := 1920 / p.sampleSize.toNat
        let fifo ← fifo.write (p.pcmLittleToBigEndian frame) (frame.length / p.sampleSize.toNat)
        if payloadSampleNum = 0 then .error .endlessLoop
        else
          let (statics, fifo, pcmFrames) ← deliver payloadSampleNum fifo.size (timeBase statics elapsed) fifo
          return ({ p with fifo := some fifo }, statics, pcmFrames)

end AudioPcmProcessor

structure PcmHistory where
  received : List Byte := []
  delivered : List PcmFrame := []

/-- A processor has a history if its last `Init` has accepted the parameters. -/
structure PcmProcessors (ι : Type*) where
  statics : PcmStatics := {}
  processors : ι → AudioPcmProcessor := fun _ => {}
  histories : ι → Option PcmHistory := fun _ => none

inductive PcmCall (ι : Type*) where
  | init (i : ι) (channels sampleBit sampleRate : UInt32) (allocated : Bool)
  | onFrame (i : ι) (frame : Option (List Byte)) (elapsed : UInt64)

namespace PcmProcessors

variable {ι : Type*} [DecidableEq ι] (s : PcmProcessors ι)

def run (s : PcmProcessors ι) : PcmCall ι → Except PcmFault (PcmProcessors ι)
  | .init i channels sampleBit sampleRate allocated =>
    let (p, error) := (s.processors i).init channels sampleBit sampleRate allocated
    .ok { s with
      processors := Function.update s.processors i p
      histories := Function.update s.histories i (if error = 0 then some {} else none) }
  | .onFrame i frame elapsed =>
    ((s.processors i).onFrame s.statics frame elapsed).map fun (p, statics, pcmFrames) => {
      statics
      processors := Function.update s.processors i p
      histories := Function.update s.histories i ((s.histories i).map fun h =>
        { received := h.received ++ frame.getD [], delivered := h.delivered ++ pcmFrames }) }

def step (s : PcmProcessors ι) (call : PcmCall ι) : PcmProcessors ι :=
  match s.run call with
  | .ok s' => s'
  | .error _ => s

end PcmProcessors

/-- What has been delivered is what has been received, in big endian, but for what is in the queue; and from
one payload to the next the time goes on by what its samples last. -/
structure Lossless (p : AudioPcmProcessor) (h : PcmHistory) : Prop where
  samples : ∃ fifo, p.fifo = some fifo ∧ fifo.bytes.length < 1920 ∧
    h.delivered.flatMap PcmFrame.samples ++ fifo.bytes =
      ByteOrder.reverseChunks (p.sampleBit.toNat / 8) h.received
  header : ∀ f ∈ h.delivered, f.bytes.take 4 = AudioPcmProcessor.payloadHeader
  size : ∀ f ∈ h.delivered, f.samples.length = 1920
  times : h.delivered.IsChain fun f g =>
    (g.pts - f.pts).toNat * (p.sampleRate.toNat * (p.channels.toNat * (p.sampleBit.toNat / 8))) =
      f.samples.length * 1000

namespace PcmProcessors

variable {ι : Type*} [DecidableEq ι] (s : PcmProcessors ι)

def Right (s : PcmProcessors ι) (call : PcmCall ι) : Prop :=
  ∃ s', s.run call = .ok s' ∧ ∀ i h, s'.histories i = some h → Lossless (s'.processors i) h

/-- A frame of whole 16-bit samples of all channels. Unless it leaves the queue shorter than the samples of
one payload, these fill the payload; unless it completes less than two payloads, they last 10 ms; and where
it completes one, the time is that of the processor's last one and 10 ms. -/
structure SafeFrame (s : PcmProcessors ι) (i : ι) (h : PcmHistory) (frame : List Byte) (elapsed : UInt64) :
    Prop where
  sampleBit : (s.processors i).sampleBit = 16
  whole : 2 * (s.processors i).channels.toNat ∣ frame.length
  channels : (s.processors i).channels.toNat ∣ 960 ∨ h.received.length + frame.length <
    1920 / (2 * (s.processors i).channels.toNat) * (2 * (s.processors i).channels.toNat)
  sampleRate : (s.processors i).sampleRate.toNat * (s.processors i).channels.toNat = 96000 ∨
    h.received.length + frame.length < 3840
  duration : h.received.length % 1920 + frame.length < 1920 ∨ ∀ f ∈ h.delivered.getLast?,
    (AudioPcmProcessor.timeBase s.statics elapsed).duration = f.pts + 10

def Safe (s : PcmProcessors ι) : PcmCall ι → Prop
  | .init .. => True
  | .onFrame _ none _ => True
  | .onFrame i (some frame) elapsed =>
    match s.histories i with
    | none => (s.processors i).channels = 0 ∨ (s.processors i).sampleBit = 0 ∨ (s.processors i).sampleRate = 0
    | some h => s.SafeFrame i h frame elapsed

end PcmProcessors

end WifiDisplay
