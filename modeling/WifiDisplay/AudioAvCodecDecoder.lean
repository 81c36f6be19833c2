import Mathlib.Data.UInt
import WifiDisplay.GuardedRuns
import WifiDisplay.ResourceLedger

/-! `AudioAvCodecDecoder`: the buffers that the codec lends it, and the two queues they wait in. -/

namespace WifiDisplay

/-- `GetSize()` of a buffer of the codec. -/
structure AVSharedMemory where
  size : Int32
  deriving DecidableEq

/-- A frame for the decoder: whether it has data, and its `Size()`. -/
structure EncodedFrame where
  data : Bool
  size : Int32
  deriving DecidableEq

/-- A frame that the codec has decoded, in the buffer `index`. -/
structure DecodedFrame where
  index : UInt32
  isNeedDrop : Bool
  deriving DecidableEq

/-- Where `renderThread_` is in `RenderOutBuffer`: it has not been started or has been joined, is
about to read `isRenderReady_`, to look into the queue, or to deliver and release a frame, or it has
left the loop. -/
inductive RenderThread where
  | none
  | head
  | ready
  | holding (frameBuffer : DecodedFrame)
  | exited
  deriving DecidableEq

/-- `delivered` is what went out by `DeliverFrame`; `inputs` and `outputs` count the buffers that the
codec has made available, and its `QueueInputBuffer` and `ReleaseOutputBuffer`. -/
structure AudioAvCodecDecoder where
  audioDecoder : Bool := false
  inBufferQueue : List (Int32 × AVSharedMemory) := []
  renderBuffer : List DecodedFrame := []
  isRenderReady : Bool := false
  isForceDrop : Bool := false
  lastDropTimeUs : Int := 0
  renderThread : RenderThread := .none
  delivered : List DecodedFrame := []
  inputs : Loans UInt32 := {}
  outputs : Loans UInt32 := {}

/-- What the threads do under one lock each. The parts of a `StopRender` come one by one, and in
whatever order, so that any number of threads may be in it. `eos` is the flag's test, and `copied`
what `memcpy_s` comes to. -/
inductive DecoderMove where
  | initDecoder (created : Bool)
  | onInputBufferAvailable (index : UInt32) (buffer : Option AVSharedMemory)
  | onFrame (frame : Option EncodedFrame) (copied : Bool)
  | onOutputBufferAvailable (index : UInt32) (size : Int32) (eos : Bool)
      (buffer : Option AVSharedMemory) (nowTimeUs : Int)
  | renderOutBuffer
  | startRender
  | stopRender
  | join
  | clearRenderBufferQueue
  | dropOneFrame

namespace AudioAvCodecDecoder

def MAX_BUFFER_SIZE : Nat := 30
def AUDIO_DECODE_DROP_INTERVAL : Int := 500 * 1000

variable (s : AudioAvCodecDecoder)

def initDecoder (created : Bool) : AudioAvCodecDecoder :=
  { s with audioDecoder := s.audioDecoder || created }

def onInputBufferAvailable (index : UInt32) (buffer : Option AVSharedMemory) : AudioAvCodecDecoder :=
  let s := { s with inputs := s.inputs.lend index }
  match buffer with
  | none => s
  | some buffer => { s with inBufferQueue := s.inBufferQueue ++ [(index.toInt32, buffer)] }

def queueInputBuffer (index : UInt32) : AudioAvCodecDecoder :=
  { s with inputs := s.inputs.giveBack index }

/-- The call as it goes on after its wait for a buffer. -/
def onFrame (frame : Option EncodedFrame) (copied : Bool) : AudioAvCodecDecoder :=
  if !s.audioDecoder then s
  else
    match s.inBufferQueue with
    | [] => s
    | (bufferIndex, inputBuffer) :: rest =>
      let s := { s with inBufferQueue := rest }
      match frame with
      | none => s
      | some frame =>
        if !frame.data then s
        else if inputBuffer.size < frame.size then s
        else if !copied then s
        else s.queueInputBuffer bufferIndex.toUInt32

def releaseOutputBuffer (index : UInt32) : AudioAvCodecDecoder :=
  if s.audioDecoder then { s with outputs := s.outputs.giveBack index } else s

def clearRenderBufferQueue : AudioAvCodecDecoder :=
  { s.renderBuffer.foldl (fun s frameBuffer => s.releaseOutputBuffer frameBuffer.index) s with
    renderBuffer := [] }

def isNeedDropFrame (nowTimeUs : Int) : AudioAvCodecDecoder × Bool :=
  if s.isForceDrop && decide (nowTimeUs - s.lastDropTimeUs > AUDIO_DECODE_DROP_INTERVAL) then
    ({ s with isForceDrop := false, lastDropTimeUs := nowTimeUs }, true)
  else (s, false)

def render (frameBuffer : DecodedFrame) : AudioAvCodecDecoder :=
  if !s.isRenderReady then s.releaseOutputBuffer frameBuffer.index
  else
    let s := if s.renderBuffer.length > MAX_BUFFER_SIZE then s.clearRenderBufferQueue else s
    { s with renderBuffer := s.renderBuffer ++ [frameBuffer] }

def onOutputBufferAvailable (index : UInt32) (size : Int32) (eos : Bool) (buffer : Option AVSharedMemory)
    (nowTimeUs : Int) : AudioAvCodecDecoder :=
  let s := { s with outputs := s.outputs.lend index }
  if !s.audioDecoder then s
  else if eos then s
  else
    match buffer with
    | none => s
    | some buffer =>
      if size ≤ 0 ∨ size > buffer.size then s
      else
        let (s, isNeedDrop) := s.isNeedDropFrame nowTimeUs
        s.render { index, isNeedDrop }

/-- One move of the thread in `RenderOutBuffer`; a wait for a frame ends sooner or later. -/
def renderOutBuffer : AudioAvCodecDecoder :=
  match s.renderThread with
  | .none | .exited => s
  | .head => { s with renderThread := if s.isRenderReady then .ready else .exited }
  | .ready =>
    match s.renderBuffer with
    | [] => { s with renderThread := .head }
    | frameBuffer :: rest => { s with renderBuffer := rest, renderThread := .holding frameBuffer }
  | .holding frameBuffer =>
    let s := if frameBuffer.isNeedDrop then s else { s with delivered := s.delivered ++ [frameBuffer] }
    { s.releaseOutputBuffer frameBuffer.index with renderThread := .head }

/-- A thread that has not been joined is in the way of a new one: `std::thread` ends the process. -/
def startRender : AudioAvCodecDecoder :=
  if s.renderThread = .none then { s with isRenderReady := true, renderThread := .head } else s

/-- `renderThread_.join()`, once the thread has come to its end. -/
def join : AudioAvCodecDecoder :=
  if s.renderThread = .exited then { s with renderThread := .none } else s

def step : DecoderMove → AudioAvCodecDecoder
  | .initDecoder created => s.initDecoder created
  | .onInputBufferAvailable index buffer => s.onInputBufferAvailable index buffer
  | .onFrame frame copied => s.onFrame frame copied
  | .onOutputBufferAvailable index size eos buffer nowTimeUs =>
    s.onOutputBufferAvailable index size eos buffer nowTimeUs
  | .renderOutBuffer => s.renderOutBuffer
  | .startRender => s.startRender
  | .stopRender => { s with isRenderReady := false }
  | .join => s.join
  | .clearRenderBufferQueue => s.clearRenderBufferQueue
  | .dropOneFrame => { s with isForceDrop := true }

/-- The frame that the render thread has taken, until it releases its buffer. -/
def held : List DecodedFrame :=
  match s.renderThread with
  | .holding frameBuffer => [frameBuffer]
  | _ => []

def keptOutputs : List UInt32 := (s.held ++ s.renderBuffer).map (·.index)

def keptInputs : List UInt32 := s.inBufferQueue.map (·.1.toUInt32)

/-- After the move, each output buffer has been released as often as it was made available, unless it
is in `renderBuffer_`, or on its way from there to its release; and each input buffer has been queued
as often, unless it is in `inBufferQueue_`. -/
structure Right (move : DecoderMove) : Prop where
  outputs : (s.step move).outputs.Balanced (s.step move).keptOutputs
  inputs : (s.step move).inputs.Balanced (s.step move).keptInputs

/-- The codec makes a buffer available again only after it has come back. -/
def Returned : DecoderMove → Prop
  | .onInputBufferAvailable index _ => s.inputs.lent index = s.inputs.returned index
  | .onOutputBufferAvailable index _ _ _ _ => s.outputs.lent index = s.outputs.returned index
  | _ => True

instance (move : DecoderMove) : Decidable (s.Returned move) := by
  cases move <;> unfold Returned <;> infer_instance

/-- The condition on a move: a decoded frame is a frame, of a size that its buffer has, a buffer for
an encoded one is not null, and an encoded frame has data that can be copied into the next buffer. -/
def Safe : DecoderMove → Prop
  | .onInputBufferAvailable _ buffer => buffer ≠ none
  | .onFrame frame copied => s.audioDecoder = true → ∀ entry ∈ s.inBufferQueue.head?,
    ∃ f, frame = some f ∧ f.data = true ∧ f.size ≤ entry.2.size ∧ copied = true
  | .onOutputBufferAvailable _ size eos buffer _ => s.audioDecoder = true ∧ eos = false ∧
    ∃ b, buffer = some b ∧ 0 < size ∧ size ≤ b.size
  | _ => True

end AudioAvCodecDecoder

end WifiDisplay
