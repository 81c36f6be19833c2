import WifiDisplay.AudioAvCodecDecoder
import WifiDisplay.Basic

/-! `VideoSinkDecoder`: the input buffers of the codec wait in two queues, their indexes in one and
their memory in the other. -/

namespace WifiDisplay

/-- What `DecodeVideoData` has taken from the fronts of the queues, each with the number of the
`OnInputBufferAvailable` that it came by, and the frame. -/
structure VideoInput where
  inputIndex : Nat × Int32
  inputBuffer : Nat × AVSharedMemory
  data : Nat → Byte
  size : Int32
  pts : UInt64

/-- A successful `QueueInputBuffer`, with the buffer that the frame was copied to. -/
structure QueuedInput where
  inputIndex : Nat × Int32
  inputBuffer : Nat × AVSharedMemory
  presentationTimeUs : Int64
  size : Int32
  codecData : Bool

/-- Where the play thread is in `DecodeVideoData`: outside, past the first critical section, or
before the second one. -/
inductive DecodeStage where
  | outside
  | copying (input : VideoInput)
  | popping

/-- `stopping` says that a `Stop` has yet to swap the queue. `called` counts the calls of
`OnInputBufferAvailable`; those from `since` on came after the codec was last stopped. -/
structure VideoSinkDecoder where
  videoDecoder : Bool := false
  isRunning : Bool := false
  inQueue : List (Nat × Int32) := []
  inBufferQueue : List (Nat × AVSharedMemory) := []
  stage : DecodeStage := .outside
  stopping : Bool := false
  called : Nat := 0
  since : Nat := 0
  queued : List QueuedInput := []

/-- The calls, with what the codec and `memcpy_s` answer. A `DecodeVideoData` is three moves and a
`Stop` two, as other calls may come before each critical section. -/
inductive VideoDecoderMove where
  | start (prepared started : Bool)
  | stop (stopped reset configured : Bool)
  | swap
  | onInputBufferAvailable (index : UInt32) (buffer : Option AVSharedMemory)
  | decodeVideoData (data : Nat → Byte) (size : Int32) (pts : UInt64)
  | copy (copied accepted : Bool)
  | pop

namespace VideoSinkDecoder

variable (s : VideoSinkDecoder)

def startDecoder (prepared started : Bool) : Bool := s.videoDecoder && prepared && started

def start (prepared started : Bool) : VideoSinkDecoder × Bool :=
  if s.isRunning then (s, true)
  else if s.startDecoder prepared started then ({ s with isRunning := true }, true)
  else (s, false)

/-- From a `Stop` of the codec on, the buffers that it has made available are no longer its own. -/
def stopDecoder (stopped reset configured : Bool) : VideoSinkDecoder × Bool :=
  if !s.videoDecoder then (s, true)
  else if !stopped then (s, false)
  else ({ s with since := s.called }, reset && configured)

def stop (stopped reset configured : Bool) : VideoSinkDecoder :=
  if !s.isRunning then s
  else
    let (s, success) := s.stopDecoder stopped reset configured
    if success then { s with isRunning := false, stopping := true } else s

def swap : VideoSinkDecoder := { s with stopping := false, inQueue := [] }

def onInputBufferAvailable (index : UInt32) (buffer : Option AVSharedMemory) : VideoSinkDecoder :=
  let s' := { s with called := s.called + 1 }
  match buffer with
  | none => s'
  | some buffer =>
    { s' with
      inQueue := s.inQueue ++ [(s.called, index.toInt32)]
      inBufferQueue := s.inBufferQueue ++ [(s.called, buffer)] }

/-- The first critical section of `DecodeVideoData`. The call is over if it returns `false`. -/
def decodeVideoData (data : Nat → Byte) (size : Int32) (pts : UInt64) : VideoSinkDecoder × Bool :=
  if !s.videoDecoder then (s, false)
  else
    match s.inQueue, s.inBufferQueue with
    | inputIndex :: _, inputBuffer :: _ =>
      if inputBuffer.2.size < size then (s, false)
      else ({ s with stage := .copying { inputIndex, inputBuffer, data, size, pts } }, true)
    | _, _ => (s, false)

/-- SEI, SPS and PPS, behind a start code of three or four bytes. -/
def isCodecData (data : Nat → Byte) : Bool :=
  let p := if data 2 = 0x01 then 3 else 4
  data p &&& 0x1f = 0x06 || data p &&& 0x1f = 0x07 || data p &&& 0x1f = 0x08

def copy (input : VideoInput) (copied accepted : Bool) : VideoSinkDecoder × Bool :=
  if !copied then ({ s with stage := .outside }, false)
  else if input.size < 5 then ({ s with stage := .outside }, false)
  else if !accepted then ({ s with stage := .outside }, false)
  else
    ({ s with
        stage := .popping
        queued := s.queued ++ [{
          inputIndex := input.inputIndex
          inputBuffer := input.inputBuffer
          presentationTimeUs := input.pts.toInt64
          size := input.size
          codecData := isCodecData input.data }] }, true)

def pop : VideoSinkDecoder × Bool :=
  ({ s with stage := .outside, inQueue := s.inQueue.tail, inBufferQueue := s.inBufferQueue.tail }, true)

def step (s : VideoSinkDecoder) : VideoDecoderMove → VideoSinkDecoder
  | .start prepared started => (s.start prepared started).1
  | .stop stopped reset configured => if s.stopping then s else s.stop stopped reset configured
  | .swap => if s.stopping then s.swap else s
  | .onInputBufferAvailable index buffer => s.onInputBufferAvailable index buffer
  | .decodeVideoData data size pts =>
    match s.stage with
    | .outside => (s.decodeVideoData data size pts).1
    | _ => s
  | .copy copied accepted =>
    match s.stage with
    | .copying input => (s.copy input copied accepted).1
    | _ => s
  | .pop =>
    match s.stage with
    | .popping => s.pop.1
    | _ => s

/-- The queues agree on the calls that their entries came by, all of them calls of the current run of
the codec; a frame has only been copied to the buffer whose index was queued, and no index has been
queued twice. -/
structure Right : Prop where
  paired : s.inQueue.map Prod.fst = s.inBufferQueue.map Prod.fst
  current : ∀ entry ∈ s.inQueue, s.since ≤ entry.1
  copied : ∀ input ∈ s.queued, input.inputBuffer.1 = input.inputIndex.1
  once : (s.queued.map (·.inputIndex.1)).Nodup

/-- No buffer waits when the codec is stopped, nor when the queue is swapped away. -/
def Safe : VideoDecoderMove → Prop
  | .stop stopped _ _ => s.isRunning = true → s.stopping = false → stopped = true → s.inQueue = []
  | .swap => s.stopping = true → s.inQueue = []
  | _ => True

instance : (move : VideoDecoderMove) → Decidable (s.Safe move)
  | .stop .. => inferInstanceAs (Decidable (_ → _ → _ → _))
  | .swap => inferInstanceAs (Decidable (_ → _))
  | .start .. | .onInputBufferAvailable .. | .decodeVideoData .. | .copy .. | .pop => .isTrue trivial

end VideoSinkDecoder

end WifiDisplay
