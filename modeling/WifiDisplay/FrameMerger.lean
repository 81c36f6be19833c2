import WifiDisplay.RtpEncoderH264

/-! `FrameMerger`: frames of one picture go into one buffer. -/

namespace WifiDisplay

/-- What `GetCodecId()` answers, as far as `FrameMerger` looks at it. -/
inductive FrameCodec where
  | h264
  | h265
  | other
  deriving DecidableEq, Repr

/-- The answers of the virtual functions of one frame. -/
structure Frame where
  data : List Byte := []
  dts : BitVec 32 := 0
  pts : BitVec 64 := 0
  prefixSize : Nat := 0
  codecId : FrameCodec := .other
  keyFrame : Except Fault Bool := .ok false
  configFrame : Except Fault Bool := .ok false
  decodeAble : Except Fault Bool := .ok true

namespace H264Frame

def nalByte (f : H264Frame) : Except Fault Byte :=
  match f.data[f.prefixSize]? with
  | some b => .ok b
  | none => .error .outOfBounds

/-- The size without the prefix is a `size_t`: where it wraps, `DecodeAble` reads on. -/
def toFrame (f : H264Frame) : Frame where
  data := f.data
  dts := f.dts
  pts := f.getPts
  prefixSize := f.prefixSize
  codecId := .h264
  keyFrame := f.nalByte.map fun _ => f.keyFrame
  configFrame := f.nalByte.map fun b => h264Type b = nalSps || h264Type b = nalPps
  decodeAble := if f.data.length < f.prefixSize then .error .outOfBounds else .ok f.decodeAble

end H264Frame

def int32Max : Nat := 2 ^ 31 - 1

/-- `DataBuffer::PushData`, where the sum of the sizes is an `int32_t`. -/
def pushData (buffer data : List Byte) : Except Fault (List Byte) :=
  if buffer.length + data.length ≤ int32Max then .ok (buffer ++ data) else .error .outOfBounds

def maxFrameCacheSize : Nat := 100

/-- The values of `type_` that the code tells apart. -/
inductive MergeType where
  | none
  | h264Prefix
  | mp4NalSize
  | unknown
  deriving DecidableEq, Repr

structure MergedFrame where
  dts : BitVec 32
  pts : BitVec 32
  buffer : List Byte
  haveKeyFrame : Bool
  deriving DecidableEq, Repr

structure FrameMerger where
  haveDecodeAbleFrame : Bool := false
  type : MergeType
  frameCache : List Frame := []

namespace FrameMerger

def avcStartCode : List Byte := [0, 0, 0, 1]

/-- The memory of `htonl(x)`. -/
def networkBytes (x : BitVec 32) : List Byte :=
  [x.extractLsb' 24 8, x.extractLsb' 16 8, x.extractLsb' 8 8, x.extractLsb' 0 8]

def naluSize (frame : Frame) : BitVec 32 := BitVec.ofInt 32 (frame.data.length - frame.prefixSize)

/-- `Append(Data() + PrefixSize(), Size() - PrefixSize())`. -/
def appendNalu (merged : List Byte) (frame : Frame) : Except Fault (List Byte) :=
  if (naluSize frame).toInt ≤ 0 then .ok merged
  else if frame.prefixSize + (naluSize frame).toNat ≤ frame.data.length then
    pushData merged ((frame.data.drop frame.prefixSize).take (naluSize frame).toNat)
  else .error .outOfBounds

def doMerge (type : MergeType) (merged : List Byte) (frame : Frame) : Except Fault (List Byte) :=
  match type with
  | .none => pushData merged frame.data
  | .h264Prefix =>
    if frame.prefixSize ≠ 0 then pushData merged frame.data
    else do
      let merged ← pushData merged avcStartCode
      pushData merged frame.data
  | .mp4NalSize => do
    let merged ← pushData merged (networkBytes (naluSize frame))
    appendNalu merged frame
  | .unknown => .ok merged

def mergeCache (type : MergeType) (merged : List Byte) (haveKeyFrame : Bool) :
    List Frame → Except Fault (List Byte × Bool)
  | [] => .ok (merged, haveKeyFrame)
  | vframe :: frames => do
    let merged ← doMerge type merged vframe
    let keyFrame ← vframe.keyFrame
    mergeCache type merged (haveKeyFrame || keyFrame) frames

variable (m : FrameMerger)

def clear : FrameMerger := { m with frameCache := [], haveDecodeAbleFrame := false }

def willFlush (frame : Option Frame) : Except Fault Bool :=
  match m.frameCache.getLast?, frame with
  | none, _ => .ok false
  | some _, none => .ok true
  | some back, some frame =>
    let full := decide (maxFrameCacheSize < m.frameCache.length)
    match m.type with
    | .none =>
      let newFrame := match frame.codecId with
        | .h264 | .h265 => decide (frame.prefixSize ≠ 0)
        | .other => false
      .ok (newFrame || decide (back.dts ≠ frame.dts) || full)
    | .mp4NalSize | .h264Prefix =>
      if m.haveDecodeAbleFrame = false then .ok full
      else if back.dts ≠ frame.dts then .ok true
      else do
        let decodeAble ← frame.decodeAble
        if decodeAble then return true
        let configFrame ← frame.configFrame
        if configFrame then return true
        return full
    | .unknown => .ok false

/-- What a call of `InputFrame` leaves, and the calls of `cb` that it made. -/
structure Input where
  merger : FrameMerger
  buffer : Option (List Byte)
  outputs : List MergedFrame
  accepted : Bool

def cacheFrame (frame : Option Frame) (buffer : Option (List Byte)) (outputs : List MergedFrame) :
    Except Fault Input :=
  match frame with
  | none => .ok { merger := m, buffer, outputs, accepted := false }
  | some frame => do
    let decodeAble ← frame.decodeAble
    let merger := { m with
      haveDecodeAbleFrame := m.haveDecodeAbleFrame || decodeAble
      frameCache := m.frameCache ++ [frame] }
    return { merger, buffer, outputs, accepted := true }

/-- The condition of the merge ends in `|| buffer`, which is not null there. -/
def inputFrame (frame : Option Frame) (buffer : Option (List Byte)) : Except Fault Input :=
  match buffer with
  | none => .ok { merger := m, buffer, outputs := [], accepted := false }
  | some bytes => do
    let flush ← m.willFlush frame
    if flush then
      match m.frameCache.getLast? with
      | none => return { merger := m, buffer, outputs := [], accepted := false }
      | some back =>
        let backKeyFrame ← back.keyFrame
        let (bytes, haveKeyFrame) ← mergeCache m.type bytes backKeyFrame m.frameCache
        let output := { dts := back.dts, pts := back.pts.setWidth 32, buffer := bytes, haveKeyFrame }
        m.clear.cacheFrame frame (some bytes) [output]
    else m.cacheFrame frame buffer []

/-- Calls of `InputFrame`, each with a new buffer. -/
def inputFrames (m : FrameMerger) : List (Option Frame) → Except Fault (FrameMerger × List MergedFrame)
  | [] => .ok (m, [])
  | frame :: frames => do
    let r ← m.inputFrame frame (some [])
    let (m, outputs) ← inputFrames r.merger frames
    return (m, r.outputs ++ outputs)

/-! What a call does. -/

def mergedBytes (type : MergeType) (frame : Frame) : List Byte :=
  match type with
  | .none => frame.data
  | .h264Prefix => if frame.prefixSize ≠ 0 then frame.data else avcStartCode ++ frame.data
  | .mp4NalSize =>
    networkBytes (naluSize frame) ++
      if (naluSize frame).toInt ≤ 0 then [] else (frame.data.drop frame.prefixSize).take (naluSize frame).toNat
  | .unknown => []

/-- The call of `cb` for a group of frames. -/
structure Merges (type : MergeType) (group : List Frame) (output : MergedFrame) : Prop where
  stamps : ∃ back, group.getLast? = some back ∧ output.dts = back.dts ∧ output.pts = back.pts.setWidth 32
  buffer : output.buffer = group.flatMap (mergedBytes type)
  answered : ∀ frame ∈ group, ∃ keyFrame, frame.keyFrame = .ok keyFrame

/-- What is left of the call after the cache was handed out or not. -/
def Caches (frame : Option Frame) (m m' : FrameMerger) : Prop :=
  match frame with
  | none => m' = m
  | some frame => ∃ decodeAble, frame.decodeAble = .ok decodeAble ∧
      m' = { m with
        haveDecodeAbleFrame := m.haveDecodeAbleFrame || decodeAble
        frameCache := m.frameCache ++ [frame] }

theorem pushData_eq_ok {buffer data buffer' : List Byte} (h : pushData buffer data = .ok buffer') :
    buffer' = buffer ++ data := by
  rw [pushData] at h
  split at h
  · cases h
    rfl
  · cases h

theorem doMerge_eq_ok {type : MergeType} {merged merged' : List Byte} {frame : Frame}
    (h : doMerge type merged frame = .ok merged') : merged' = merged ++ mergedBytes type frame := by
  cases type with
  | none => exact pushData_eq_ok h
  | h264Prefix =>
    simp only [doMerge, mergedBytes] at h ⊢
    split at h
    · rename_i hprefix
      rw [if_pos hprefix, pushData_eq_ok h]
    · rename_i hprefix
      obtain ⟨middle, hmiddle, hrest⟩ := bind_eq_ok.mp h
      rw [if_neg hprefix, pushData_eq_ok hrest, pushData_eq_ok hmiddle, List.append_assoc]
  | mp4NalSize =>
    obtain ⟨middle, hmiddle, hrest⟩ := bind_eq_ok.mp h
    rw [mergedBytes, ← List.append_assoc, ← pushData_eq_ok hmiddle]
    rw [appendNalu] at hrest
    split at hrest
    · rename_i hsize
      cases hrest
      rw [if_pos hsize, List.append_nil]
    · rename_i hsize
      rw [if_neg hsize]
      split at hrest
      · exact pushData_eq_ok hrest
      · cases hrest
  | unknown =>
    cases h
    exact (List.append_nil _).symm

theorem mergeCache_eq_ok {type : MergeType} {merged merged' : List Byte} {key key' : Bool} {frames : List Frame}
    (h : mergeCache type merged key frames = .ok (merged', key')) :
    merged' = merged ++ frames.flatMap (mergedBytes type) ∧
      ∀ frame ∈ frames, ∃ keyFrame, frame.keyFrame = .ok keyFrame := by
  induction frames generalizing merged key with
  | nil =>
    cases h
    exact ⟨(List.append_nil _).symm, fun _ hmem => absurd hmem (List.not_mem_nil)⟩
  | cons vframe frames ih =>
    obtain ⟨middle, hmiddle, h⟩ := bind_eq_ok.mp h
    obtain ⟨keyFrame, hkey, h⟩ := bind_eq_ok.mp h
    obtain ⟨hbytes, hrest⟩ := ih h
    refine ⟨?_, List.forall_mem_cons.mpr ⟨⟨keyFrame, hkey⟩, hrest⟩⟩
    rw [hbytes, doMerge_eq_ok hmiddle, List.flatMap_cons, List.append_assoc]

theorem cacheFrame_eq_ok {frame : Option Frame} {buffer : Option (List Byte)} {outputs : List MergedFrame}
    {r : Input} (h : m.cacheFrame frame buffer outputs = .ok r) :
    r.outputs = outputs ∧ Caches frame m r.merger := by
  cases frame with
  | none =>
    cases h
    exact ⟨rfl, rfl⟩
  | some frame =>
    obtain ⟨decodeAble, hdecode, h⟩ := bind_eq_ok.mp h
    cases h
    exact ⟨rfl, decodeAble, hdecode, rfl⟩

variable {m}

/-- All that a call with a new buffer does: it hands out the cache, or leaves it, and takes the frame. -/
theorem inputFrame_eq_ok {frame : Option Frame} {r : Input} (h : m.inputFrame frame (some []) = .ok r) :
    m.willFlush frame = .ok false ∧ r.outputs = [] ∧ Caches frame m r.merger ∨
      m.willFlush frame = .ok true ∧
        ∃ output, r.outputs = [output] ∧ Merges m.type m.frameCache output ∧ Caches frame m.clear r.merger := by
  obtain ⟨flush, hflush, h⟩ := bind_eq_ok.mp h
  cases flush with
  | false => exact .inl ⟨hflush, cacheFrame_eq_ok m h⟩
  | true =>
    refine .inr ⟨hflush, ?_⟩
    cases hback : m.frameCache.getLast? with
    | none =>
      simp [willFlush, hback] at hflush
    | some back =>
      simp only [hback, if_true] at h
      obtain ⟨key, -, h⟩ := bind_eq_ok.mp h
      obtain ⟨⟨bytes, haveKeyFrame⟩, hmerge, h⟩ := bind_eq_ok.mp h
      obtain ⟨hbytes, hanswered⟩ := mergeCache_eq_ok hmerge
      obtain ⟨houtputs, hcaches⟩ := cacheFrame_eq_ok m.clear h
      exact ⟨_, houtputs, ⟨⟨back, hback, rfl, rfl⟩, hbytes, hanswered⟩, hcaches⟩

end FrameMerger

end WifiDisplay
