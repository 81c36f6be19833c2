import WifiDisplay.BitStream
import WifiDisplay.ReadPrograms
import WifiDisplay.RtspNumbers

/-! `MediaDescription`: how the size of a video is read from a sequence parameter set. -/

namespace WifiDisplay

inductive SpsFault where
  | outOfBounds
  | undefinedShift
  deriving DecidableEq, Repr

/-- The reference `pos`. `reach` is one past the last byte that the last call read, which the
code does not keep. -/
structure BitCursor where
  pos : Nat := 0
  reach : Nat := 0
  deriving DecidableEq, Repr

/-- A read of the decoder, which never asks for more than 31 bits at once. -/
inductive SpsCall where
  | u (bitCount : Fin 32)
  | ue
  deriving DecidableEq, Repr

abbrev SpsProgram := ReadProgram SpsCall Int

namespace MediaDescription

/-- `buf[pos / 8] & (0x80 >> (pos % 8))`. -/
def testBit (buf : List Byte) (c : BitCursor) : Except SpsFault (Bool × BitCursor) :=
  match buf[c.pos / 8]? with
  | none => .error .outOfBounds
  | some b =>
    .ok (b &&& (0x80#8 >>> (c.pos % 8)) ≠ 0, { c with reach := max c.reach (c.pos / 8 + 1) })

/-- `strlen` of the buffer, which goes on behind a buffer without a zero. -/
def strlen (buf : List Byte) (c : BitCursor) : Except SpsFault (Nat × BitCursor) :=
  match buf.findIdx? (· = 0) with
  | none => .error .outOfBounds
  | some length => .ok (length, { c with reach := max c.reach (length + 1) })

/-- The first loop of `GetUe`, at most `n` bits before its limit. -/
def skipZeros (buf : List Byte) : Nat → Nat → BitCursor → Except SpsFault (Nat × BitCursor)
  | 0, nZeroNum, c => .ok (nZeroNum, c)
  | n + 1, nZeroNum, c => do
    let (one, c) ← testBit buf c
    if one then return (nZeroNum, c)
    skipZeros buf n (nZeroNum + 1) { c with pos := c.pos + 1 }

/-- The second loop of `GetUe`, with `n` bits to go. -/
def readSuffix (buf : List Byte) : Nat → Nat → BitCursor → Except SpsFault (Nat × BitCursor)
  | 0, dwRet, c => .ok (dwRet, c)
  | n + 1, dwRet, c => do
    let (one, c) ← testBit buf c
    readSuffix buf n (2 * dwRet % 2 ^ 64 + one.toNat) { c with pos := (c.pos + 1) % 2 ^ 32 }

/-- From 31 zeros on `(1 << nZeroNum) - 1` is not defined. -/
def getUe (buf : List Byte) (nLen : Nat) (c : BitCursor) : Except SpsFault (Int × BitCursor) := do
  let (nZeroNum, c) ← skipZeros buf (nLen * 8 % 2 ^ 32 - c.pos) 0 { c with reach := 0 }
  let (dwRet, c) ← readSuffix buf nZeroNum 0 { c with pos := (c.pos + 1) % 2 ^ 32 }
  if 31 ≤ nZeroNum then throw .undefinedShift
  return (int32 (2 ^ nZeroNum - 1 + dwRet : Nat), c)

def getULoop (buf : List Byte) : Nat → Nat → BitCursor → Except SpsFault (Nat × BitCursor)
  | 0, value, c => .ok (value, c)
  | n + 1, value, c => do
    let value := 2 * value % 2 ^ 32
    let (length, c) ← strlen buf c
    if 8 * length ≤ c.pos then return (value, c)
    let (one, c) ← testBit buf c
    getULoop buf n (value + one.toNat) { c with pos := (c.pos + 1) % 2 ^ 32 }

def getU (bitCount : Nat) (buf : List Byte) (c : BitCursor) :
    Except SpsFault (Int × BitCursor) := do
  let (value, c) ← getULoop buf bitCount 0 { c with reach := 0 }
  return (int32 value, c)

/-- The inner loop of `ExtractNaluRbsp`: the bytes behind `i + 2` move down by one. -/
def moveDown (i tmpBufSize : Nat) (buf : List Byte) : List Byte :=
  buf.mapIdx fun j b => if i + 2 ≤ j ∧ j < tmpBufSize - 1 then buf.getD (j + 1) 0 else b

/-- The outer loop of `ExtractNaluRbsp`, with `n` rounds to go. -/
def extractLoop (tmpBufSize : Nat) : Nat → Nat → List Byte × Nat → List Byte × Nat
  | 0, _, (buf, bufSize) => (buf, bufSize)
  | n + 1, i, (buf, bufSize) =>
    if buf.getD i 0 = 0 ∧ buf.getD (i + 1) 0 = 0 ∧ buf.getD (i + 2) 0 = 3 then
      extractLoop tmpBufSize n (i + 1) (moveDown i tmpBufSize buf, bufSize - 1)
    else extractLoop tmpBufSize n (i + 1) (buf, bufSize)

def extractNaluRbsp (buf : List Byte) (bufSize : Nat) : List Byte × Nat :=
  extractLoop bufSize (bufSize - 2) 0 (buf, bufSize)

/-- A call of the decoder on the buffer that `ExtractNaluRbsp` left, of the size `rbsp.2`. -/
def read (rbsp : List Byte × Nat) : SpsCall → BitCursor → Except SpsFault (Int × BitCursor)
  | .u bitCount, c => getU bitCount rbsp.1 c
  | .ue, c => getUe rbsp.1 rbsp.2 c

def u (bitCount : Fin 32) : SpsProgram Int := .read (.u bitCount) .done

def ue : SpsProgram Int := .read .ue .done

/-- `GetSe`; half of the value is rounded up. -/
def se : SpsProgram Int := do
  let ueVal ← ue
  let nValue := (ueVal + 1) / 2
  return if ueVal % 2 = 0 then -nValue else nValue

/-- A scaling list, with `n` entries to go. -/
def scalingList : Nat → Int → Int → SpsProgram Unit
  | 0, _, _ => return ()
  | n + 1, lastScale, nextScale => do
    let mut nextScale := nextScale
    if nextScale ≠ 0 then
      let deltaScale ← se
      nextScale := (lastScale + deltaScale) % 256
    scalingList n (if nextScale = 0 then lastScale else nextScale) nextScale

def scalingLists : List Nat → SpsProgram Unit
  | [] => return ()
  | i :: is => do
    let seqScalingListPresentFlag ← u 1
    if seqScalingListPresentFlag ≠ 0 then
      scalingList (if i < 6 then 16 else 64) 8 8
    scalingLists is

/-- The profiles whose parameter sets describe their chroma format. -/
def chromaProfiles : List Int := [100, 110, 122, 244, 44, 83, 86, 118, 128, 138, 139, 134, 135]

def chromaFormat : SpsProgram Unit := do
  let chromaFormatIdc ← ue
  if chromaFormatIdc = 3 then
    -- separate_colour_plane_flag
    discard (u 1)
  -- bit_depth_luma_minus8, bit_depth_chroma_minus8, qpprime_y_zero_transform_bypass_flag
  discard ue
  discard ue
  discard (u 1)
  let seqScalingMatrixPresentFlag ← u 1
  if seqScalingMatrixPresentFlag ≠ 0 then
    scalingLists (List.range (if chromaFormatIdc ≠ 3 then 8 else 12))

/-- `offset_for_ref_frame`, with `n` to go. -/
def offsetForRefFrame : Nat → SpsProgram Unit
  | 0 => return ()
  | n + 1 => do
    discard se
    offsetForRefFrame n

/-- `false` where the decoder gives up. -/
def picOrderCnt : SpsProgram Bool := do
  let picOrderCntType ← ue
  if picOrderCntType = 0 then
    -- log2_max_pic_order_cnt_lsb_minus4
    discard ue
  else if picOrderCntType = 1 then
    -- delta_pic_order_always_zero_flag, offset_for_non_ref_pic, offset_for_top_to_bottom_field
    discard (u 1)
    discard se
    discard se
    let numRefFramesInPicOrderCntCycle ← ue
    if numRefFramesInPicOrderCntCycle ≤ 0 then
      return false
    offsetForRefFrame numRefFramesInPicOrderCntCycle.toNat
  return true

/-- The sums are those of `int32_t`. -/
def frameSize : SpsProgram (Int × Int) := do
  -- max_num_ref_frames, gaps_in_frame_num_value_allowed_flag
  discard ue
  discard (u 1)
  let picWidthMinMbsMinus1 ← ue
  let picHeightInMapUnitsMinus1 ← ue
  let width := int32 ((picWidthMinMbsMinus1 + 1) * 16)
  let height := int32 ((picHeightInMapUnitsMinus1 + 1) * 16)
  let frameMbsOnlyFlag ← u 1
  if frameMbsOnlyFlag = 0 then
    -- mb_adaptive_frame_field_flag
    discard (u 1)
  -- direct_8x8_inference_flag
  discard (u 1)
  let frameCroppingFlag ← u 1
  if frameCroppingFlag ≠ 0 then
    let frameCropLeftOffset ← ue
    let frameCropRightOffset ← ue
    let frameCropTopOffset ← ue
    let frameCropBottomOffset ← ue
    let cropUnitX := 2
    let cropUnitY := 2 * (2 - frameMbsOnlyFlag)
    return (int32 (width - cropUnitX * (frameCropLeftOffset + frameCropRightOffset)),
      int32 (height - cropUnitY * (frameCropTopOffset + frameCropBottomOffset)))
  return (width, height)

def decodeSps : SpsProgram (Int × Int) := do
  -- forbidden_zero_bit, nal_ref_idc
  discard (u 1)
  discard (u 2)
  let nalUnitType ← u 5
  if nalUnitType ≠ 7 then
    return (0, 0)
  let profileIdc ← u 8
  -- constraint_set0_flag to constraint_set5_flag, reserved_zero_2bits, level_idc
  discard (u 1)
  discard (u 1)
  discard (u 1)
  discard (u 1)
  discard (u 1)
  discard (u 1)
  discard (u 2)
  discard (u 8)
  -- seq_parameter_set_id
  discard ue
  if profileIdc ∈ chromaProfiles then
    chromaFormat
  -- log2_max_frame_num_minus4
  discard ue
  if !(← picOrderCnt) then
    return (0, 0)
  frameSize

/-- `sps` is what `GetVideoSps` returns. -/
def rbspOf (sps : List Byte) : List Byte × Nat := extractNaluRbsp sps (sps.length % 2 ^ 32)

def getVideoSize (sps : List Byte) : Except SpsFault (Int × Int) :=
  if sps.length < 10 then .ok (0, 0)
  else (decodeSps.run (read (rbspOf sps)) {}).map Prod.fst

/-- The reads that `GetVideoSize` makes, each with the cursor before it. -/
def spsCalls (sps : List Byte) : List (SpsCall × BitCursor) :=
  if sps.length < 10 then [] else decodeSps.calls (read (rbspOf sps)) {}

end MediaDescription

end WifiDisplay
