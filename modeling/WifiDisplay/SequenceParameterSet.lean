import WifiDisplay.BitStream
import WifiDisplay.EmulationPrevention

/-! Sequence parameter sets of H.264 with 4:2:0 chroma: their syntax (7.3.2.1.1) and the size of
the video that they describe (7.4.2.1.1). -/

namespace WifiDisplay

/-- The deltas of a scaling list with `n` entries to go. They break off when the next scale is
zero. -/
def DeltasFit : Nat → Int → Int → List Int → Prop
  | 0, _, _, deltas => deltas = []
  | n + 1, lastScale, nextScale, deltas =>
    if nextScale = 0 then deltas = []
    else match deltas with
      | [] => False
      | deltaScale :: deltas =>
        let nextScale := (lastScale + deltaScale + 256) % 256
        DeltasFit n (if nextScale = 0 then lastScale else nextScale) nextScale deltas

structure ScalingList (size : Nat) where
  deltas : List Int
  range : ∀ deltaScale ∈ deltas, -128 ≤ deltaScale ∧ deltaScale ≤ 127
  fits : DeltasFit size 8 8 deltas

def ScalingList.bits {size : Nat} (list : ScalingList size) : List Bool :=
  list.deltas.flatMap seBits

/-- A flag, and what it announces. -/
def announced {α : Type} (bits : α → List Bool) : Option α → List Bool
  | none => [false]
  | some a => true :: bits a

/-- The part of the profiles of `highProfiles`. `chroma_format_idc` is 1. -/
structure ChromaFormat where
  bitDepthLumaMinus8 : Nat
  bitDepthChromaMinus8 : Nat
  qpprimeYZeroTransformBypass : Bool
  scalingMatrix : Option ((i : Fin 8) → Option (ScalingList (if i.val < 6 then 16 else 64)))

def ChromaFormat.bits (chroma : ChromaFormat) : List Bool :=
  ueBits 1 ++ (ueBits chroma.bitDepthLumaMinus8 ++ (ueBits chroma.bitDepthChromaMinus8 ++
    ([chroma.qpprimeYZeroTransformBypass] ++ announced
      (fun lists => (List.finRange 8).flatMap fun i => announced ScalingList.bits (lists i))
      chroma.scalingMatrix)))

/-- `pic_order_cnt_type` 0, 1 and 2. -/
inductive PicOrderCnt where
  | lsb (log2MaxPicOrderCntLsbMinus4 : Nat)
  | cycle (deltaPicOrderAlwaysZero : Bool) (offsetForNonRefPic offsetForTopToBottomField : Int)
      (offsetForRefFrame : List Int)
  | outputOrder

def PicOrderCnt.bits : PicOrderCnt → List Bool
  | lsb log2MaxPicOrderCntLsbMinus4 => ueBits 0 ++ ueBits log2MaxPicOrderCntLsbMinus4
  | cycle deltaPicOrderAlwaysZero offsetForNonRefPic offsetForTopToBottomField offsetForRefFrame =>
    ueBits 1 ++ ([deltaPicOrderAlwaysZero] ++ (seBits offsetForNonRefPic ++
      (seBits offsetForTopToBottomField ++ (ueBits offsetForRefFrame.length ++
        offsetForRefFrame.flatMap seBits))))
  | outputOrder => ueBits 2

def PicOrderCnt.emptyCycle : PicOrderCnt → Bool
  | cycle _ _ _ offsetForRefFrame => offsetForRefFrame.isEmpty
  | _ => false

structure Cropping where
  left : Nat
  right : Nat
  top : Nat
  bottom : Nat

def Cropping.bits (cropping : Cropping) : List Bool :=
  ueBits cropping.left ++ (ueBits cropping.right ++ (ueBits cropping.top ++ ueBits cropping.bottom))

/-- The profiles whose parameter sets have a `ChromaFormat`. -/
def highProfiles : List Nat := [100, 110, 122, 244, 44, 83, 86, 118, 128, 138, 139, 134, 135]

/-- `mbAdaptiveFrameField` is there if `frame_mbs_only_flag` is 0. The cropping leaves something
of the frame. -/
structure SequenceParameterSet where
  profileIdc : Fin 256
  constraintSetFlags : Fin 6 → Bool
  levelIdc : Fin 256
  seqParameterSetId : Nat
  chromaFormat : Option ChromaFormat
  log2MaxFrameNumMinus4 : Nat
  picOrderCnt : PicOrderCnt
  maxNumRefFrames : Nat
  gapsInFrameNumValueAllowed : Bool
  picWidthInMbsMinus1 : Nat
  picHeightInMapUnitsMinus1 : Nat
  mbAdaptiveFrameField : Option Bool
  direct8x8Inference : Bool
  frameCropping : Option Cropping
  vuiParameters : Option (List Bool)
  chromaFormat_isSome : chromaFormat.isSome ↔ profileIdc.val ∈ highProfiles
  frameCropping_fits : ∀ cropping ∈ frameCropping,
    cropping.left + cropping.right < 8 * (picWidthInMbsMinus1 + 1) ∧
      cropping.top + cropping.bottom < 8 * (picHeightInMapUnitsMinus1 + 1)

namespace SequenceParameterSet

variable (sps : SequenceParameterSet)

/-- The elements up to those of the picture order count. -/
def head : List Bool :=
  natBits 8 sps.profileIdc ++ (List.ofFn sps.constraintSetFlags ++ (natBits 2 0 ++
    (natBits 8 sps.levelIdc ++ (ueBits sps.seqParameterSetId ++
      (sps.chromaFormat.elim [] ChromaFormat.bits ++ (ueBits sps.log2MaxFrameNumMinus4 ++
        sps.picOrderCnt.bits))))))

/-- `max_num_ref_frames` and `gaps_in_frame_num_value_allowed_flag`. -/
def refs : List Bool := ueBits sps.maxNumRefFrames ++ [sps.gapsInFrameNumValueAllowed]

def sizes : List Bool := ueBits sps.picWidthInMbsMinus1 ++ ueBits sps.picHeightInMapUnitsMinus1

/-- `frame_mbs_only_flag`, `mb_adaptive_frame_field_flag` and `direct_8x8_inference_flag`. -/
def modes : List Bool :=
  sps.mbAdaptiveFrameField.elim [true] (fun flag => [false, flag]) ++ [sps.direct8x8Inference]

def bits : List Bool :=
  sps.head ++ (sps.refs ++ (sps.sizes ++ (sps.modes ++
    (announced Cropping.bits sps.frameCropping ++ announced id sps.vuiParameters))))

/-- The position in the RBSP behind `gaps_in_frame_num_value_allowed_flag`. -/
def gapsEnd : Nat := 8 + sps.head.length + sps.refs.length

def croppingFlagEnd : Nat := sps.gapsEnd + sps.sizes.length + sps.modes.length + 1

def croppingEnd : Nat :=
  sps.gapsEnd + sps.sizes.length + sps.modes.length +
    (announced Cropping.bits sps.frameCropping).length

/-- The NAL units of a parameter set, with any `nal_ref_idc`. -/
def Encodes (nal : List Byte) : Prop :=
  ∃ (nalRefIdc : Fin 4) (rbsp : List Byte) (padding : Fin 8),
    bitsOf rbsp = natBits 1 0 ++ natBits 2 nalRefIdc ++ natBits 5 7 ++
      (sps.bits ++ true :: List.replicate padding false) ∧
    nal = EmulationPrevention.insert rbsp

/-- The macroblocks of a field stand for those of both fields, `2 - frame_mbs_only_flag`. -/
def fields : Nat := if sps.mbAdaptiveFrameField.isNone then 1 else 2

/-- The luma samples of the macroblocks of a frame or of one field. -/
def macroblockSize : Int × Int :=
  (16 * (sps.picWidthInMbsMinus1 + 1), 16 * (sps.picHeightInMapUnitsMinus1 + 1))

def size : Int × Int :=
  let cropping := sps.frameCropping.getD ⟨0, 0, 0, 0⟩
  (16 * (sps.picWidthInMbsMinus1 + 1) - 2 * (cropping.left + cropping.right),
    16 * (sps.fields * (sps.picHeightInMapUnitsMinus1 + 1)) -
      2 * sps.fields * (cropping.top + cropping.bottom))

theorem size_pos : 0 < sps.size.1 := by
  have hfits := sps.frameCropping_fits
  rw [size]
  cases hcropping : sps.frameCropping with
  | none => simp
  | some cropping =>
    have := (hfits cropping hcropping).1
    simp only [Option.getD_some]
    omega

end SequenceParameterSet

end WifiDisplay
