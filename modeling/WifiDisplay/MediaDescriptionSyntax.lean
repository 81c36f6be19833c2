import WifiDisplay.MediaDescriptionReads
import WifiDisplay.SequenceParameterSet

/-! The decoder follows the syntax of a sequence parameter set, up to a cycle without reference
frames. -/

namespace WifiDisplay

namespace MediaDescription

open ReadProgram SequenceParameterSet

theorem next_u {bits : List Bool} {bitCount : Fin 32} (hlen : bits.length = bitCount)
    (rest : List Bool) : SpsCall.next (.u bitCount) (bits ++ rest) = some ((bitsValue bits : Int), rest) := by
  rw [SpsCall.next, readBits_append hlen]
  rfl

theorem next_flag (flag : Bool) (rest : List Bool) :
    SpsCall.next (.u 1) ([flag] ++ rest) = some ((flag.toNat : Int), rest) := by
  rw [@next_u [flag] 1 rfl rest, bitsValue_cons, List.length_nil, Nat.pow_zero, Nat.mul_one]
  rfl

theorem next_ue (v : Nat) (rest : List Bool) :
    SpsCall.next .ue (ueBits v ++ rest) = some ((v : Int), rest) := by
  rw [SpsCall.next, readUe_ueBits]
  rfl

theorem leads_u {bits : List Bool} (bitCount : Fin 32) (hlen : bits.length = bitCount) :
    Leads SpsCall.next (u bitCount) bits (pure (bitsValue bits : Int)) :=
  Leads.call (next_u hlen)

theorem leads_flag (flag : Bool) : Leads SpsCall.next (u 1) [flag] (pure (flag.toNat : Int)) :=
  Leads.call (next_flag flag)

theorem leads_ue (v : Nat) : Leads SpsCall.next ue (ueBits v) (pure (v : Int)) :=
  Leads.call (next_ue v)

theorem leads_se (v : Int) : Leads SpsCall.next se (seBits v) (pure v) := by
  have hcode := (leads_ue (seCode v)).andThen (f := fun ueVal =>
    pure (if ueVal % 2 = 0 then -((ueVal + 1) / 2) else (ueVal + 1) / 2)) (.refl _)
  rw [seCode_half, List.append_nil] at hcode
  exact hcode

theorem leads_scalingList {n : Nat} {lastScale nextScale : Int} {deltas : List Int}
    (hfit : DeltasFit n lastScale nextScale deltas) :
    Leads SpsCall.next (scalingList n lastScale nextScale) (deltas.flatMap seBits) (pure ()) := by
  induction n generalizing lastScale nextScale deltas with
  | zero =>
    obtain rfl : deltas = [] := hfit
    exact .refl _
  | succ n ih =>
    unfold DeltasFit at hfit
    by_cases hzero : nextScale = 0
    · rw [if_pos hzero] at hfit
      subst hfit hzero
      have hrest : DeltasFit n lastScale 0 [] := by
        cases n with
        | zero => rfl
        | succ n => rw [DeltasFit, if_pos rfl]
      exact ih hrest
    · rw [if_neg hzero] at hfit
      cases deltas with
      | nil => exact hfit.elim
      | cons deltaScale deltas =>
        have hmod : (lastScale + deltaScale + 256) % 256 = (lastScale + deltaScale) % 256 :=
          Int.add_emod_right _ _
        dsimp only at hfit
        rw [hmod] at hfit
        rw [scalingList, if_pos hzero, List.flatMap_cons]
        exact (leads_se deltaScale).andThen (ih hfit)

theorem leads_offsetForRefFrame (offsets : List Int) :
    Leads SpsCall.next (offsetForRefFrame offsets.length) (offsets.flatMap seBits) (pure ()) := by
  induction offsets with
  | nil => exact .refl _
  | cons offset offsets ih =>
    rw [List.flatMap_cons]
    exact (leads_se offset).discard.andThen ih

theorem leads_scalingLists (lists : (i : Fin 8) → Option (ScalingList (if i.val < 6 then 16 else 64)))
    (is : List (Fin 8)) :
    Leads SpsCall.next (scalingLists (is.map Fin.val))
      (is.flatMap fun i => announced ScalingList.bits (lists i)) (pure ()) := by
  induction is with
  | nil => exact .refl _
  | cons i is ih =>
    rw [List.flatMap_cons, List.map_cons]
    cases lists i with
    | none => exact (leads_flag false).andThen ih
    | some list =>
      have hlist := (leads_scalingList list.fits).andThen (f := fun _ => scalingLists (is.map Fin.val)) ih
      exact (leads_flag true).andThen hlist

theorem leads_chromaFormat (chroma : ChromaFormat) :
    Leads SpsCall.next chromaFormat chroma.bits (pure ()) := by
  refine (leads_ue 1).andThen ?_
  refine (leads_ue _).discard.andThen ?_
  refine (leads_ue _).discard.andThen ?_
  refine (leads_flag _).discard.andThen ?_
  cases chroma.scalingMatrix with
  | none => exact (leads_flag false).andThen (.refl _)
  | some lists =>
    have hlists := leads_scalingLists lists (List.finRange 8)
    exact (leads_flag true).andThen hlists

theorem leads_picOrderCnt (picOrderCnt : PicOrderCnt) :
    Leads SpsCall.next MediaDescription.picOrderCnt picOrderCnt.bits (pure !picOrderCnt.emptyCycle) := by
  cases picOrderCnt with
  | lsb log2MaxPicOrderCntLsbMinus4 =>
    exact (leads_ue 0).andThen ((leads_ue log2MaxPicOrderCntLsbMinus4).discard.bind _)
  | cycle deltaPicOrderAlwaysZero offsetForNonRefPic offsetForTopToBottomField offsetForRefFrame =>
    refine (leads_ue 1).andThen ?_
    refine (leads_flag deltaPicOrderAlwaysZero).discard.andThen ?_
    refine (leads_se offsetForNonRefPic).discard.andThen ?_
    refine (leads_se offsetForTopToBottomField).discard.andThen ?_
    refine (leads_ue offsetForRefFrame.length).andThen ?_
    cases offsetForRefFrame with
    | nil => exact .refl _
    | cons offset offsets => exact (leads_offsetForRefFrame (offset :: offsets)).bind _
  | outputOrder => exact (leads_ue 2).bind _

/-- The elements before the reference frames. -/
theorem leads_head (sps : SequenceParameterSet) (nalRefIdc : Fin 4) :
    Leads SpsCall.next decodeSps
      (natBits 1 0 ++ (natBits 2 nalRefIdc ++ (natBits 5 7 ++ sps.head)))
      (if sps.picOrderCnt.emptyCycle then pure (0, 0) else frameSize) := by
  have hprofile : Leads SpsCall.next (u 8) (natBits 8 sps.profileIdc)
      (pure (sps.profileIdc.val : Int)) := by
    have hleads := @leads_u (natBits 8 sps.profileIdc) 8 (length_natBits _ _)
    rwa [bitsValue_natBits, Nat.mod_eq_of_lt (show sps.profileIdc.val < 2 ^ 8 from sps.profileIdc.isLt)]
      at hleads
  have hhigh : ((sps.profileIdc.val : Int) ∈ chromaProfiles) ↔ sps.chromaFormat.isSome := by
    rw [sps.chromaFormat_isSome]
    generalize sps.profileIdc = profile
    revert profile
    decide +kernel
  have hbehind : Leads SpsCall.next
      (do discard ue; if !(← MediaDescription.picOrderCnt) then return (0, 0) else frameSize)
      (ueBits sps.log2MaxFrameNumMinus4 ++ sps.picOrderCnt.bits)
      (if sps.picOrderCnt.emptyCycle then pure (0, 0) else frameSize) := by
    have hcnt := (leads_picOrderCnt sps.picOrderCnt).bind fun ok =>
      if !ok then pure (0, 0) else frameSize
    refine (leads_ue _).discard.andThen ?_
    cases hempty : sps.picOrderCnt.emptyCycle <;> rw [hempty] at hcnt <;> exact hcnt
  -- the header
  refine (leads_u 1 rfl).discard.andThen ?_
  refine (leads_u 2 (length_natBits _ _)).discard.andThen ?_
  refine (leads_u 5 rfl).andThen ?_
  refine hprofile.andThen ?_
  -- the constraint flags
  refine (leads_flag _).discard.andThen ?_
  refine (leads_flag _).discard.andThen ?_
  refine (leads_flag _).discard.andThen ?_
  refine (leads_flag _).discard.andThen ?_
  refine (leads_flag _).discard.andThen ?_
  refine (leads_flag _).discard.andThen ?_
  refine (leads_u 2 rfl).discard.andThen ?_
  refine (leads_u 8 (length_natBits _ _)).discard.andThen ?_
  refine (leads_ue _).discard.andThen ?_
  dsimp only
  cases hchroma : sps.chromaFormat with
  | none =>
    rw [if_neg (by simp [hhigh, hchroma])]
    exact hbehind
  | some chroma =>
    rw [if_pos (by simp [hhigh, hchroma])]
    exact (leads_chromaFormat chroma).andThen hbehind

end MediaDescription

end WifiDisplay
