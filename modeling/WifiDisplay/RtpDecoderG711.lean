import WifiDisplay.RtpAac
import Mathlib.Data.List.Chain

/-! `RtpDecoderG711`: the payloads of packets with one stamp are put into one frame. -/

namespace WifiDisplay

/-- Nothing sets `maxFrameSize_`. -/
structure RtpDecoderG711 where
  dropFlag : Bool := false
  lastSeq : BitVec 16 := 0
  maxFrameSize : Nat := 0
  frame : FrameImpl := {}
  deriving DecidableEq, Repr

namespace RtpDecoderG711

def obtainFrame : FrameImpl := {}

/-- The first part of `InputRtp`: a new frame, or a loss within the frame. -/
def openFrame (d : RtpDecoderG711) (stamp : BitVec 32) (seq : BitVec 16) :
    RtpDecoderG711 × List FrameImpl :=
  if d.frame.dts ≠ stamp ∨ d.frame.data.length > d.maxFrameSize then
    ({ d with frame := { obtainFrame with dts := stamp }, dropFlag := false },
      if d.frame.data = [] then [] else [d.frame])
  else if d.lastSeq ≠ 0 ∧ d.lastSeq + 1 ≠ seq then
    ({ d with dropFlag := true, frame := { d.frame with data := [] } }, [])
  else (d, [])

def inputRtp (d : RtpDecoderG711) (rtp : Option RtpPacket) : RtpDecoderG711 × List FrameImpl :=
  match rtp with
  | none => (d, [])
  | some rtp =>
    if rtp.getPayloadSize = 0 then (d, [])
    else
      let payload := rtp.getPayload.take rtp.getPayloadSize
      let (d, out) := d.openFrame rtp.getStampMS rtp.getSeq
      let d := if d.dropFlag then d
        else { d with frame := { d.frame with data := d.frame.data ++ payload } }
      ({ d with lastSeq := rtp.getSeq }, out)

def inputAll (d : RtpDecoderG711) : List RtpPacket → RtpDecoderG711 × List FrameImpl
  | [] => (d, [])
  | rtp :: rtps =>
    let (d, out) := d.inputRtp (some rtp)
    let (d, out') := d.inputAll rtps
    (d, out ++ out')

def frameOf (rtp : RtpPacket) : FrameImpl :=
  { data := rtp.getPayload.take rtp.getPayloadSize, dts := rtp.getStampMS }

def carriers (rtps : List RtpPacket) : List RtpPacket := rtps.filter (·.getPayloadSize ≠ 0)

def pending (d : RtpDecoderG711) : List FrameImpl := if d.frame.data = [] then [] else [d.frame]

/-- Nothing has been dropped, and a frame without bytes is the one of a new decoder. -/
structure Whole (d : RtpDecoderG711) : Prop where
  dropFlag : d.dropFlag = false
  maxFrameSize : d.maxFrameSize = 0
  fresh : d.frame.data = [] → d.frame = {} ∧ d.lastSeq = 0

variable {d : RtpDecoderG711}

theorem whole_create : Whole {} := ⟨rfl, rfl, fun _ => ⟨rfl, rfl⟩⟩

theorem payload_ne_nil {rtp : RtpPacket} (h : rtp.getPayloadSize ≠ 0) :
    rtp.getPayload.take rtp.getPayloadSize ≠ [] := by
  have hsize : rtp.getPayloadSize ≤ rtp.getPayload.length := by
    rw [RtpPacket.getPayload, RtpHeader.getPayloadData, List.length_drop]
    rw [RtpPacket.getPayloadSize, RtpHeader.getPayloadSize] at h ⊢
    split at h
    · exact absurd rfl h
    · rename_i hfits
      rw [if_neg hfits]
      show _ ≤ rtp.size - _
      omega
  rw [← List.length_pos_iff, List.length_take]
  omega

/-- Every packet closes the frame held back, since a frame that has bytes is over its maximum size. -/
theorem Whole.openFrame (h : Whole d) (stamp : BitVec 32) (seq : BitVec 16) :
    d.openFrame stamp seq = ({ d with frame := { dts := stamp } }, d.pending) := by
  obtain ⟨dropFlag, lastSeq, maxFrameSize, frame⟩ := d
  obtain ⟨rfl, rfl, hfresh⟩ := h
  by_cases hempty : frame.data = []
  · obtain ⟨rfl, rfl⟩ := hfresh hempty
    by_cases hstamp : stamp = 0
    · subst hstamp
      rfl
    · simp [RtpDecoderG711.openFrame, obtainFrame, pending]
  · have hlong : frame.data.length > 0 := List.length_pos_iff.mpr hempty
    simp [RtpDecoderG711.openFrame, obtainFrame, pending, hempty, hlong]

theorem Whole.inputRtp (h : Whole d) {rtp : RtpPacket} (hsize : rtp.getPayloadSize ≠ 0) :
    Whole (d.inputRtp (some rtp)).1 ∧ (d.inputRtp (some rtp)).2 = d.pending ∧
      (d.inputRtp (some rtp)).1.pending = [frameOf rtp] := by
  have hpayload := payload_ne_nil hsize
  have heq : d.inputRtp (some rtp) = ({ d with frame := frameOf rtp, lastSeq := rtp.getSeq }, d.pending) := by
    simp [RtpDecoderG711.inputRtp, hsize, h.openFrame, h.dropFlag, frameOf]
  rw [heq]
  refine ⟨⟨h.dropFlag, h.maxFrameSize, fun hempty => absurd hempty hpayload⟩, rfl, ?_⟩
  exact if_neg hpayload

theorem inputAll_frames (h : Whole d) (rtps : List RtpPacket) :
    (d.inputAll rtps).2 ++ (d.inputAll rtps).1.pending = d.pending ++ (carriers rtps).map frameOf := by
  induction rtps generalizing d with
  | nil => simp [inputAll, carriers]
  | cons rtp rtps ih =>
    simp only [inputAll]
    by_cases hsize : rtp.getPayloadSize = 0
    · simpa [RtpDecoderG711.inputRtp, hsize, carriers] using ih h
    · obtain ⟨hwhole, hout, hpending⟩ := h.inputRtp hsize
      rw [hout, List.append_assoc, ih hwhole, hpending]
      simp [carriers, hsize]

structure MadeOf (f : FrameImpl) (rtps : List RtpPacket) : Prop where
  stamp : ∀ rtp ∈ rtps, ∀ rtp' ∈ rtps, rtp.getStamp = rtp'.getStamp
  dts : ∀ rtp ∈ rtps, rtp.getStampMS = f.dts
  seq : rtps.IsChain fun rtp next => next.getSeq = rtp.getSeq + 1
  data : f.data = rtps.flatMap fun rtp => rtp.getPayload.take rtp.getPayloadSize

/-- Every frame is made of packets of the sequence that have one stamp and follow each other without
a gap. -/
theorem inputAll_madeOf (rtps : List RtpPacket) :
    ∀ f ∈ (({} : RtpDecoderG711).inputAll rtps).2, ∃ before part after,
      rtps = before ++ part ++ after ∧ part ≠ [] ∧ MadeOf f part := by
  intro f hf
  have hframes := inputAll_frames whole_create rtps
  have hmem : f ∈ (carriers rtps).map frameOf := by
    rw [show ({} : RtpDecoderG711).pending = [] from rfl, List.nil_append] at hframes
    rw [← hframes]
    exact List.mem_append_left _ hf
  obtain ⟨rtp, hrtp, rfl⟩ := List.mem_map.mp hmem
  obtain ⟨before, after, rfl⟩ := List.append_of_mem (List.mem_filter.mp hrtp).1
  refine ⟨before, [rtp], after, by simp, by simp, ?_⟩
  exact ⟨by simp, by simp [frameOf], .singleton _, by simp [frameOf]⟩

def soundPacket (seq : Byte) : RtpPacket :=
  { data := [0x80, 8, 0, seq, 0, 0, 0, 0, 0, 0, 0, 7, 0x11, 0x22], sampleRate := 8000 }

theorem inputAll_madeOf_soundPacket : ∃ before part after,
    [soundPacket 1, soundPacket 2] = before ++ part ++ after ∧ part ≠ [] ∧
      MadeOf (frameOf (soundPacket 1)) part :=
  inputAll_madeOf [soundPacket 1, soundPacket 2] (frameOf (soundPacket 1)) (by decide)

end RtpDecoderG711

end WifiDisplay
