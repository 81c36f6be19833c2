import WifiDisplay.RtpAacRoundTrip

/-! AU header sections: which access units `InputRtp` of `RtpDecoderAAC` hands on. -/

namespace WifiDisplay

/-- The upper 13 of the 16 bits of an AU header. -/
def auHeaderSize (headers : List Byte) : Nat := (headers.getD 0 0 ++ headers.getD 1 0 : BitVec 16).toNat / 8

/-- The units that `n` headers denote, each with its own size, up to the first one that is not
whole. -/
def accessUnits (headers data : List Byte) : Nat → List (List Byte)
  | 0 => []
  | n + 1 =>
    if data.length < auHeaderSize headers then []
    else data.take (auHeaderSize headers) ::
      accessUnits (headers.drop 2) (data.drop (auHeaderSize headers)) n

/-- The length of the header section stands in front of it, in bits. -/
def auHeaderCount (payload : List Byte) : Nat :=
  (payload.getD 0 0 ++ payload.getD 1 0 : BitVec 16).toNat / 16

def payloadUnits (payload : List Byte) : List (List Byte) :=
  if payload.length < 2 + auHeaderCount payload * 2 then []
  else accessUnits (payload.drop 2) (payload.drop (2 + auHeaderCount payload * 2))
    (auHeaderCount payload)

/-- The unit behind an ADTS header, its own or one made for it. -/
def CarriesUnit (f : FrameImpl) (unit : List Byte) : Prop :=
  f.prefixSize = adtsHeaderLen ∧ (f.data = unit ∨ f.data.drop adtsHeaderLen = unit)

namespace RtpDecoderAAC

/-- Offset and number of the bytes of the payload that the loop over the AU headers reads, from a
header at `header` and data at `data`. -/
def auReads (payload : List Byte) (header data : Nat) : Nat → List (Nat × Nat)
  | 0 => []
  | left + 1 =>
    let size := auHeaderSize (payload.drop header)
    (header, 2) ::
      if data + size > payload.length then []
      else if size = 0 then auReads payload header data left
      else (data, size) :: auReads payload (header + 2) (data + size) left

def payloadOf (rtp : RtpPacket) : List Byte := rtp.getPayload.take rtp.getPayloadSize

/-- The loop stays inside the payload, and the frames are those of the non-empty units. -/
structure EmitsUnits (d : RtpDecoderAAC) (rtp : RtpPacket) : Prop where
  inside : 2 + auHeaderCount (payloadOf rtp) * 2 ≤ (payloadOf rtp).length →
    ∀ r ∈ auReads (payloadOf rtp) 2 (2 + auHeaderCount (payloadOf rtp) * 2) (auHeaderCount (payloadOf rtp)),
      r.1 + r.2 ≤ (payloadOf rtp).length
  emits : ∃ d' out, d.inputRtp (some rtp) = .ok (d', out) ∧
    List.Forall₂ CarriesUnit out ((payloadUnits (payloadOf rtp)).filter (· ≠ []))

/-- What `FlushData` takes for a unit with a header of its own. -/
def HasAdts (unit : List Byte) : Prop :=
  unit.getD 0 0 = 0xFF ∧ unit.getD 1 0 &&& 0xF0 = 0xF0 ∧ unit.length > adtsHeaderLen

instance (unit : List Byte) : Decidable (HasAdts unit) := inferInstanceAs (Decidable (_ ∧ _))

/-- The unit has a header of its own that leads to the end of the unit, or a header can be made for
it and written out in front of it. -/
def Flushable (d : RtpDecoderAAC) (unit : List Byte) : Prop :=
  if HasAdts unit then scanFrames unit (unit.length + 1) 0 = .ok true
  else d.aacConfig ≠ [] ∧ unit ≠ [0xFF] ∧ unit.length ≤ 8184

instance (d : RtpDecoderAAC) (unit : List Byte) : Decidable (d.Flushable unit) :=
  inferInstanceAs (Decidable (ite ..))

/-- Every non-empty unit can be flushed, and none stands behind an empty one. -/
def SectionFits (d : RtpDecoderAAC) (payload : List Byte) : Prop :=
  (∀ unit ∈ payloadUnits payload, unit ≠ [] → d.Flushable unit) ∧
    (payloadUnits payload).filter (· ≠ []) = (payloadUnits payload).takeWhile (· ≠ [])

theorem auHeaderSize_lt (headers : List Byte) : auHeaderSize headers < 8192 := by
  have hlt := (headers.getD 0 0 ++ headers.getD 1 0 : BitVec 16).isLt
  rw [auHeaderSize]
  omega

/-! What becomes of one unit. -/

theorem dumpAacConfig_whole {config : List Byte} (hne : config ≠ []) (length : Nat) :
    ∃ header, AdtsHeader.dumpAacConfig config length = .ok header ∧ header.length = 7 ∧
      header.getD 0 0 = 0xFF ∧ header.getD 1 0 &&& 0xF0 = 0xF0 ∧
      (header.getD 3 0).toNat % 4 * 2048 + (header.getD 4 0).toNat * 8 +
        (header.getD 5 0).toNat / 32 = (7 + length) % 8192 := by
  obtain ⟨cfg1, rest, rfl⟩ := List.exists_cons_of_ne_nil hne
  obtain ⟨hed, hparse⟩ : ∃ hed, AdtsHeader.parseAacConfig (cfg1 :: rest) = .ok hed := ⟨_, rfl⟩
  have hfixed : hed.syncword = 0x0FFF ∧ hed.id = 0 ∧ hed.layer = 0 ∧ hed.protectionAbsent = 1 := by
    cases hparse
    exact ⟨rfl, rfl, rfl, rfl⟩
  obtain ⟨hsync, hid, hlayer, habsent⟩ := hfixed
  refine ⟨_, by rw [AdtsHeader.dumpAacConfig, hparse]; rfl, rfl, ?_, ?_, ?_⟩
  · simp [AdtsHeader.dumpAdtsHeader, hsync]
  · simp [AdtsHeader.dumpAdtsHeader, hsync, hid, hlayer, habsent]
  · rw [AdtsHeader.dump_length, BitVec.toNat_ofNat, adtsHeaderLen]
    omega

theorem inputFrame_eq_singleton {frame : FrameImpl} (hsize : frame.prefixSize ≠ 0) :
    inputFrame frame = .ok [frame] ↔ scanFrames frame.data (frame.data.length + 1) 0 = .ok true := by
  rw [inputFrame, if_neg hsize]
  cases hscan : scanFrames frame.data (frame.data.length + 1) 0 with
  | error e => exact iff_of_false (by rintro ⟨⟩) (by rintro ⟨⟩)
  | ok found => cases found <;> simp [bind, Except.bind, pure, Except.pure]

/-- A header that is written in front of a unit is found again if the 13 bits of its length hold it. -/
theorem scanFrames_dumped {header unit : List Byte} (hsize : header.length = 7)
    (hfirst : header.getD 0 0 = 0xFF) (hsecond : header.getD 1 0 &&& 0xF0 = 0xF0)
    (hlen : (header.getD 3 0).toNat % 4 * 2048 + (header.getD 4 0).toNat * 8 +
      (header.getD 5 0).toNat / 32 = (7 + unit.length) % 8192) (hunit : unit.length < 8192) :
    scanFrames (header ++ unit) ((header ++ unit).length + 1) 0 = .ok true ↔ unit.length ≤ 8184 := by
  by_cases hfits : unit.length ≤ 8184
  · have hmod : (7 + unit.length) % 8192 = 7 + unit.length := Nat.mod_eq_of_lt (by omega)
    rw [hmod] at hlen
    exact iff_of_true (scanFrames_whole hsize hfirst hsecond hlen _) hfits
  · refine iff_of_false ?_ hfits
    have hget (i : Nat) (hi : i < 7) : (header ++ unit).getD i 0 = header.getD i 0 := by
      rw [List.getD_eq_getElem?_getD, List.getElem?_append_left (by omega), ← List.getD_eq_getElem?_getD]
    have hall : (header ++ unit).length = 7 + unit.length := by rw [List.length_append, hsize]
    have hframe : AdtsHeader.getAacFrameLength (header ++ unit) = some ((7 + unit.length) % 8192) := by
      rw [AdtsHeader.getAacFrameLength_eq (by omega) (by rw [hget 0 (by omega), hfirst])
        (by rw [hget 1 (by omega), hsecond]), hget 3 (by omega), hget 4 (by omega),
        hget 5 (by omega), hlen]
    rw [scanFrames, if_neg (by omega), List.drop_zero, hframe]
    have hshort : (7 + unit.length) % 8192 < adtsHeaderLen := by
      rw [adtsHeaderLen]
      omega
    simp [hshort]

theorem flushData_hasAdts (d : RtpDecoderAAC) {unit : List Byte} (hadts : HasAdts unit)
    (dts : BitVec 32) :
    d.flushData { data := unit, dts } = inputFrame { data := unit, dts, prefixSize := adtsHeaderLen } := by
  obtain ⟨hfirst, hsecond, hlen⟩ := hadts
  match unit, hfirst, hsecond, hlen with
  | [], _, _, hlen => simp at hlen
  | [_], _, _, hlen => simp [adtsHeaderLen] at hlen
  | b :: b' :: rest, hfirst, hsecond, hlen =>
    have hb : b = 0xFF := hfirst
    have hlook : b' &&& 0xF0 = 0xF0 ∧ (b :: b' :: rest).length > adtsHeaderLen := ⟨hsecond, hlen⟩
    simp only [flushData]
    rw [if_pos hb, if_pos hlook]

theorem flushData_raw (d : RtpDecoderAAC) {unit : List Byte} (hadts : ¬ HasAdts unit) (hne : unit ≠ [])
    (hbyte : unit ≠ [0xFF]) (dts : BitVec 32) :
    d.flushData { data := unit, dts } = (do
      let header ← (AdtsHeader.dumpAacConfig d.aacConfig unit.length).mapError .fault
      inputFrame { data := header ++ unit, dts, prefixSize := adtsHeaderLen }) := by
  match unit, hadts, hne, hbyte with
  | [b], _, _, hbyte =>
    have hb : b ≠ 0xFF := by
      rintro rfl
      exact hbyte rfl
    simp only [flushData]
    rw [if_neg hb]
  | b :: b' :: rest, hadts, _, _ =>
    simp only [flushData]
    by_cases hb : b = 0xFF
    · have hnot : ¬ (b' &&& 0xF0 = 0xF0 ∧ (b :: b' :: rest).length > adtsHeaderLen) :=
        fun h => hadts ⟨hb, h⟩
      rw [if_pos hb, if_neg hnot]
    · rw [if_neg hb]

/-- A unit comes out once if it can be flushed, and not at all otherwise. -/
theorem flushData_cases (d : RtpDecoderAAC) {unit : List Byte} (hne : unit ≠ [])
    (hlen : unit.length < 8192) (dts : BitVec 32) :
    d.Flushable unit ∧ (∃ f, d.flushData { data := unit, dts } = .ok [f] ∧ CarriesUnit f unit) ∨
      ¬ d.Flushable unit ∧ ∀ out, d.flushData { data := unit, dts } = .ok out → out = [] := by
  have hprefix : adtsHeaderLen ≠ 0 := by decide
  by_cases hadts : HasAdts unit
  · rw [Flushable, if_pos hadts, flushData_hasAdts d hadts]
    by_cases hscan : scanFrames unit (unit.length + 1) 0 = .ok true
    · exact Or.inl ⟨hscan, _, (inputFrame_eq_singleton hprefix).mpr hscan, rfl, Or.inl rfl⟩
    · refine Or.inr ⟨hscan, fun out hout => ?_⟩
      rcases inputFrame_out hout with rfl | rfl
      · rfl
      · exact absurd ((inputFrame_eq_singleton hprefix).mp hout) hscan
  · rw [Flushable, if_neg hadts]
    by_cases hbyte : unit = [0xFF]
    · subst hbyte
      exact Or.inr ⟨fun h => h.2.1 rfl, by rintro _ ⟨⟩⟩
    rw [flushData_raw d hadts hne hbyte]
    by_cases hconfig : d.aacConfig = []
    · rw [hconfig]
      exact Or.inr ⟨fun h => h.1 rfl, by rintro _ ⟨⟩⟩
    obtain ⟨header, hdump, hsize, hfirst, hsecond, hframe⟩ := dumpAacConfig_whole hconfig unit.length
    have hscan := scanFrames_dumped hsize hfirst hsecond hframe hlen
    have hbind : (do
        let header ← (AdtsHeader.dumpAacConfig d.aacConfig unit.length).mapError AacFailure.fault
        inputFrame { data := header ++ unit, dts, prefixSize := adtsHeaderLen }) =
        inputFrame { data := header ++ unit, dts, prefixSize := adtsHeaderLen } := by
      rw [hdump]
      rfl
    rw [hbind]
    by_cases hfits : unit.length ≤ 8184
    · refine Or.inl ⟨⟨hconfig, hbyte, hfits⟩, _, (inputFrame_eq_singleton hprefix).mpr (hscan.mpr hfits), rfl,
        Or.inr ?_⟩
      show (header ++ unit).drop 7 = unit
      rw [← hsize, List.drop_left]
    · refine Or.inr ⟨fun h => hfits h.2.2, fun out hout => ?_⟩
      rcases inputFrame_out hout with rfl | rfl
      · rfl
      · exact absurd (hscan.mp ((inputFrame_eq_singleton hprefix).mp hout)) hfits

/-! The loop over the headers. -/

variable {d : RtpDecoderAAC} {units : List (List Byte)} {out : List FrameImpl}

/-- The units through `FlushData`, one after the other. -/
def flushUnits (d : RtpDecoderAAC) (dtsInc : BitVec 32) (i : Nat) :
    List (List Byte) → Except AacFailure (List FrameImpl)
  | [] => .ok []
  | unit :: units => do
    let out ← d.flushData { data := unit, dts := d.lastDts + BitVec.ofNat 32 i * dtsInc }
    let out' ← flushUnits d dtsInc (i + 1) units
    return out ++ out'

/-- An empty header is not stepped over, so that it is met again in every further round. -/
theorem auLoop_empty {headers : List Byte} (hempty : auHeaderSize headers = 0) (dtsInc : BitVec 32)
    (data : List Byte) (i left : Nat) : d.auLoop dtsInc headers data i left = .ok [] := by
  induction left generalizing i with
  | zero => rfl
  | succ left ih =>
    rw [auLoop, ← auHeaderSize, hempty, if_neg (Nat.not_lt_zero _), if_pos rfl]
    exact ih (i + 1)

/-- The loop hands on the units up to the first empty one. -/
theorem auLoop_eq (d : RtpDecoderAAC) (dtsInc : BitVec 32) (headers data : List Byte) (i left : Nat) :
    d.auLoop dtsInc headers data i left =
      d.flushUnits dtsInc i ((accessUnits headers data left).takeWhile (· ≠ [])) := by
  induction left generalizing headers data i with
  | zero => rfl
  | succ left ih =>
    by_cases hshort : data.length < auHeaderSize headers
    · rw [auLoop, ← auHeaderSize, if_pos hshort, accessUnits, if_pos hshort]
      rfl
    rw [accessUnits, if_neg hshort]
    by_cases hempty : auHeaderSize headers = 0
    · rw [auLoop_empty hempty, hempty]
      rfl
    · have hne : data.take (auHeaderSize headers) ≠ [] := by
        rw [← List.length_pos_iff, List.length_take]
        omega
      rw [auLoop, ← auHeaderSize, if_neg hshort, if_neg hempty, List.takeWhile_cons_of_pos (by simpa using hne),
        flushUnits]
      simp only [ih]

theorem accessUnits_length (headers data : List Byte) (n : Nat) :
    ∀ unit ∈ accessUnits headers data n, unit.length < 8192 := by
  induction n generalizing headers data with
  | zero => exact List.forall_mem_nil _
  | succ n ih =>
    rw [accessUnits]
    split
    · exact List.forall_mem_nil _
    · refine List.forall_mem_cons.mpr ⟨?_, ih _ _⟩
      have hlt := auHeaderSize_lt headers
      rw [List.length_take]
      omega

theorem payloadUnits_length (payload : List Byte) : ∀ unit ∈ payloadUnits payload, unit.length < 8192 := by
  rw [payloadUnits]
  split
  · exact List.forall_mem_nil _
  · exact accessUnits_length _ _ _

theorem flushUnits_ok (hunits : ∀ unit ∈ units, unit ≠ [] ∧ unit.length < 8192 ∧ d.Flushable unit)
    (dtsInc : BitVec 32) (i : Nat) :
    ∃ out, d.flushUnits dtsInc i units = .ok out ∧ List.Forall₂ CarriesUnit out units := by
  induction units generalizing i with
  | nil => exact ⟨[], rfl, .nil⟩
  | cons unit units ih =>
    obtain ⟨⟨hne, hlen, hflush⟩, hunits⟩ := List.forall_mem_cons.mp hunits
    obtain ⟨out, hok, hout⟩ := ih hunits (i + 1)
    rcases flushData_cases d hne hlen (d.lastDts + BitVec.ofNat 32 i * dtsInc) with
      ⟨-, f, hf, hcarries⟩ | ⟨hno, -⟩
    · refine ⟨f :: out, ?_, .cons hcarries hout⟩
      rw [flushUnits, hf, hok]
      rfl
    · exact absurd hflush hno

/-- As many frames as units come out only if every unit can be flushed. -/
theorem flushUnits_length (hunits : ∀ unit ∈ units, unit ≠ [] ∧ unit.length < 8192)
    {dtsInc : BitVec 32} {i : Nat} (h : d.flushUnits dtsInc i units = .ok out) :
    out.length ≤ units.length ∧ (out.length = units.length → ∀ unit ∈ units, d.Flushable unit) := by
  induction units generalizing i out with
  | nil =>
    cases h
    exact ⟨Nat.le_refl _, fun _ => List.forall_mem_nil _⟩
  | cons unit units ih =>
    obtain ⟨⟨hne, hlen⟩, hunits⟩ := List.forall_mem_cons.mp hunits
    rw [flushUnits] at h
    cases hfirst : d.flushData { data := unit, dts := d.lastDts + BitVec.ofNat 32 i * dtsInc } with
    | error e =>
      rw [hfirst] at h
      cases h
    | ok first =>
      cases hrest : d.flushUnits dtsInc (i + 1) units with
      | error e =>
        rw [hfirst, hrest] at h
        cases h
      | ok rest =>
        rw [hfirst, hrest] at h
        cases h
        obtain ⟨hle, hall⟩ := ih hunits hrest
        rcases flushData_cases d hne hlen (d.lastDts + BitVec.ofNat 32 i * dtsInc) with
          ⟨hflush, f, hf, -⟩ | ⟨-, hnone⟩
        · rw [hf] at hfirst
          cases hfirst
          rw [List.length_append, List.length_singleton, List.length_cons]
          refine ⟨by omega, fun heq => List.forall_mem_cons.mpr ⟨hflush, hall (by omega)⟩⟩
        · rw [hnone first hfirst, List.nil_append, List.length_cons]
          exact ⟨by omega, fun heq => by omega⟩

/-- Apart from the times of the frames, `InputRtp` is its loop. -/
theorem inputRtp_eq (d : RtpDecoderAAC) (rtp : RtpPacket) :
    ∃ d₁ d₂ : RtpDecoderAAC, ∃ dtsInc, d₁.aacConfig = d.aacConfig ∧
      d.inputRtp (some rtp) = (d₁.flushUnits dtsInc 0 ((payloadUnits (payloadOf rtp)).takeWhile (· ≠ []))).map
        fun out => (d₂, out) := by
  by_cases hshort : (payloadOf rtp).length < 2 + auHeaderCount (payloadOf rtp) * 2
  · refine ⟨d, d, 0, rfl, ?_⟩
    rw [payloadUnits, if_pos hshort]
    show d.inputRtp (some rtp) = .ok (d, [])
    simp only [inputRtp]
    rw [← payloadOf, ← auHeaderCount, if_pos hshort]
    split <;> rfl
  have hlong : ¬ (payloadOf rtp).length < 2 := by omega
  rw [payloadUnits, if_neg hshort]
  simp only [inputRtp]
  rw [← payloadOf, ← auHeaderCount, if_neg hlong, if_neg hshort]
  by_cases hnone : auHeaderCount (payloadOf rtp) = 0
  · refine ⟨d, d, 0, rfl, ?_⟩
    rw [if_pos hnone, hnone]
    rfl
  rw [if_neg hnone]
  set d₁ : RtpDecoderAAC := if d.lastDts = 0 then { d with lastDts := rtp.getStampMS } else d with hd₁
  set dtsInc := (rtp.getStampMS - d₁.lastDts) / BitVec.ofNat 32 (auHeaderCount (payloadOf rtp))
  refine ⟨d₁, { d₁ with lastDts := rtp.getStampMS }, if dtsInc.toNat > 100 then 0 else dtsInc, ?_, ?_⟩
  · rw [hd₁]
    split <;> rfl
  · rw [auLoop_eq]
    rfl

theorem auReads_inside (payload : List Byte) {header data left : Nat}
    (hheader : header + left * 2 ≤ payload.length) (hdata : data ≤ payload.length) :
    ∀ r ∈ auReads payload header data left, r.1 + r.2 ≤ payload.length := by
  induction left generalizing header data with
  | zero => exact List.forall_mem_nil _
  | succ left ih =>
    rw [auReads]
    refine List.forall_mem_cons.mpr ⟨by dsimp only; omega, ?_⟩
    split
    · exact List.forall_mem_nil _
    · split
      · exact ih (by omega) hdata
      · exact List.forall_mem_cons.mpr ⟨by dsimp only; omega, ih (by omega) (by omega)⟩

end RtpDecoderAAC

end WifiDisplay
