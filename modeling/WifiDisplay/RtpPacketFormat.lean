import WifiDisplay.RtpEncoderStream
import WifiDisplay.RtpDecoderH264Losses

/-! RTP packets as RFC 3550 lays them out, and what `RtpHeader` finds in them. -/

namespace WifiDisplay

/-- The words of a header extension, and the 16 bits that name it. -/
structure RtpExtension where
  profile : BitVec 16
  words : List (BitVec 32)
  words_length : words.length < 2 ^ 16

namespace RtpExtension

def bytes (e : RtpExtension) : List Byte :=
  RtpMaker.octets16 e.profile ++ RtpMaker.octets16 (BitVec.ofNat 16 e.words.length) ++
    e.words.flatMap RtpMaker.octets32

theorem bytes_length (e : RtpExtension) : e.bytes.length = 4 + 4 * e.words.length := by
  have hwords : (e.words.flatMap RtpMaker.octets32).length = 4 * e.words.length := by
    simp [List.length_flatMap, RtpMaker.octets32, Nat.mul_comm]
  rw [bytes, List.length_append, hwords]
  rfl

end RtpExtension

/-- A well-formed packet. The last octet of the padding counts all of them. -/
structure RtpLayout where
  mark : Bool
  pt : BitVec 7
  seq : BitVec 16
  stamp : BitVec 32
  ssrc : BitVec 32
  csrc : List (BitVec 32)
  csrc_length : csrc.length < 16
  extension : Option RtpExtension
  payload : List Byte
  padding : List Byte
  padding_count : ∀ count ∈ padding.getLast?, count.toNat = padding.length

namespace RtpLayout

def flags (padding ext : Bool) (csrc : BitVec 4) : Byte :=
  (2 : BitVec 2) ++ BitVec.ofBool padding ++ BitVec.ofBool ext ++ csrc

def fixedHeader (p : RtpLayout) : List Byte :=
  [flags (p.padding ≠ []) p.extension.isSome (BitVec.ofNat 4 p.csrc.length),
    BitVec.ofBool p.mark ++ p.pt] ++ RtpMaker.octets16 p.seq ++ RtpMaker.octets32 p.stamp ++
      RtpMaker.octets32 p.ssrc

def csrcBytes (p : RtpLayout) : List Byte := p.csrc.flatMap RtpMaker.octets32

def extensionBytes (p : RtpLayout) : List Byte := (p.extension.map RtpExtension.bytes).getD []

def bytes (p : RtpLayout) : List Byte :=
  p.fixedHeader ++ (p.csrcBytes ++ (p.extensionBytes ++ (p.payload ++ p.padding)))

variable (p : RtpLayout)

theorem fixedHeader_length : p.fixedHeader.length = rtpHeaderSize := rfl

theorem csrcBytes_length : p.csrcBytes.length = 4 * p.csrc.length := by
  simp [csrcBytes, List.length_flatMap, RtpMaker.octets32, Nat.mul_comm]

theorem bytes_length : p.bytes.length = rtpHeaderSize + p.csrcBytes.length + p.extensionBytes.length +
    p.payload.length + p.padding.length := by
  simp only [bytes, List.length_append, fixedHeader_length]
  omega

/-! The first byte. -/

theorem bytes_first :
    p.bytes.getD 0 0 = flags (p.padding ≠ []) p.extension.isSome (BitVec.ofNat 4 p.csrc.length) := rfl

theorem flags_fields (padding ext : Bool) (csrc : BitVec 4) :
    (flags padding ext csrc).toNat / 64 = 2 ∧ (flags padding ext csrc).getLsbD 5 = padding ∧
      (flags padding ext csrc).getLsbD 4 = ext ∧ (flags padding ext csrc).toNat % 16 = csrc.toNat := by
  revert padding ext csrc
  decide

theorem padding_eq : RtpHeader.padding p.bytes = decide (p.padding ≠ []) := by
  rw [RtpHeader.padding, bytes_first]
  exact (flags_fields _ _ _).2.1

theorem ext_eq : RtpHeader.ext p.bytes = p.extension.isSome := by
  rw [RtpHeader.ext, bytes_first]
  exact (flags_fields _ _ _).2.2.1

theorem getCsrcSize_eq : RtpHeader.getCsrcSize p.bytes = p.csrcBytes.length := by
  rw [RtpHeader.getCsrcSize, RtpHeader.csrc, bytes_first, (flags_fields _ _ _).2.2.2, csrcBytes_length,
    BitVec.toNat_ofNat, Nat.mod_eq_of_lt p.csrc_length, Nat.mul_comm]

/-! Where the payload begins and ends. -/

theorem getPayloadOffset_eq : RtpHeader.getPayloadOffset p.bytes p.bytes.length =
    p.csrcBytes.length + p.extensionBytes.length := by
  rw [RtpHeader.getPayloadOffset, RtpHeader.getExtSize, ext_eq, getCsrcSize_eq]
  cases hext : p.extension with
  | none => simp [extensionBytes, hext]
  | some e =>
    have hbytes : p.extensionBytes = e.bytes := by simp [extensionBytes, hext]
    have hlength := e.bytes_length
    have hfits : ¬ rtpHeaderSize + p.csrcBytes.length + 4 > p.bytes.length := by
      rw [bytes_length, hbytes]
      omega
    have hdrop : p.bytes.drop (rtpHeaderSize + p.csrcBytes.length + 2) =
        (e.bytes ++ (p.payload ++ p.padding)).drop 2 := by
      rw [← List.drop_drop, ← List.drop_drop, bytes, ← p.fixedHeader_length, List.drop_left, List.drop_left,
        hbytes]
    have hwords : avRb16 (p.bytes.drop (rtpHeaderSize + p.csrcBytes.length + 2)) = e.words.length := by
      rw [hdrop]
      show (BitVec.extractLsb' 8 8 (BitVec.ofNat 16 e.words.length) ++
        BitVec.extractLsb' 0 8 (BitVec.ofNat 16 e.words.length)).toNat = _
      rw [RtpDecoderH264.stap_length e.words_length]
    simp only [Option.isSome_some, not_true_eq_false, if_false, hfits, hwords, if_true, hbytes]
    omega

theorem getPaddingSize_eq : RtpHeader.getPaddingSize p.bytes p.bytes.length = p.padding.length := by
  rw [RtpHeader.getPaddingSize, padding_eq]
  by_cases hnone : p.padding = []
  · simp [hnone]
  · have hlast : p.bytes.getLast? = p.padding.getLast? := by
      simp only [bytes, ← List.append_assoc]
      exact List.getLast?_append_of_ne_nil _ hnone
    obtain ⟨count, hcount⟩ := Option.isSome_iff_exists.mp (List.getLast?_isSome.mpr hnone)
    have hlength := p.padding_count count hcount
    have hget : p.bytes.getD (p.bytes.length - 1) 0 = count := by
      rw [List.getD_eq_getElem?_getD, ← List.getLast?_eq_getElem?, hlast, hcount]
      rfl
    have hfits : ¬ p.padding.length + rtpHeaderSize > p.bytes.length := by
      rw [bytes_length]
      omega
    simp only [hnone, ne_eq, not_false_eq_true, decide_true, not_true_eq_false, if_false, hget, hlength,
      hfits]

theorem getPayloadSize_eq : RtpHeader.getPayloadSize p.bytes p.bytes.length = p.payload.length := by
  rw [RtpHeader.getPayloadSize, getPayloadOffset_eq, getPaddingSize_eq, bytes_length]
  split <;> omega

theorem getPayloadData_eq :
    RtpHeader.getPayloadData p.bytes p.bytes.length = p.payload ++ p.padding := by
  rw [RtpHeader.getPayloadData, getPayloadOffset_eq, ← List.drop_drop, ← List.drop_drop, bytes,
    ← p.fixedHeader_length, List.drop_left, List.drop_left, List.drop_left]

end RtpLayout

namespace RtpMaker

theorem built_getSSRC (m : RtpMaker) (data : List Byte) (mark : Bool) (stamp : BitVec 32) :
    (m.built data mark stamp).getSSRC = m.ssrc := RtpEncoderH264.octets32_append m.ssrc

/-- The header has seven bits for the payload type. -/
theorem built_pt (m : RtpMaker) (data : List Byte) (mark : Bool) (stamp : BitVec 32) :
    (m.built data mark stamp).getHeader.pt = m.pt.toNat % 128 := by
  have hbits (mark : Bool) (pt : Byte) :
      (BitVec.ofBool mark ++ pt.extractLsb' 0 7 : BitVec 8).toNat % 128 = pt.toNat % 128 := by
    revert mark pt
    decide +kernel
  exact hbits mark m.pt

theorem makeRtp_built {m m' : RtpMaker} {data : List Byte} {mark : Bool} {stamp : BitVec 32}
    {rtp : RtpPacket} (h : m.makeRtp (some data) data.length mark stamp = (m', some rtp)) :
    rtp = m.built data mark stamp := by
  by_cases hlen : data.length ≤ 65523
  · by_cases hnil : data = []
    · subst hnil
      cases h
    · rw [m.makeRtp_some hnil hlen] at h
      cases h
      rfl
  · rw [m.makeRtp_long hlen] at h
    cases h

end RtpMaker

namespace RtpHeader

/-- The payload of any packet lies inside it, that of a well-formed one is found, and so is what
`MakeRtp` has put into a packet, of the payload type the low seven bits. -/
theorem parses :
    (∀ h : RtpHeader, rtpHeaderSize ≤ h.length → h.getPayloadSize h.length ≠ 0 →
      rtpHeaderSize + h.getPayloadOffset h.length + h.getPayloadSize h.length ≤ h.length) ∧
    (∀ p : RtpLayout, getPayloadSize p.bytes p.bytes.length = p.payload.length ∧
      (getPayloadData p.bytes p.bytes.length).take (getPayloadSize p.bytes p.bytes.length) = p.payload) ∧
    ∀ (m m' : RtpMaker) (data : List Byte) (mark : Bool) (stamp : BitVec 32) (rtp : RtpPacket),
      m.makeRtp (some data) data.length mark stamp = (m', some rtp) →
        rtp.getPayload.take rtp.getPayloadSize = data ∧ rtp.getSeq = m.seq ∧ rtp.getSSRC = m.ssrc ∧
          rtp.getHeader.pt = m.pt.toNat % 128 ∧ rtp.getHeader.mark = mark := by
  refine ⟨fun h _ hsize => ?_, fun p => ?_, fun m m' data mark stamp rtp h => ?_⟩
  · revert hsize
    rw [getPayloadSize]
    split <;> omega
  · rw [p.getPayloadSize_eq, p.getPayloadData_eq, List.take_left]
    exact ⟨rfl, rfl⟩
  · rw [RtpMaker.makeRtp_built h, RtpMaker.built_getPayload, RtpMaker.built_getPayloadSize, List.take_length]
    exact ⟨rfl, m.built_getSeq .., m.built_getSSRC .., m.built_pt .., RtpEncoderH264.built_mark ..⟩

/-- Payload type 200 leaves as 72. -/
theorem wideType_not_parsed : ¬ ∀ (m m' : RtpMaker) (data : List Byte) (mark : Bool)
    (stamp : BitVec 32) (rtp : RtpPacket),
    m.makeRtp (some data) data.length mark stamp = (m', some rtp) →
      rtp.getHeader.pt = m.pt.toNat := by
  intro hall
  have hpt := hall (RtpMaker.create 1 7 1500 200 90000 0 0) _ [0x47] false 0 _ rfl
  revert hpt
  decide

end RtpHeader

namespace RtpMaker

/-! Stamps in milliseconds, into a packet and out of it. -/

variable {m m' : RtpMaker} {data : List Byte} {mark : Bool} {stamp : BitVec 32} {rtp : RtpPacket}

def StampWithin (ticks : Nat) (a b : BitVec 32) : Prop :=
  a.toNat ≤ b.toNat + ticks ∧ b.toNat ≤ a.toNat + ticks

instance (ticks : Nat) (a b : BitVec 32) : Decidable (StampWithin ticks a b) :=
  inferInstanceAs (Decidable (_ ∧ _))

/-- The stamp is scaled by whole ticks per millisecond, and back by the rate itself. -/
theorem getStampMS_toNat (h : m.makeRtp (some data) data.length mark stamp = (m', some rtp))
    (hrate : m.sampleRate ≠ 0) (hfits : stamp.toNat * (m.sampleRate.toNat / 1000) < 2 ^ 32) :
    ({ rtp with sampleRate := m.sampleRate } : RtpPacket).getStampMS.toNat =
      stamp.toNat * (m.sampleRate.toNat / 1000) * 1000 / m.sampleRate.toNat := by
  have hstamp : ({ rtp with sampleRate := m.sampleRate } : RtpPacket).getStamp.toNat =
      stamp.toNat * (m.sampleRate.toNat / 1000) := by
    rw [makeRtp_built h]
    show (m.built data mark stamp).getStamp.toNat = _
    rw [RtpEncoderH264.built_getStamp, scaledStamp, BitVec.toNat_ofNat, Nat.mod_eq_of_lt hfits]
  have hwhole : m.sampleRate.toNat / 1000 * 1000 ≤ m.sampleRate.toNat := Nat.div_mul_le_self _ _
  have hle : stamp.toNat * (m.sampleRate.toNat / 1000) * 1000 / m.sampleRate.toNat ≤ stamp.toNat := by
    rw [Nat.mul_assoc]
    exact Nat.div_le_of_le_mul (by
      rw [Nat.mul_comm m.sampleRate.toNat]
      exact Nat.mul_le_mul_left _ hwhole)
  rw [RtpPacket.getStampMS, if_neg hrate, BitVec.toNat_ofNat, hstamp]
  exact Nat.mod_eq_of_lt (Nat.lt_of_le_of_lt hle stamp.isLt)

/-- The stamp comes back late by what the rate has over whole ticks per millisecond, so the error
grows with the stamp. -/
theorem getStampMS_within_iff (h : m.makeRtp (some data) data.length mark stamp = (m', some rtp))
    (hrate : m.sampleRate ≠ 0) (hfits : stamp.toNat * (m.sampleRate.toNat / 1000) < 2 ^ 32)
    (ticks : Nat) :
    StampWithin ticks ({ rtp with sampleRate := m.sampleRate } : RtpPacket).getStampMS stamp ↔
      stamp.toNat * (m.sampleRate.toNat % 1000) ≤ ticks * m.sampleRate.toNat := by
  rw [StampWithin, getStampMS_toNat h hrate hfits]
  have hpos : 0 < m.sampleRate.toNat := Nat.pos_of_ne_zero fun h0 => hrate (BitVec.eq_of_toNat_eq h0)
  generalize stamp.toNat = s
  generalize m.sampleRate.toNat = rate at hpos ⊢
  have hsplit : s * (rate / 1000) * 1000 + s * (rate % 1000) = s * rate := by
    rw [Nat.mul_assoc, ← Nat.mul_add, Nat.div_add_mod']
  have hle : s * (rate / 1000) * 1000 / rate ≤ s := by
    apply Nat.div_le_of_le_mul
    rw [Nat.mul_comm rate]
    omega
  rw [and_iff_right (Nat.le_trans hle (Nat.le_add_right _ _)), ← Nat.sub_le_iff_le_add,
    Nat.le_div_iff_mul_le hpos, Nat.sub_mul]
  omega

/-- At 48 kHz a stamp of a day comes back as it is. -/
theorem getStampMS_within_day : StampWithin 1
    ({ (create 1 7 1500 97 48000 0 0).built [0x11] true 86400000 with sampleRate := 48000 }).getStampMS
    86400000 := by
  have h : (create 1 7 1500 97 48000 0 0).makeRtp (some [0x11]) [0x11].length true 86400000 =
      (create 1 7 1500 97 48000 1 0, some ((create 1 7 1500 97 48000 0 0).built [0x11] true 86400000)) := rfl
  exact (getStampMS_within_iff h (by decide) (by decide) 1).mpr (by decide)

/-- At 44.1 kHz a stamp of one second comes back as 997 ms. -/
theorem oneSecond_not_within : ¬ ∀ (m m' : RtpMaker) (data : List Byte) (mark : Bool)
    (stamp : BitVec 32) (rtp : RtpPacket),
    m.makeRtp (some data) data.length mark stamp = (m', some rtp) → m.sampleRate ≠ 0 →
      stamp.toNat * (m.sampleRate.toNat / 1000) < 2 ^ 32 →
        StampWithin 1 ({ rtp with sampleRate := m.sampleRate } : RtpPacket).getStampMS stamp := by
  intro hall
  have hwithin := hall (create 1 7 1500 97 44100 0 0) _ [0x11] true 1000 _ rfl (by decide) (by decide)
  revert hwithin
  decide

end RtpMaker

end WifiDisplay
