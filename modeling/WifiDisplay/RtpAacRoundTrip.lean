import WifiDisplay.RtpAac
import WifiDisplay.RtpH264RoundTrip

/-! The way of an access unit through `RtpEncoderAAC` and a new `RtpDecoderAAC`. -/

namespace WifiDisplay

/-- Two digits for each byte, in either case. -/
def HexText : List Char → List Byte → Prop
  | [], [] => True
  | c₁ :: c₂ :: t, b :: bs => InputStream.digitValue c₁ = some (b.toNat / 16) ∧
      InputStream.digitValue c₂ = some (b.toNat % 16) ∧ HexText t bs
  | _, _ => False

/-- A raw access unit that `FlushData` takes for one with an ADTS header, or whose second
byte it looks for in vain. -/
def LooksLikeAdts (unit : List Byte) : Prop :=
  unit.getD 0 0 = 0xFF ∧
    (unit.length = 1 ∨ unit.getD 1 0 &&& 0xF0 = 0xF0 ∧ unit.length > adtsHeaderLen)

instance (unit : List Byte) : Decidable (LooksLikeAdts unit) := inferInstanceAs (Decidable (_ ∧ _))

/-- The decoder makes exactly one frame of the packets: the access unit behind a header for
its configuration and length. -/
def AacRoundTrips (m : RtpMaker) (text : List Char) (cfg : BitVec 32) (config : AudioSpecificConfig)
    (adts unit : List Byte) (dts : BitVec 32) : Prop :=
  ∃ d frame, (RtpDecoderAAC.create text cfg).inputAll
      (RtpEncoderAAC.inputFrame m
        (some { data := adts ++ unit, dts, prefixSize := adts.length })).2 = .ok (d, [frame]) ∧
    DescribesAac (frame.data.take frame.prefixSize) config unit.length ∧
    frame.data.drop frame.prefixSize = unit

namespace RtpEncoderAAC

theorem sectionBuf_length (len : Nat) (chunk : List Byte) :
    (sectionBuf len chunk).length = chunk.length + 4 := by
  rw [sectionBuf, List.length_append, Nat.add_comm]
  rfl

theorem makeAACRtp_eq (m : RtpMaker) {len : Nat} {chunk : List Byte}
    (hroom : chunk.length ≤ sectionRoom) (mark : Bool) (stamp : BitVec 32) :
    makeAACRtp m (sectionBuf len chunk) mark stamp =
      ({ m with seq := m.seq + 1 }, [m.built (sectionBuf len chunk) mark stamp]) := by
  have hlen : (sectionBuf len chunk).length ≤ 65523 := by
    rw [sectionBuf_length]
    rw [sectionRoom] at hroom
    omega
  have hne : sectionBuf len chunk ≠ [] := by simp [sectionBuf]
  simp only [makeAACRtp, m.makeRtp_some hne hlen, Option.toList]

/-- Packets that each carry less than the length in their AU header. -/
def Fragment (len : Nat) (stamp : BitVec 32) (rtp : RtpPacket) : Prop :=
  ∃ (m : RtpMaker) (chunk : List Byte) (mark : Bool), chunk.length < len ∧
    rtp = m.built (sectionBuf len chunk) mark stamp

/-- A unit over the maximum size is cut, and each part gets the length of the whole. -/
theorem packLoop_fragments {m : RtpMaker} {len maxSize : Nat} {stamp : BitVec 32}
    {h : maxSize ≠ 0} (hroom : maxSize ≤ sectionRoom) (hlong : maxSize < len) {data : List Byte} :
    ∀ rtp ∈ (packLoop m len stamp maxSize h data).2, Fragment len stamp rtp := by
  fun_induction packLoop m len stamp maxSize h data with
  | case1 => simp
  | case2 m data hne hfits =>
    intro rtp hrtp
    rw [makeAACRtp_eq m (hfits.trans hroom), List.mem_singleton] at hrtp
    exact ⟨m, data, true, by omega, hrtp⟩
  | case3 m data hne hfits m₁ out₁ hfirst m₂ out₂ hrest ih =>
    intro rtp hrtp
    have htake : (data.take maxSize).length = maxSize := by
      rw [List.length_take]
      omega
    rcases List.mem_append.mp hrtp with hrtp | hrtp
    · rw [makeAACRtp_eq m (by omega)] at hfirst
      cases hfirst
      rw [List.mem_singleton] at hrtp
      exact ⟨m, data.take maxSize, false, by omega, hrtp⟩
    · rw [hrest] at ih
      exact ih rtp hrtp

theorem packLoop_single (m : RtpMaker) {maxSize : Nat} (h : maxSize ≠ 0)
    (hroom : maxSize ≤ sectionRoom) (stamp : BitVec 32) {unit : List Byte} (hne : unit ≠ [])
    (hfits : unit.length ≤ maxSize) :
    (packLoop m unit.length stamp maxSize h unit).2 =
      [m.built (sectionBuf unit.length unit) true stamp] := by
  rw [packLoop, if_neg hne, if_pos hfits, makeAACRtp_eq m (hfits.trans hroom)]

theorem inputFrame_eq {m : RtpMaker} {unit : List Byte} (hm : Accepts m) (hne : unit ≠ [])
    (adts : List Byte) (dts : BitVec 32) :
    inputFrame m (some { data := adts ++ unit, dts, prefixSize := adts.length }) =
      packLoop m unit.length dts (maxSize m) hm.1 unit := by
  have hpos := List.length_pos_iff.mpr hne
  have hsize : ¬ ((adts ++ unit).length = 0 ∨ (adts ++ unit).length < adts.length) := by
    rw [List.length_append]
    omega
  simp only [inputFrame, if_neg hsize, dif_pos hm, List.drop_left]

end RtpEncoderAAC

namespace RtpDecoderAAC

open RtpEncoderAAC InputStream

theorem isDigit_of_value {c : Char} {v : Nat} (h : digitValue c = some v) (hv : v < 16) :
    isDigit 16 c = true := by
  rw [isDigit, h]
  exact decide_eq_true hv

theorem scanByte_digits {c₁ c₂ : Char} {b : Byte} (h₁ : digitValue c₁ = some (b.toNat / 16))
    (h₂ : digitValue c₂ = some (b.toNat % 16)) (cfg : BitVec 32) : scanByte c₁ c₂ cfg = b := by
  have hlt := b.isLt
  have hd₁ : isDigit 16 c₁ = true := isDigit_of_value h₁ (by omega)
  have hd₂ : isDigit 16 c₂ = true := isDigit_of_value h₂ (by omega)
  have hskip : [c₁, c₂].dropWhile isBlank = [c₁, c₂] :=
    List.dropWhile_cons_of_neg (by simp [not_blank_of_isDigit hd₁])
  have hsign : sign [c₁, c₂] = (false, [c₁, c₂]) := by
    rw [sign]
    · intro u heq
      rw [(List.cons.inj heq).1] at hd₁
      exact absurd hd₁ (by decide)
    · intro u heq
      rw [(List.cons.inj heq).1] at hd₁
      exact absurd hd₁ (by decide)
  have hprefix : afterPrefix 16 [c₁, c₂] = [c₁, c₂] := by
    rw [afterPrefix, if_pos rfl]
    · intro u heq
      rw [(List.cons.inj (List.cons.inj heq).2).1] at hd₂
      exact absurd hd₂ (by decide)
    · intro u heq
      rw [(List.cons.inj (List.cons.inj heq).2).1] at hd₂
      exact absurd hd₂ (by decide)
  have hvalue : magnitude 16 [c₁, c₂] = b.toNat := by
    simp only [magnitude, List.foldl_cons, List.foldl_nil, h₁, h₂, Option.getD_some]
    omega
  have hnumber : number hex32 ⟨[c₁, c₂], false⟩ 0 = ((b.toNat : Int), ⟨[], false⟩) := by
    simp only [number, Bool.false_eq_true, if_false, hskip, hsign, hex32, hprefix,
      List.takeWhile_cons_of_pos hd₁, List.takeWhile_cons_of_pos hd₂, List.takeWhile_nil,
      List.dropWhile_cons_of_pos hd₁, List.dropWhile_cons_of_pos hd₂, List.dropWhile_nil, hvalue]
    rw [if_neg (List.cons_ne_nil _ _), if_neg (List.cons_ne_nil _ _), NumberFormat.value, if_pos rfl,
      if_neg (by simp; omega)]
    rfl
  rw [scanByte, hnumber]
  apply BitVec.eq_of_toNat_eq
  simp

theorem create_hexText {text : List Char} {config : List Byte} (h : HexText text config)
    (cfg : BitVec 32) : (create text cfg).aacConfig = config := by
  show create.bytes cfg text = config
  fun_induction HexText text config with
  | case1 => rfl
  | case2 c₁ c₂ t b bs ih =>
    rw [create.bytes, scanByte_digits h.1 h.2.1, ih h.2.2]
  | case3 => cases h

theorem auSize {len : Nat} (h : len < 8192) :
    (BitVec.ofNat 8 (len >>> 5) ++ BitVec.ofNat 8 ((len % 32) <<< 3) : BitVec 16).toNat / 8 =
      len := by
  rw [BitVec.toNat_append, BitVec.toNat_ofNat, BitVec.toNat_ofNat,
    ← Nat.shiftLeft_add_eq_or_of_lt (Nat.mod_lt _ (by decide)), Nat.shiftRight_eq_div_pow,
    Nat.shiftLeft_eq, Nat.shiftLeft_eq]
  omega

theorem auLoop_section (d : RtpDecoderAAC) (dtsInc : BitVec 32) {len : Nat} (hlen : len < 8192)
    (chunk : List Byte) :
    d.auLoop dtsInc ((sectionBuf len chunk).drop 2) ((sectionBuf len chunk).drop (2 + 1 * 2)) 0 1 =
      if len > chunk.length ∨ len = 0 then .ok []
      else d.flushData { data := chunk.take len, dts := d.lastDts } := by
  have hsize : (((sectionBuf len chunk).drop 2).getD 0 0 ++
      ((sectionBuf len chunk).drop 2).getD 1 0 : BitVec 16).toNat / 8 = len := auSize hlen
  have hdata : (sectionBuf len chunk).drop (2 + 1 * 2) = chunk := rfl
  rw [auLoop, hsize, hdata]
  by_cases hshort : len > chunk.length
  · simp only [if_pos hshort, if_pos (Or.inl hshort)]
  · by_cases hzero : len = 0
    · simp only [if_neg hshort, if_pos hzero, if_pos (Or.inr hzero), auLoop]
    · have hwhole : ¬ (len > chunk.length ∨ len = 0) := by omega
      simp only [if_neg hshort, if_neg hzero, if_neg hwhole, auLoop]
      have hdts : d.lastDts + BitVec.ofNat 32 0 * dtsInc = d.lastDts := by simp
      rw [hdts]
      cases d.flushData { data := chunk.take len, dts := d.lastDts } with
      | error e => rfl
      | ok out => simp [bind, Except.bind, pure, Except.pure]

theorem inputRtp_section (d : RtpDecoderAAC) (m : RtpMaker) {len : Nat} (hlen : len < 8192)
    (chunk : List Byte) (mark : Bool) (stamp : BitVec 32) :
    ∃ d₁ d₂ : RtpDecoderAAC, d₁.aacConfig = d.aacConfig ∧ d₂.aacConfig = d.aacConfig ∧
      d.inputRtp (some (m.built (sectionBuf len chunk) mark stamp)) =
        (if len > chunk.length ∨ len = 0 then .ok []
          else d₁.flushData { data := chunk.take len, dts := d₁.lastDts }).map fun out => (d₂, out) := by
  have hpayload : (m.built (sectionBuf len chunk) mark stamp).getPayload.take
      (m.built (sectionBuf len chunk) mark stamp).getPayloadSize = sectionBuf len chunk := by
    rw [RtpMaker.built_getPayload, RtpMaker.built_getPayloadSize, List.take_length]
  have hcount : ((sectionBuf len chunk).getD 0 0 ++ (sectionBuf len chunk).getD 1 0 :
      BitVec 16).toNat / 16 = 1 := by
    show ((0 : Byte) ++ (16 : Byte) : BitVec 16).toNat / 16 = 1
    decide
  have hlong : ¬ (sectionBuf len chunk).length < 2 := by
    rw [sectionBuf_length]
    omega
  have hheaders : ¬ (sectionBuf len chunk).length < 2 + 1 * 2 := by
    rw [sectionBuf_length]
    omega
  set now := (m.built (sectionBuf len chunk) mark stamp).getStampMS
  set d₁ := if d.lastDts = 0 then { d with lastDts := now } else d with hd₁
  have hconfig : d₁.aacConfig = d.aacConfig := by
    rw [hd₁]
    split <;> rfl
  refine ⟨d₁, { d₁ with lastDts := now }, hconfig, hconfig, ?_⟩
  simp only [inputRtp, hpayload, hcount, if_neg hlong, if_neg hheaders, one_ne_zero, if_false]
  rw [← hd₁, auLoop_section d₁ _ hlen chunk]
  split
  · rfl
  · cases d₁.flushData { data := chunk.take len, dts := d₁.lastDts } with
    | error e => rfl
    | ok out => rfl

theorem scanFrames_whole {header unit : List Byte} (hsize : header.length = 7)
    (hfirst : header.getD 0 0 = 0xFF) (hsecond : header.getD 1 0 &&& 0xF0 = 0xF0)
    (hlen : (header.getD 3 0).toNat % 4 * 2048 + (header.getD 4 0).toNat * 8 +
      (header.getD 5 0).toNat / 32 = 7 + unit.length) (fuel : Nat) :
    scanFrames (header ++ unit) (fuel + 1) 0 = .ok true := by
  have hget (i : Nat) (hi : i < 7) : (header ++ unit).getD i 0 = header.getD i 0 := by
    rw [List.getD_eq_getElem?_getD, List.getElem?_append_left (by omega),
      ← List.getD_eq_getElem?_getD]
  have hall : (header ++ unit).length = 7 + unit.length := by rw [List.length_append, hsize]
  have hframe : AdtsHeader.getAacFrameLength (header ++ unit) = some (7 + unit.length) := by
    rw [AdtsHeader.getAacFrameLength_eq (by omega) (by rw [hget 0 (by omega), hfirst])
      (by rw [hget 1 (by omega), hsecond]), hget 3 (by omega), hget 4 (by omega),
      hget 5 (by omega), hlen]
  rw [scanFrames, if_neg (by omega), List.drop_zero, hframe]
  simp only [hall, if_true]
  rw [if_neg (by rw [adtsHeaderLen]; omega)]

theorem flushData_plain {d : RtpDecoderAAC} {asc : AudioSpecificConfig}
    (hconfig : AudioSpecificConfig.read d.aacConfig = some asc) {unit : List Byte} (hne : unit ≠ [])
    (hlen : unit.length ≤ 8184) (hraw : ¬ LooksLikeAdts unit) (dts : BitVec 32) :
    ∃ header, header.length = 7 ∧ (DescribesAac header asc unit.length ↔ asc.FitsAdts) ∧
      d.flushData { data := unit, dts } =
        .ok [{ data := header ++ unit, dts, prefixSize := adtsHeaderLen }] := by
  obtain ⟨header, hdump, hsize, hfirst, hsecond, hframe, hiff⟩ :=
    AdtsHeader.dumpAacConfig_spec hconfig hlen
  refine ⟨header, hsize, hiff, ?_⟩
  have hdumped : (do
      let header ← (AdtsHeader.dumpAacConfig d.aacConfig unit.length).mapError AacFailure.fault
      inputFrame { data := header ++ unit, dts, prefixSize := adtsHeaderLen }) =
      .ok [{ data := header ++ unit, dts, prefixSize := adtsHeaderLen }] := by
    rw [hdump]
    show inputFrame { data := header ++ unit, dts, prefixSize := adtsHeaderLen } = _
    have hpos : ¬ adtsHeaderLen = 0 := by decide
    simp only [inputFrame, if_neg hpos]
    rw [scanFrames_whole hsize hfirst hsecond hframe]
    rfl
  match unit with
  | [] => exact absurd rfl hne
  | b :: rest =>
    by_cases hb : b = 0xFF
    · match rest with
      | [] => exact absurd ⟨hb, .inl rfl⟩ hraw
      | b' :: rest =>
        have hnot : ¬ (b' &&& 0xF0 = 0xF0 ∧ (b :: b' :: rest).length > adtsHeaderLen) :=
          fun h => hraw ⟨hb, .inr h⟩
        simp only [flushData, if_pos hb, if_neg hnot]
        exact hdumped
    · simp only [flushData, if_neg hb]
      exact hdumped

theorem inputFrame_out {frame : FrameImpl} {out : List FrameImpl}
    (h : inputFrame frame = .ok out) : out = [] ∨ out = [frame] := by
  rw [inputFrame] at h
  split at h
  · cases h
    exact Or.inl rfl
  · cases hscan : scanFrames frame.data (frame.data.length + 1) 0 with
    | error e =>
      rw [hscan] at h
      cases h
    | ok found =>
      rw [hscan] at h
      cases h
      cases found with
      | false => exact Or.inl rfl
      | true => exact Or.inr rfl

/-- What `FlushData` takes for a unit with a header comes out as it is, if at all. -/
theorem flushData_adts {d : RtpDecoderAAC} {unit : List Byte} (hadts : LooksLikeAdts unit)
    {dts : BitVec 32} {out : List FrameImpl} (h : d.flushData { data := unit, dts } = .ok out) :
    ∀ f ∈ out, f.data.drop f.prefixSize ≠ unit := by
  obtain ⟨hb, hrest⟩ := hadts
  match unit with
  | [] => cases h
  | b :: rest =>
    have hfirst : b = 0xFF := hb
    match rest with
    | [] =>
      simp only [flushData] at h
      rw [if_pos hfirst] at h
      cases h
    | b' :: rest =>
      have hlook : b' &&& 0xF0 = 0xF0 ∧ (b :: b' :: rest).length > adtsHeaderLen := by
        rcases hrest with hone | hlook
        · simp at hone
        · exact hlook
      simp only [flushData] at h
      rw [if_pos hfirst, if_pos hlook] at h
      intro f hf hdrop
      have hout : f = { data := b :: b' :: rest, dts, prefixSize := adtsHeaderLen } := by
        rcases inputFrame_out h with rfl | rfl
        · cases hf
        · exact List.mem_singleton.mp hf
      rw [hout] at hdrop
      have hlength := congrArg List.length hdrop
      rw [List.length_drop] at hlength
      have hpos : 0 < adtsHeaderLen := by decide
      have := hlook.2
      dsimp only at hlength
      omega

theorem inputAll_fragments {len : Nat} (hlen : len < 8192) {stamp : BitVec 32}
    {rtps : List RtpPacket} (h : ∀ rtp ∈ rtps, Fragment len stamp rtp) (d : RtpDecoderAAC) :
    ∃ d', d.inputAll rtps = .ok (d', []) := by
  induction rtps generalizing d with
  | nil => exact ⟨d, rfl⟩
  | cons rtp rtps ih =>
    obtain ⟨m, chunk, mark, hchunk, rfl⟩ := h rtp List.mem_cons_self
    obtain ⟨d₁, d₂, -, -, hinput⟩ := inputRtp_section d m hlen chunk mark stamp
    obtain ⟨d', hrest⟩ := ih (fun p hp => h p (List.mem_cons_of_mem _ hp)) d₂
    rw [if_pos (.inl hchunk)] at hinput
    refine ⟨d', ?_⟩
    rw [inputAll, hinput]
    simp only [Except.map, bind, Except.bind, hrest, pure, Except.pure, List.append_nil]

theorem inputAll_single {d : RtpDecoderAAC} {m : RtpMaker} {unit : List Byte} (hne : unit ≠ [])
    (hlen : unit.length ≤ 8184) (mark : Bool) (stamp : BitVec 32) :
    ∃ d₁ d₂ : RtpDecoderAAC, d₁.aacConfig = d.aacConfig ∧
      d.inputAll [m.built (sectionBuf unit.length unit) mark stamp] =
        (d₁.flushData { data := unit, dts := d₁.lastDts }).map fun out => (d₂, out) := by
  obtain ⟨d₁, d₂, hconfig, -, hinput⟩ :=
    inputRtp_section d m (show unit.length < 8192 by omega) unit mark stamp
  have hpos := List.length_pos_iff.mpr hne
  rw [if_neg (by omega), List.take_length] at hinput
  refine ⟨d₁, d₂, hconfig, ?_⟩
  rw [inputAll, hinput]
  cases d₁.flushData { data := unit, dts := d₁.lastDts } with
  | error e => rfl
  | ok out =>
    simp only [Except.map, bind, Except.bind, inputAll, pure, Except.pure, List.append_nil]

end RtpDecoderAAC

open RtpEncoderAAC in
/-- The round trip works exactly for the units that go into one packet, do not look like
a unit with a header, and have a configuration that an ADTS header can describe. -/
theorem aacRoundTrips_iff {m : RtpMaker} (hm : Accepts m) {text : List Char} {config : List Byte}
    (htext : HexText text config) {asc : AudioSpecificConfig}
    (hconfig : AudioSpecificConfig.read config = some asc) {unit : List Byte} (hne : unit ≠ [])
    (hlen : unit.length ≤ 8184) (adts : List Byte) (cfg dts : BitVec 32) :
    AacRoundTrips m text cfg asc adts unit dts ↔
      unit.length ≤ maxSize m ∧ ¬ LooksLikeAdts unit ∧ asc.FitsAdts := by
  have hcreate := RtpDecoderAAC.create_hexText htext cfg
  rw [AacRoundTrips, inputFrame_eq hm hne]
  by_cases hfits : unit.length ≤ maxSize m
  · rw [packLoop_single m hm.1 hm.2 dts hne hfits]
    obtain ⟨d₁, d₂, hsame, hall⟩ := RtpDecoderAAC.inputAll_single
      (d := RtpDecoderAAC.create text cfg) (m := m) hne hlen true dts
    rw [hall]
    by_cases hadts : LooksLikeAdts unit
    · constructor
      · rintro ⟨d, frame, hout, -, hdrop⟩
        cases hflush : d₁.flushData { data := unit, dts := d₁.lastDts } with
        | error e =>
          rw [hflush] at hout
          cases hout
        | ok out =>
          rw [hflush] at hout
          cases hout
          exact absurd hdrop
            (RtpDecoderAAC.flushData_adts hadts hflush frame (List.mem_singleton_self frame))
      · rintro ⟨-, hraw, -⟩
        exact absurd hadts hraw
    · have hread : AudioSpecificConfig.read d₁.aacConfig = some asc := by
        rw [hsame, hcreate, hconfig]
      obtain ⟨header, hsize, hiff, hflush⟩ :=
        RtpDecoderAAC.flushData_plain hread hne hlen hadts d₁.lastDts
      have htake : (header ++ unit).take adtsHeaderLen = header := List.take_left' hsize
      have hdrop : (header ++ unit).drop adtsHeaderLen = unit := List.drop_left' hsize
      rw [hflush]
      constructor
      · rintro ⟨d, frame, hout, hdescribes, -⟩
        cases hout
        dsimp only at hdescribes
        rw [htake] at hdescribes
        exact ⟨hfits, hadts, hiff.mp hdescribes⟩
      · rintro ⟨-, -, hasc⟩
        refine ⟨d₂, _, rfl, ?_, hdrop⟩
        dsimp only
        rw [htake]
        exact hiff.mpr hasc
  · constructor
    · rintro ⟨d, frame, hout, -⟩
      have hparts : ∀ rtp ∈ (packLoop m unit.length dts (maxSize m) hm.1 unit).2,
          Fragment unit.length dts rtp := packLoop_fragments hm.2 (by omega)
      obtain ⟨d', hnone⟩ := RtpDecoderAAC.inputAll_fragments (show unit.length < 8192 by omega)
        hparts (RtpDecoderAAC.create text cfg)
      rw [hnone] at hout
      cases hout
    · rintro ⟨hle, -⟩
      exact absurd hle hfits

open RtpEncoderAAC in
/-- MTU 20 leaves four bytes in a packet: five bytes go into two of them, and both say five. -/
theorem fiveBytes_not_aacRoundTrips :
    ¬ ∀ (m : RtpMaker) (text : List Char) (config : List Byte) (asc : AudioSpecificConfig)
      (unit adts : List Byte) (cfg dts : BitVec 32), Accepts m → HexText text config →
      AudioSpecificConfig.read config = some asc → unit ≠ [] → unit.length ≤ 8184 →
      AacRoundTrips m text cfg asc adts unit dts := by
  intro h
  let m := RtpMaker.create 7 1 20 97 48000 0 0
  have hm : Accepts m := by decide
  have hsize : maxSize m = 4 := by decide
  obtain ⟨d, frame, hout, -⟩ := h m ['1', '2', '1', '0'] [0x12, 0x10]
    { audioObjectType := 2, samplingFrequencyIndex := 4, samplingFrequency := none,
      channelConfiguration := 2 } [0x21, 0x10, 0x05, 0x20, 0xA4]
    [0xFF, 0xF1, 0x50, 0x80, 0x01, 0x9F, 0xFC] 0 0 hm ⟨rfl, rfl, rfl, rfl, trivial⟩ (by decide)
    (List.cons_ne_nil _ _) (by decide)
  rw [inputFrame_eq hm (List.cons_ne_nil _ _)] at hout
  have hparts : ∀ rtp ∈ (packLoop m 5 0 (maxSize m) hm.1 [0x21, 0x10, 0x05, 0x20, 0xA4]).2,
      Fragment 5 0 rtp := packLoop_fragments hm.2 (by omega)
  obtain ⟨d', hnone⟩ := RtpDecoderAAC.inputAll_fragments (by decide) hparts
    (RtpDecoderAAC.create ['1', '2', '1', '0'] 0)
  rw [show [(0x21 : Byte), 0x10, 0x05, 0x20, 0xA4].length = 5 from rfl, hnone] at hout
  cases hout

/-- The same bytes in one packet. -/
theorem aacRoundTrips_fiveBytes :
    AacRoundTrips (RtpMaker.create 7 1 1400 97 48000 0 0) ['1', '2', '1', '0'] 0
      { audioObjectType := 2, samplingFrequencyIndex := 4, samplingFrequency := none,
        channelConfiguration := 2 } [0xFF, 0xF1, 0x50, 0x80, 0x01, 0x9F, 0xFC]
      [0x21, 0x10, 0x05, 0x20, 0xA4] 0 :=
  (aacRoundTrips_iff (by decide)
    (show HexText ['1', '2', '1', '0'] [0x12, 0x10] from ⟨rfl, rfl, rfl, rfl, trivial⟩) (by decide)
    (List.cons_ne_nil _ _) (by decide) _ _ _).mpr ⟨by decide, by decide, by decide⟩

end WifiDisplay
