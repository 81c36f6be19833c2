import WifiDisplay.RtpDecoderH264

/-! The way of a NAL unit through `PackRtp` and a new `RtpDecoderH264`. -/

namespace WifiDisplay

namespace RtpMaker

theorem octets16_append (v : BitVec 16) :
    (v.extractLsb' 8 8 ++ v.extractLsb' 0 8 : BitVec 16) = v := by
  apply BitVec.eq_of_getLsbD_eq
  intro i hi
  rw [BitVec.getLsbD_append]
  by_cases h : i < 8
  · simp [h]
  · simp [h, show i - 8 < 8 by omega, show 8 + (i - 8) = i by omega]

theorem header_length (m : RtpMaker) (mark : Bool) (stamp : BitVec 32) :
    (m.header mark stamp).length = rtpHeaderSize := rfl

/-- What `MakeRtp` builds from a payload that fits. -/
def built (m : RtpMaker) (data : List Byte) (mark : Bool) (stamp : BitVec 32) : RtpPacket :=
  { data := m.header mark stamp ++ data, sampleRate := m.packetSampleRate }

theorem makeRtp_some (m : RtpMaker) {data : List Byte} (hpos : data ≠ [])
    (hlen : data.length ≤ 65523) (mark : Bool) (stamp : BitVec 32) :
    m.makeRtp (some data) data.length mark stamp =
      ({ m with seq := m.seq + 1 }, some (m.built data mark stamp)) := by
  have hle : ¬ data.length > maxUshort - rtpHeaderSize := by
    show ¬ data.length > 65523
    omega
  have hne : ¬ data.length = 0 := by simpa using hpos
  simp only [makeRtp, if_neg hle, if_neg hne, List.take_length, built]

theorem makeRtp_long (m : RtpMaker) {data : List Byte} (hlen : ¬ data.length ≤ 65523)
    (mark : Bool) (stamp : BitVec 32) :
    m.makeRtp (some data) data.length mark stamp = (m, none) := by
  have hgt : data.length > maxUshort - rtpHeaderSize := by
    show data.length > 65523
    omega
  simp only [makeRtp, if_pos hgt]

section Built

variable (m : RtpMaker) (data : List Byte) (mark : Bool) (stamp : BitVec 32)

theorem built_size : (m.built data mark stamp).size = 12 + data.length := by
  simp [built, RtpPacket.size, header_length, rtpHeaderSize]

theorem built_first : (m.built data mark stamp).getHeader.getD 0 0 = 0x80 := rfl

theorem built_offset (rtpSize : Nat) :
    (m.built data mark stamp).getHeader.getPayloadOffset rtpSize = 0 := by
  have hcsrc : (m.built data mark stamp).getHeader.csrc = 0 := by
    rw [RtpHeader.csrc, built_first]
    decide
  have hext : (m.built data mark stamp).getHeader.ext = false := by
    rw [RtpHeader.ext, built_first]
    decide
  simp [RtpHeader.getPayloadOffset, RtpHeader.getCsrcSize, hcsrc, hext]

theorem built_padding (rtpSize : Nat) :
    (m.built data mark stamp).getHeader.getPaddingSize rtpSize = 0 := by
  have hpadding : (m.built data mark stamp).getHeader.padding = false := by
    rw [RtpHeader.padding, built_first]
    decide
  simp [RtpHeader.getPaddingSize, hpadding]

theorem built_getPayloadSize : (m.built data mark stamp).getPayloadSize = data.length := by
  simp only [RtpPacket.getPayloadSize, RtpHeader.getPayloadSize, built_offset, built_padding,
    built_size, rtpHeaderSize]
  split <;> omega

theorem built_getPayload : (m.built data mark stamp).getPayload = data := by
  rw [RtpPacket.getPayload, RtpHeader.getPayloadData, built_offset]
  exact List.drop_left' (m.header_length mark stamp)

theorem built_getSeq : (m.built data mark stamp).getSeq = m.seq := octets16_append m.seq

end Built

end RtpMaker

namespace RtpEncoderH264

theorem packFuLoop_error (m : RtpMaker) (data : List Byte) (pts : BitVec 32)
    (isMark startBit : Bool) (packetSize offset : Nat) :
    packFuLoop m data pts isMark startBit packetSize offset = .error .nullPointer := by
  rw [packFuLoop]
  rfl

/-- The fragmenting paths write to the packet that `MakeRtp` refuses to build
without data. -/
theorem packRtpFu_error (m : RtpMaker) (data : List Byte) (pts : BitVec 32) (isMark : Bool) :
    packRtpFu m data pts isMark = .error .nullPointer := by
  simp only [packRtpFu]
  split
  · rfl
  · exact packFuLoop_error ..

end RtpEncoderH264

namespace RtpDecoderH264

theorem outputFrame_out (d : RtpDecoderH264) (frame : H264Frame) :
    ∀ f ∈ (d.outputFrame frame).2, f = frame := by
  intro f hf
  simp only [outputFrame] at hf
  split at hf <;> simp at hf
  exact hf

theorem unpackSingle_out (d : RtpDecoderH264) (ptr : List Byte) (stamp : BitVec 32) :
    ∀ f ∈ (d.unpackSingle ptr stamp).2.1, f.data = startCode ++ ptr := by
  intro f hf
  rw [outputFrame_out _ _ f hf]

theorem unpackStapA_length {d d' : RtpDecoderH264} {ptr : List Byte} {stamp : BitVec 32}
    {out : List H264Frame} {key : Bool} (h : d.unpackStapA ptr stamp = .ok (d', out, key)) :
    ∀ f ∈ out, f.data.length ≤ startCode.length + ptr.length := by
  fun_induction unpackStapA d ptr stamp generalizing d' out key with
  | case1 => simp_all
  | case2 => simp_all
  | case3 => simp_all
  | case4 d hi lo rest hrest len hlen hin d₁ out₁ key₁ hsingle =>
    rename_i ih
    obtain ⟨⟨d₂, out₂, key₂⟩, hrec, hret⟩ := bind_eq_ok.mp h
    obtain ⟨-, rfl, -⟩ : d₂ = d' ∧ out₁ ++ out₂ = out ∧ (key₁ || key₂) = key := by
      simpa [pure, Except.pure] using hret
    intro f hf
    rcases List.mem_append.mp hf with hf | hf
    · have hdata := unpackSingle_out d (rest.take len) stamp f (by rw [hsingle]; exact hf)
      rw [hdata, List.length_append, List.length_take, List.length_cons, List.length_cons]
      omega
    · have hle := ih hrec f hf
      rw [List.length_drop] at hle
      rw [List.length_cons, List.length_cons]
      omega
  | case5 => simp_all

theorem unpackFuA_length {d d' : RtpDecoderH264} (hd : d.fuDropped = true) {ptr : List Byte}
    {stamp : BitVec 32} {seq : BitVec 16} {out : List H264Frame} {key : Bool}
    (h : d.unpackFuA ptr stamp seq = .ok (d', out, key)) :
    ∀ f ∈ out, f.data.length + 1 = startCode.length + ptr.length := by
  match ptr with
  | [] => simp [unpackFuA] at h
  | [b] => simp [unpackFuA] at h
  | indicator :: flags :: rest =>
    simp only [unpackFuA] at h
    cases hstart : flags.getLsbD 7 with
    | false => simp_all
    | true =>
      simp only [hstart, if_true, Bool.false_eq_true, if_false, not_true, false_and] at h
      split at h
      · simp only [Except.ok.injEq, Prod.mk.injEq] at h
        simp [h.2.1.symm]
      · simp only [Except.ok.injEq, Prod.mk.injEq] at h
        intro f hf
        rw [← h.2.1] at hf
        rw [outputFrame_out _ _ f hf]
        simp only [List.length_append, List.length_cons, List.length_nil]
        omega

theorem unpack_single {d : RtpDecoderH264} (hd : d.gopDropped = false) {payload : List Byte}
    (htype : h264Type (payload.getD 0 0) < 24) (stamp : BitVec 32) (seq : BitVec 16) :
    ∃ d' frame key, d.unpack payload stamp seq = .ok (d', [frame], key) ∧
      frame.data = startCode ++ payload := by
  have h24 : h264Type (payload.getD 0 0) ≠ 24 := by omega
  have h28 : h264Type (payload.getD 0 0) ≠ 28 := by omega
  simp only [unpack, if_neg h24, if_neg h28, if_pos htype, unpackSingle, outputFrame, hd]
  exact ⟨_, _, _, rfl, rfl⟩

theorem unpack_other {d d' : RtpDecoderH264} (hd : d.fuDropped = true) {payload : List Byte}
    (hne : payload ≠ []) (htype : ¬ h264Type (payload.getD 0 0) < 24) {stamp : BitVec 32}
    {seq : BitVec 16} {out : List H264Frame} {key : Bool}
    (h : d.unpack payload stamp seq = .ok (d', out, key)) :
    ∀ f ∈ out, f.data ≠ startCode ++ payload := by
  intro f hf hdata
  have hlength := congrArg List.length hdata
  rw [List.length_append] at hlength
  have hpos : 0 < payload.length := List.length_pos_iff.mpr hne
  simp only [unpack, if_neg htype] at h
  split at h
  · have := unpackStapA_length h f hf
    rw [List.length_drop] at this
    omega
  · split at h
    · have := unpackFuA_length hd h f hf
      omega
    · simp only [Except.ok.injEq, Prod.mk.injEq] at h
      simp [← h.2.1] at hf

end RtpDecoderH264

open RtpEncoderH264

/-- The packets of the NAL unit carry consecutive sequence numbers, no payload is
over the maximum, and a new decoder makes one frame of them: the NAL unit
behind a start code. -/
def RoundTrips (m : RtpMaker) (nal : List Byte) (pts : BitVec 32) (isMark : Bool) : Prop :=
  ∃ (m' : RtpMaker) (rtps : List RtpPacket), packRtp m nal pts isMark = .ok (m', rtps.map some) ∧
    (∀ p ∈ rtps, p.getPayloadSize ≤ m.getMaxSize) ∧
    rtps.map RtpPacket.getSeq = (List.range rtps.length).map (fun i => m.seq + BitVec.ofNat 16 i) ∧
    ∃ d frame, ({} : RtpDecoderH264).inputAll (rtps.map some) = .ok (d, [frame]) ∧
      frame.data = startCode ++ nal

theorem packRtp_single (m : RtpMaker) {nal : List Byte} (hne : nal ≠ [])
    (hmax : nal.length ≤ m.getMaxSize) (hlen : nal.length ≤ 65523) (pts : BitVec 32)
    (isMark : Bool) :
    packRtp m nal pts isMark =
      .ok ({ m with seq := m.seq + 1 }, [some (m.built nal isMark pts)]) := by
  simp only [packRtp, if_pos hmax, packSingle, m.makeRtp_some hne hlen]

theorem inputAll_built (m : RtpMaker) {nal : List Byte} (hne : nal ≠ []) (isMark : Bool)
    (pts : BitVec 32) (d : RtpDecoderH264) (out : List H264Frame) :
    (∃ d', d.inputAll [some (m.built nal isMark pts)] = .ok (d', out)) ↔
      ∃ d' key, d.unpack nal (m.built nal isMark pts).getStampMS m.seq = .ok (d', out, key) := by
  have hpayload : (m.built nal isMark pts).getPayload.take
      (m.built nal isMark pts).getPayloadSize = nal := by
    rw [RtpMaker.built_getPayload, RtpMaker.built_getPayloadSize, List.take_length]
  simp only [RtpDecoderH264.inputAll, RtpDecoderH264.inputRtp, hpayload, if_neg hne,
    RtpMaker.built_getSeq]
  cases d.unpack nal (m.built nal isMark pts).getStampMS m.seq with
  | error e => simp [bind, Except.bind]
  | ok r =>
    obtain ⟨d₁, out', key⟩ := r
    simp only [bind, Except.bind, pure, Except.pure, List.append_nil, Except.ok.injEq,
      Prod.mk.injEq]
    constructor
    · rintro ⟨d', -, hout⟩
      exact ⟨d₁, key, rfl, hout, rfl⟩
    · rintro ⟨d', key', -, hout, -⟩
      exact ⟨_, rfl, hout⟩

/-- The round trip works exactly for the NAL units that go into one packet
unchanged. -/
theorem roundTrips_iff (m : RtpMaker) (b : Byte) (rest : List Byte) (pts : BitVec 32)
    (isMark : Bool) :
    RoundTrips m (b :: rest) pts isMark ↔
      (b :: rest).length ≤ m.getMaxSize ∧ (b :: rest).length ≤ 65523 ∧ h264Type b < 24 := by
  have hne : b :: rest ≠ [] := List.cons_ne_nil b rest
  constructor
  · rintro ⟨m', rtps, hpack, -, -, d, frame, hall, hdata⟩
    have hmax : (b :: rest).length ≤ m.getMaxSize := by
      by_contra hgt
      rw [packRtp, if_neg hgt, packRtpFu_error] at hpack
      cases hpack
    have hlen : (b :: rest).length ≤ 65523 := by
      by_contra hgt
      rw [packRtp, if_pos hmax, packSingle, m.makeRtp_long hgt] at hpack
      simp only [Except.ok.injEq, Prod.mk.injEq] at hpack
      have hnull : none ∈ rtps.map some := hpack.2 ▸ List.mem_singleton_self none
      simp at hnull
    refine ⟨hmax, hlen, ?_⟩
    rw [packRtp_single m hne hmax hlen] at hpack
    simp only [Except.ok.injEq, Prod.mk.injEq] at hpack
    rw [← hpack.2] at hall
    obtain ⟨d', key, hunpack⟩ := (inputAll_built m hne isMark pts _ _).mp ⟨d, hall⟩
    by_contra htype
    exact RtpDecoderH264.unpack_other rfl hne htype hunpack frame (List.mem_singleton_self _) hdata
  · rintro ⟨hmax, hlen, htype⟩
    have htype' : h264Type ((b :: rest).getD 0 0) < 24 := htype
    have hfresh : ({} : RtpDecoderH264).gopDropped = false := rfl
    obtain ⟨d', frame, key, hunpack, hdata⟩ := RtpDecoderH264.unpack_single hfresh htype'
      (m.built (b :: rest) isMark pts).getStampMS m.seq
    obtain ⟨d, hall⟩ := (inputAll_built m hne isMark pts _ _).mpr ⟨d', key, hunpack⟩
    refine ⟨_, [m.built (b :: rest) isMark pts], packRtp_single m hne hmax hlen pts isMark,
      ?_, ?_, d, frame, hall, hdata⟩
    · simpa [RtpMaker.built_getPayloadSize] using hmax
    · simp [RtpMaker.built_getSeq]

/-- MTU 20 leaves 8 bytes of payload: a coded slice of 9 bytes would need two
fragments. -/
theorem packRtp_fragments_not_roundTrips :
    ¬ ∀ (m : RtpMaker) (b : Byte) (rest : List Byte) (pts : BitVec 32) (isMark : Bool),
      RoundTrips m (b :: rest) pts isMark := by
  intro h
  let m := RtpMaker.create 7 1 20 96 90000 0 0
  obtain ⟨m', rtps, hpack, -⟩ := h m 0x41 [1, 2, 3, 4, 5, 6, 7, 8] 0 true
  have hmax : ¬ [(0x41 : Byte), 1, 2, 3, 4, 5, 6, 7, 8].length ≤ m.getMaxSize := by decide
  rw [packRtp, if_neg hmax, packRtpFu_error] at hpack
  cases hpack

end WifiDisplay
