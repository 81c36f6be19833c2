import WifiDisplay.RtpMediaPath

/-! The way of the payload formats in which one packet carries one unit: H.264 and G.711. -/

namespace WifiDisplay

open RtpUnpackImpl RtpPacketSortor RtpEncoderH264 RtpMaker

variable {δ F : Type} {demux : δ → List Byte → δ × List F} {x₀ : δ} {cfg : BitVec 32}

theorem decodeAll_cons {σ : Type} {D : RtpDecoders σ F} {decoder decoder' : σ} {rtp : RtpPacket} {frames : List F}
    (h : D.inputRtp decoder rtp = (decoder', frames)) (rtps : List RtpPacket) :
    (decodeAll D decoder (rtp :: rtps)).2 = frames ++ (decodeAll D decoder' rtps).2 := by
  simp only [decodeAll, h]

namespace RtpMaker

/-- A clock of whole ticks in a millisecond, before it has gone round. -/
structure Exact (m : RtpMaker) (pts : BitVec 32) : Prop where
  rate : m.sampleRate ≠ 0
  whole : 1000 ∣ m.sampleRate.toNat
  early : pts.toNat * (m.sampleRate.toNat / 1000) < 2 ^ 32

theorem stampMS_built {m : RtpMaker} {pts : BitVec 32} (h : Exact m pts) (data : List Byte) (mark : Bool)
    (type : TrackType) : RtpPacket.getStampMS
      { data := (m.built data mark pts).data, sampleRate := m.sampleRate, type } = pts := by
  have hstamp : RtpPacket.getStamp { data := (m.built data mark pts).data, sampleRate := m.sampleRate, type } =
      m.scaledStamp pts := built_getStamp m data mark pts
  obtain ⟨k, hk⟩ := h.whole
  have hdiv : m.sampleRate.toNat / 1000 = k := by omega
  have hearly := h.early
  have hpos : 0 < k := by
    rcases Nat.eq_zero_or_pos k with rfl | hpos
    · exact absurd (BitVec.eq_of_toNat_eq (by simpa using hk)) h.rate
    · exact hpos
  rw [RtpPacket.getStampMS, if_neg h.rate, hstamp, scaledStamp, BitVec.toNat_ofNat, hdiv]
  rw [hdiv] at hearly
  rw [Nat.mod_eq_of_lt hearly, hk, Nat.mul_assoc, Nat.mul_comm k 1000, Nat.mul_div_cancel _ (by omega),
    BitVec.ofNat_toNat, BitVec.setWidth_eq]

end RtpMaker

/-! H.264. -/

namespace RtpDecoderH264

/-- Nothing has been lost so far, and the next packet continues the last one. -/
structure Follows (d : RtpDecoderH264) (seq : BitVec 16) : Prop where
  kept : d.gopDropped = false
  frame : d.frame = obtainFrame
  next : d.lastSeq = 0 ∨ d.lastSeq + 1 = seq

theorem inputRtp_single {d : RtpDecoderH264} {m : RtpMaker} (hd : d.Follows m.seq) {nal : List Byte}
    (hnal : nal ≠ []) (htype : h264Type (nal.getD 0 0) < 24) (mark : Bool) {pts : BitVec 32}
    (hexact : Exact m pts) (type : TrackType) :
    ∃ d' : RtpDecoderH264, d'.Follows (m.seq + 1) ∧
      d.inputRtp (some { data := (m.built nal mark pts).data, sampleRate := m.sampleRate, type }) =
        .ok (d', [{ data := startCode ++ nal, prefixSize := 4, pts := pts.setWidth 64 }]) := by
  obtain ⟨fuDropped, gopDropped, lastSeq, frame⟩ := d
  obtain ⟨rfl, rfl, hnext⟩ := hd
  have hpayload : (RtpPacket.getPayload
      { data := (m.built nal mark pts).data, sampleRate := m.sampleRate, type }).take (RtpPacket.getPayloadSize
        { data := (m.built nal mark pts).data, sampleRate := m.sampleRate, type }) = nal :=
    WfdRtpConsumer.payloadOf_built m mark pts
  have hseq : RtpPacket.getSeq { data := (m.built nal mark pts).data, sampleRate := m.sampleRate, type } =
      m.seq := built_getSeq m nal mark pts
  have hlost : m.seq ≠ lastSeq + 1 → lastSeq = 0 := fun hne => hnext.resolve_right fun hlast => hne hlast.symm
  refine ⟨{ fuDropped, gopDropped := false, lastSeq := m.seq, frame := obtainFrame }, ⟨rfl, rfl, .inr rfl⟩, ?_⟩
  simp only [inputRtp, hpayload, if_neg hnal, unpack, if_neg (Nat.ne_of_lt htype),
    if_neg (Nat.ne_of_lt (Nat.lt_trans htype (show 24 < 28 by omega))), if_pos htype, stampMS_built hexact, hseq]
  simpa [unpackSingle, outputFrame, obtainFrame, bind, Except.bind, pure, Except.pure] using hlost

/-- The frame of a unit. -/
def unitFrame (u : SentUnit) : H264Frame where
  data := startCode ++ u.nal
  prefixSize := 4
  pts := u.pts.setWidth 64

/-- One frame for each packet. -/
theorem decodeAll_builtAll {d : RtpDecoderH264} {m : RtpMaker} {us : List SentUnit} (hd : d.Follows m.seq)
    (hunits : ∀ u ∈ us, u.nal ≠ [] ∧ h264Type (u.nal.getD 0 0) < 24 ∧ Exact m u.pts) :
    (decodeAll (rtpDecoders demux x₀ cfg) (.h264 (.ok d))
      (packetsOf m.sampleRate (datagrams (builtAll m us)))).2 = us.map fun u => .h264 (unitFrame u) := by
  induction us generalizing d m with
  | nil => rfl
  | cons u us ih =>
    obtain ⟨⟨hnal, htype, hexact⟩, hrest⟩ := List.forall_mem_cons.mp hunits
    obtain ⟨d', hd', hfirst⟩ := inputRtp_single hd hnal htype u.mark hexact .trackVideo
    have hothers := ih (m := { m with seq := m.seq + 1 }) hd' fun v hv =>
      ⟨(hrest v hv).1, (hrest v hv).2.1, (hrest v hv).2.2.rate, (hrest v hv).2.2.whole, (hrest v hv).2.2.early⟩
    have hstep : (rtpDecoders demux x₀ cfg).inputRtp (.h264 (.ok d))
        { data := (m.built u.nal u.mark u.pts).data, sampleRate := m.sampleRate, type := .trackVideo } =
          (.h264 (.ok d'), [.h264 (unitFrame u)]) := by
      simp only [rtpDecoders, RtpDecoder.inputRtp, hfirst]
      rfl
    exact (decodeAll_cons hstep _).trans (congrArg (List.cons _) hothers)

end RtpDecoderH264

namespace RtpUnpackImpl

/-- The units of a stream that goes through the network in an order that can be put right reach the sink
with their stamps, each one behind a start code. -/
theorem h264_delivered {m : RtpMaker} {frames : List H264Frame} {e : RtpEncoderH264} {rtps : List RtpPacket}
    (hsend : inputFrames { toRtpMaker := m } frames = .ok (e, rtps.map some)) (hssrc : m.ssrc ≠ 0)
    (hrate : m.sampleRate ≠ 0)
    (hunits : ∀ u ∈ sent none none none frames, h264Type (u.nal.getD 0 0) < 24 ∧ Exact m u.pts)
    {rpp : RtpPlaylodParam} (hps : rpp.ps = .h264) (htype : rpp.pt.setWidth 8 = m.pt)
    (hsame : rpp.sampleRate = m.sampleRate) {order : List ℕ} (horder : order.Perm (List.range rtps.length))
    (htol : Tolerable 64 order) {calls : List RtpUnpackImpl.Call}
    (hcalls : calls.filter (concerns m.pt) = parseCalls (arriving (datagrams rtps) order)) :
    let D := rtpDecoders demux x₀ cfg
    deliveredFor D m.pt (after D (create D (some rpp)) [.setOnRtpUnpack]) calls =
      (sent none none none frames).map fun u => (some m.ssrc, .h264 (RtpDecoderH264.unitFrame u)) := by
  intro D
  have hout := inputFrames_out { toRtpMaker := m } frames
  rw [hsend] at hout
  obtain ⟨m', hpacked⟩ : ∃ m', packUnits m (sent none none none frames) = .ok (m', rtps.map some) := by
    cases hpacked : packUnits m (sent none none none frames) with
    | error fault =>
      simp only [hpacked] at hout
      cases hout
    | ok r =>
      simp only [hpacked, Except.map, Except.ok.injEq] at hout
      exact ⟨r.1, by rw [hout]⟩
  obtain ⟨hfits, rfl⟩ := fits_of_packUnits hpacked
  have hrun : RunOf m.ssrc m.seq (videoStream (datagrams (builtAll m (sent none none none frames)))) :=
    runOf_builtAll fun u hu => ⟨(hfits u hu).1, (hfits u hu).2.2⟩
  have hmake : make D rpp = some (.h264 (.ok {})) := by simp [make, hps, D, rtpDecoders]
  have hdecoded : (decodeAll D (.h264 (.ok {}))
      (packetsOf m.sampleRate (datagrams (builtAll m (sent none none none frames))))).2 =
        (sent none none none frames).map fun u => .h264 (RtpDecoderH264.unitFrame u) :=
    RtpDecoderH264.decodeAll_builtAll ⟨rfl, rfl, .inl rfl⟩ fun u hu => ⟨(hfits u hu).1, hunits u hu⟩
  rw [← htype] at hcalls ⊢
  rw [deliveredFor_inOrder D hmake (by rwa [hsame]) hrun hssrc (by rwa [datagrams, List.length_map]) htol hcalls,
    hsame, hdecoded, List.map_map]
  rfl

theorem tolerable_overtaken : Tolerable 64 [0, 2, 1] := by
  refine ⟨by simp, by decide, fun k hk m _ _ => ?_⟩
  have hle : ∀ k, ∀ h : k < [0, 2, 1].length, [0, 2, 1][k] ≤ 2 := by decide
  exact (hle k hk).trans (by omega)

def naluFrame (bytes : List Byte) (pts : BitVec 64) : H264Frame :=
  { data := startCode ++ bytes, prefixSize := 4, pts }

/-- Parameter sets and a key frame, and the picture after them. -/
def onePicture : List H264Frame :=
  [naluFrame [0x67, 1] 1, naluFrame [0x68, 1] 1, naluFrame [0x65, 0x80] 1, naluFrame [0x41, 0x80] 2]

def h264Maker : RtpMaker := .create 7 1 1472 96 90000 0 0

/-- The key frame overtakes its second parameter set. -/
theorem h264_delivered_onePicture :
    let D := rtpDecoders WfdRtpConsumer.byteDemuxer () 0
    let rtps := builtAll h264Maker (sent none none none onePicture)
    deliveredFor D 96 (after D (create D (some { pt := 96, ps := .h264, sampleRate := 90000 })) [.setOnRtpUnpack])
        (.parseRtp (some (smallPacket 33)) :: parseCalls (arriving (datagrams rtps) [0, 2, 1])) =
      (sent none none none onePicture).map fun u => (some 1, .h264 (RtpDecoderH264.unitFrame u)) := by
  have hexact : ∀ pts : BitVec 32, pts.toNat * 90 < 2 ^ 32 → Exact h264Maker pts :=
    fun pts hearly => ⟨by decide, by decide, hearly⟩
  have hunits : ∀ u ∈ sent none none none onePicture,
      h264Type (u.nal.getD 0 0) < 24 ∧ u.pts.toNat * 90 < 2 ^ 32 := by decide
  have hsend : ∃ e, inputFrames { toRtpMaker := h264Maker } onePicture =
      .ok (e, (builtAll h264Maker (sent none none none onePicture)).map some) := ⟨_, rfl⟩
  obtain ⟨e, hsend⟩ := hsend
  exact h264_delivered hsend (by decide) (by decide)
    (fun u hu => ⟨(hunits u hu).1, hexact u.pts (hunits u hu).2⟩) rfl rfl rfl (by decide) tolerable_overtaken rfl

end RtpUnpackImpl

/-! G.711. -/

namespace RtpEncoderG711

/-- The stamps of the packets, `pts` being that of the cache. -/
def stamps (pts : BitVec 64) : List Frame → List (BitVec 64)
  | [] => []
  | frame :: frames =>
    let stamp := if pts = 0 ∨ pts + 20 < frame.pts then frame.pts else pts
    stamp :: stamps (stamp + 46) frames

def sounds (pts : BitVec 64) (frames : List Frame) : List SentUnit :=
  List.zipWith (fun frame stamp => { nal := frame.data.drop frame.prefixSize, pts := stamp.setWidth 32, mark := false })
    frames (stamps pts frames)

variable {e e' : RtpEncoderG711} {frame : Frame} {frames : List Frame} {rtps : List RtpPacket}

theorem appendNalu_empty {data : List Byte} (hshort : frame.data.length < 2 ^ 31)
    (h : FrameMerger.appendNalu [] frame = .ok data) (hdata : data ≠ []) :
    data = frame.data.drop frame.prefixSize := by
  rw [FrameMerger.appendNalu] at h
  split at h
  · cases h
    exact absurd rfl hdata
  · split at h
    · rename_i hfits
      have hsize : (FrameMerger.naluSize frame).toNat = frame.data.length - frame.prefixSize := by
        rw [FrameMerger.naluSize, BitVec.toNat_ofInt]
        omega
      rw [FrameMerger.pushData_eq_ok h, List.nil_append, hsize, List.take_of_length_le (by simp)]
    · cases h

/-- The cache is empty between two frames. -/
theorem inputFrame_fresh (hcache : e.cacheFrame.data = []) (hshort : frame.data.length < 2 ^ 31)
    {out : List (Option RtpPacket)} (h : e.inputFrame (some frame) = .ok (e', out)) (hout : none ∉ out) :
    let stamp := if e.cacheFrame.pts = 0 ∨ e.cacheFrame.pts + 20 < frame.pts then frame.pts else e.cacheFrame.pts
    let nal := frame.data.drop frame.prefixSize
    Packable nal ∧ out = [some (e.built nal false (stamp.setWidth 32))] ∧
      e'.toRtpMaker = { e.toRtpMaker with seq := e.seq + 1 } ∧
      e'.cacheFrame.data = [] ∧ e'.cacheFrame.pts = stamp + 46 := by
  intro stamp nal
  have hstamp : (if e.cacheFrame.pts = 0 then frame.pts
      else if e.cacheFrame.pts + 20 < frame.pts then frame.pts else e.cacheFrame.pts) = stamp := by
    by_cases hzero : e.cacheFrame.pts = 0
    · simp [stamp, hzero]
    · rw [if_neg hzero]
      simp only [stamp, hzero, false_or]
  simp only [inputFrame, hcache, List.length_nil, Nat.zero_div, BitVec.ofNat_eq_ofNat, BitVec.add_zero,
    BitVec.sub_zero] at h
  split at h
  · cases h
  · split at h
    · cases h
    · rename_i data happend
      have hstamp' := hstamp
      simp only [BitVec.ofNat_eq_ofNat] at hstamp'
      rw [hstamp'] at h
      by_cases hempty : data = []
      · subst hempty
        cases h
        exact absurd (List.mem_singleton_self none) hout
      · obtain rfl := appendNalu_empty hshort happend hempty
        rw [if_neg hempty] at h
        by_cases hlen : nal.length ≤ 65523
        · rw [e.makeRtp_some hempty hlen] at h
          cases h
          exact ⟨⟨hempty, hlen⟩, rfl, rfl, rfl, rfl⟩
        · rw [e.makeRtp_long hlen] at h
          cases h
          exact absurd (List.mem_singleton_self none) hout

theorem inputFrames_sounds (hcache : e.cacheFrame.data = []) (hshort : ∀ frame ∈ frames, frame.data.length < 2 ^ 31)
    (h : e.inputFrames frames = .ok (e', rtps.map some)) :
    (∀ u ∈ sounds e.cacheFrame.pts frames, Packable u.nal) ∧
      rtps = builtAll e.toRtpMaker (sounds e.cacheFrame.pts frames) := by
  induction frames generalizing e rtps with
  | nil =>
    simp only [inputFrames, Except.ok.injEq, Prod.mk.injEq] at h
    exact ⟨List.forall_mem_nil _, List.map_eq_nil_iff.mp h.2.symm⟩
  | cons frame frames ih =>
    obtain ⟨⟨e₁, out⟩, hfirst, h⟩ := bind_eq_ok.mp h
    obtain ⟨⟨e₂, out'⟩, hrest, h⟩ := bind_eq_ok.mp h
    obtain ⟨rfl, hout⟩ : e₂ = e' ∧ out ++ out' = rtps.map some := by
      simpa [pure, Except.pure] using h
    obtain ⟨rtps₁, rtps₂, rfl, rfl, rfl⟩ := List.append_eq_map_iff.mp hout
    obtain ⟨hfirstShort, hrestShort⟩ := List.forall_mem_cons.mp hshort
    obtain ⟨hpack, hsent, hmaker, hfree, hpts⟩ := inputFrame_fresh hcache hfirstShort hfirst (by simp)
    obtain ⟨hall, rfl⟩ := ih hfree hrestShort hrest
    have hone : rtps₁ = [_] := List.map_injective_iff.mpr (Option.some_injective _) hsent
    rw [hpts] at hall
    refine ⟨List.forall_mem_cons.mpr ⟨hpack, hall⟩, ?_⟩
    rw [hone, hpts, hmaker]
    rfl

/-! The pace of the stamps. -/

variable {pts : BitVec 64}

/-- As long as `pts_` cannot wrap around, a stamp is not before that of the cache. -/
theorem stamps_head (hroom : pts.toNat + 20 < 2 ^ 64) :
    ∀ stamp ∈ (stamps pts frames).head?, pts.toNat ≤ stamp.toNat := by
  cases frames with
  | nil => simp [stamps]
  | cons frame frames =>
    intro stamp hstamp
    simp only [stamps, List.head?_cons, Option.mem_some_iff] at hstamp
    subst hstamp
    split
    · rename_i hlate
      rcases hlate with rfl | hlate
      · exact Nat.zero_le _
      · have hlt : (pts.toNat + 20) % 2 ^ 64 < frame.pts.toNat := by simpa [BitVec.lt_def] using hlate
        omega
    · exact Nat.le_refl _

/-- The stamps go up by at least 46 ms from packet to packet, and none lies more than 20 ms behind its
frame. -/
theorem stamps_paced {latest : ℕ} (hpts : pts.toNat ≤ latest) (hframes : ∀ frame ∈ frames, frame.pts.toNat ≤ latest)
    (hroom : latest + 46 * frames.length + 20 < 2 ^ 64) :
    (stamps pts frames).IsChain (fun stamp next => stamp.toNat + 46 ≤ next.toNat) ∧
      List.Forall₂ (fun frame stamp => frame.pts.toNat ≤ stamp.toNat + 20) frames (stamps pts frames) := by
  induction frames generalizing pts latest with
  | nil => exact ⟨.nil, .nil⟩
  | cons frame frames ih =>
    obtain ⟨hframe, hframes⟩ := List.forall_mem_cons.mp hframes
    rw [List.length_cons] at hroom
    have hstamp : ∃ stamp : BitVec 64, stamp.toNat ≤ latest ∧ frame.pts.toNat ≤ stamp.toNat + 20 ∧
        stamps pts (frame :: frames) = stamp :: stamps (stamp + 46) frames := by
      refine ⟨_, ?_, ?_, rfl⟩
      · split <;> assumption
      · split
        · omega
        · rename_i hlate
          have hle : ¬ (pts.toNat + 20) % 2 ^ 64 < frame.pts.toNat := by
            simpa [BitVec.lt_def] using (not_or.mp hlate).2
          omega
    obtain ⟨stamp, hstamp, hlag, hcons⟩ := hstamp
    have hnext : (stamp + 46).toNat = stamp.toNat + 46 := by
      rw [BitVec.toNat_add]
      simp only [BitVec.reduceToNat]
      omega
    have hlatest : (stamp + 46).toNat ≤ latest + 46 := by omega
    obtain ⟨hchain, hlags⟩ := ih hlatest
      (fun f hf => (hframes f hf).trans (by omega)) (by omega)
    rw [hcons]
    refine ⟨List.isChain_cons.mpr ⟨fun next hnext' => ?_, hchain⟩, .cons hlag hlags⟩
    have hroom' : (stamp + 46).toNat + 20 < 2 ^ 64 := by omega
    have hhead := stamps_head hroom' next hnext'
    omega

theorem getStamp_builtAll (m : RtpMaker) (us : List SentUnit) :
    (builtAll m us).map (·.getStamp) = us.map fun u => m.scaledStamp u.pts := by
  induction us generalizing m with
  | nil => rfl
  | cons u us ih =>
    rw [builtAll, List.map_cons, List.map_cons, built_getStamp, ih]
    rfl

theorem pts_sounds (pts : BitVec 64) (frames : List Frame) :
    (sounds pts frames).map (·.pts) = (stamps pts frames).map (·.setWidth 32) := by
  induction frames generalizing pts with
  | nil => rfl
  | cons frame frames ih => exact congrArg (List.cons _) (ih _)

/-- The packets that an encoder with an empty cache sends have the stamps of its clock in their headers,
and the clock is paced. -/
theorem inputFrames_paced (hcache : e.cacheFrame.data = []) (hshort : ∀ frame ∈ frames, frame.data.length < 2 ^ 31)
    (hsend : e.inputFrames frames = .ok (e', rtps.map some)) {latest : ℕ} (hpts : e.cacheFrame.pts.toNat ≤ latest)
    (hframes : ∀ frame ∈ frames, frame.pts.toNat ≤ latest) (hroom : latest + 46 * frames.length + 20 < 2 ^ 64) :
    let clock := stamps e.cacheFrame.pts frames
    (rtps.map (·.getStamp) = clock.map fun stamp => e.scaledStamp (stamp.setWidth 32)) ∧
      clock.IsChain (fun stamp next => stamp.toNat + 46 ≤ next.toNat) ∧
      List.Forall₂ (fun frame stamp => frame.pts.toNat ≤ stamp.toNat + 20) frames clock := by
  obtain ⟨-, rfl⟩ := inputFrames_sounds hcache hshort hsend
  refine ⟨?_, stamps_paced hpts hframes hroom⟩
  calc (builtAll e.toRtpMaker (sounds e.cacheFrame.pts frames)).map (·.getStamp)
      = ((sounds e.cacheFrame.pts frames).map (·.pts)).map e.scaledStamp := by
        rw [getStamp_builtAll, List.map_map]
        rfl
    _ = (stamps e.cacheFrame.pts frames).map fun stamp => e.scaledStamp (stamp.setWidth 32) := by
        rw [pts_sounds, List.map_map]
        rfl

def g711Encoder : RtpEncoderG711 := { toRtpMaker := .create 7 1 1472 8 8000 0 0, channels := 1 }

/-- Three frames of two samples each, 20 ms apart. -/
def threeSounds : List Frame := [{ data := [1, 2], pts := 1 }, { data := [3, 4], pts := 21 }, { data := [5, 6], pts := 41 }]

theorem inputFrames_paced_20ms :
    let rtps := builtAll g711Encoder.toRtpMaker (sounds 0 threeSounds)
    (rtps.map (·.getStamp) = (stamps 0 threeSounds).map fun stamp => g711Encoder.scaledStamp (stamp.setWidth 32)) ∧
      (stamps 0 threeSounds).IsChain (fun stamp next => stamp.toNat + 46 ≤ next.toNat) ∧
      List.Forall₂ (fun frame stamp => frame.pts.toNat ≤ stamp.toNat + 20) threeSounds (stamps 0 threeSounds) := by
  have hsend : ∃ e', g711Encoder.inputFrames threeSounds =
      .ok (e', (builtAll g711Encoder.toRtpMaker (sounds 0 threeSounds)).map some) := ⟨_, rfl⟩
  obtain ⟨e', hsend⟩ := hsend
  exact inputFrames_paced rfl (by decide) hsend (Nat.zero_le 41) (by decide) (by decide)

end RtpEncoderG711

namespace RtpDecoderG711

theorem decodeAll_g711 (d : RtpDecoderG711) (rtps : List RtpPacket) :
    (decodeAll (rtpDecoders demux x₀ cfg) (.g711 d) rtps).2 = (d.inputAll rtps).2.map .sound := by
  induction rtps generalizing d with
  | nil => rfl
  | cons rtp rtps ih =>
    have hstep : (rtpDecoders demux x₀ cfg).inputRtp (.g711 d) rtp =
        (.g711 (d.inputRtp (some rtp)).1, (d.inputRtp (some rtp)).2.map .sound) := rfl
    rw [decodeAll_cons hstep, ih, inputAll, List.map_append]

/-- The last frame stays in the decoder. -/
theorem inputAll_dropLast {d : RtpDecoderG711} (h : Whole d) {rtps : List RtpPacket}
    (hsize : ∀ rtp ∈ rtps, rtp.getPayloadSize ≠ 0) :
    (d.inputAll rtps).2 = (d.pending ++ rtps.map frameOf).dropLast := by
  induction rtps generalizing d with
  | nil =>
    rw [inputAll, pending]
    split <;> rfl
  | cons rtp rtps ih =>
    obtain ⟨hfirst, hrest⟩ := List.forall_mem_cons.mp hsize
    obtain ⟨hwhole, hout, hpending⟩ := h.inputRtp hfirst
    simp only [inputAll]
    rw [hout, ih hwhole hrest, hpending, List.map_cons, List.singleton_append,
      List.dropLast_append_of_ne_nil (List.cons_ne_nil _ _)]

def soundFrame (u : SentUnit) : FrameImpl := { data := u.nal, dts := u.pts }

theorem frameOf_builtAll {m : RtpMaker} {us : List SentUnit} (hunits : ∀ u ∈ us, u.nal ≠ [] ∧ Exact m u.pts) :
    (∀ rtp ∈ packetsOf m.sampleRate (datagrams (builtAll m us)), rtp.getPayloadSize ≠ 0) ∧
      (packetsOf m.sampleRate (datagrams (builtAll m us))).map frameOf = us.map soundFrame := by
  induction us generalizing m with
  | nil => exact ⟨List.forall_mem_nil _, rfl⟩
  | cons u us ih =>
    obtain ⟨⟨hnal, hexact⟩, hrest⟩ := List.forall_mem_cons.mp hunits
    obtain ⟨hsizes, hframes⟩ := ih (m := { m with seq := m.seq + 1 }) fun v hv =>
      ⟨(hrest v hv).1, (hrest v hv).2.rate, (hrest v hv).2.whole, (hrest v hv).2.early⟩
    have hsize : (packetOf m.sampleRate (.trackVideo, (m.built u.nal u.mark u.pts).data)).getPayloadSize =
        u.nal.length := by
      rw [getPayloadSize_eq]
      exact congrArg List.length (WfdRtpConsumer.payloadOf_built m u.mark u.pts)
    have hframe : frameOf (packetOf m.sampleRate (.trackVideo, (m.built u.nal u.mark u.pts).data)) =
        soundFrame u := by
      rw [frameOf, soundFrame, FrameImpl.mk.injEq]
      exact ⟨WfdRtpConsumer.payloadOf_built m u.mark u.pts, stampMS_built hexact u.nal u.mark .trackVideo, rfl⟩
    refine ⟨List.forall_mem_cons.mpr ⟨?_, hsizes⟩, congrArg₂ List.cons hframe hframes⟩
    rw [hsize]
    exact fun hzero => hnal (List.length_eq_zero_iff.mp hzero)

end RtpDecoderG711

namespace RtpUnpackImpl

/-- Sound that goes through the network in an order that can be put right reaches the sink frame by frame,
all but the last one, which waits in the decoder. -/
theorem g711_delivered {e e' : RtpEncoderG711} (hcache : e.cacheFrame.data = []) {frames : List Frame}
    (hshort : ∀ frame ∈ frames, frame.data.length < 2 ^ 31) {rtps : List RtpPacket}
    (hsend : e.inputFrames frames = .ok (e', rtps.map some)) (hssrc : e.ssrc ≠ 0) (hrate : e.sampleRate ≠ 0)
    (hexact : ∀ u ∈ RtpEncoderG711.sounds e.cacheFrame.pts frames, Exact e.toRtpMaker u.pts)
    {rpp : RtpPlaylodParam} (hps : rpp.ps = .pcma ∨ rpp.ps = .pcmu) (htype : rpp.pt.setWidth 8 = e.pt)
    (hsame : rpp.sampleRate = e.sampleRate) {order : List ℕ} (horder : order.Perm (List.range rtps.length))
    (htol : Tolerable 64 order) {calls : List RtpUnpackImpl.Call}
    (hcalls : calls.filter (concerns e.pt) = parseCalls (arriving (datagrams rtps) order)) :
    let D := rtpDecoders demux x₀ cfg
    deliveredFor D e.pt (after D (create D (some rpp)) [.setOnRtpUnpack]) calls =
      (RtpEncoderG711.sounds e.cacheFrame.pts frames).dropLast.map fun u =>
        (some e.ssrc, .sound (RtpDecoderG711.soundFrame u)) := by
  intro D
  obtain ⟨hpack, rfl⟩ := RtpEncoderG711.inputFrames_sounds hcache hshort hsend
  have hmake : make D rpp = some (.g711 {}) := by
    rcases hps with hps | hps <;> simp [make, hps, D, rtpDecoders]
  obtain ⟨hsizes, hframes⟩ := RtpDecoderG711.frameOf_builtAll fun u hu => ⟨(hpack u hu).1, hexact u hu⟩
  rw [← htype] at hcalls ⊢
  rw [deliveredFor_inOrder D hmake (by rwa [hsame]) (runOf_builtAll hpack) hssrc
    (by rwa [datagrams, List.length_map]) htol hcalls, hsame, RtpDecoderG711.decodeAll_g711,
    RtpDecoderG711.inputAll_dropLast RtpDecoderG711.whole_create hsizes, hframes]
  simp only [RtpDecoderG711.pending, if_pos, List.nil_append, List.map_dropLast, List.map_map]
  rfl

/-- The third packet overtakes the second one. -/
theorem g711_delivered_threeSounds :
    let D := rtpDecoders WfdRtpConsumer.byteDemuxer () 0
    let us := RtpEncoderG711.sounds 0 RtpEncoderG711.threeSounds
    let rtps := builtAll RtpEncoderG711.g711Encoder.toRtpMaker us
    deliveredFor D 8 (after D (create D (some { pt := 8, ps := .pcma, sampleRate := 8000 })) [.setOnRtpUnpack])
        (.parseRtp (some (smallPacket 33)) :: parseCalls (arriving (datagrams rtps) [0, 2, 1])) =
      us.dropLast.map fun u => (some 1, .sound (RtpDecoderG711.soundFrame u)) := by
  have hexact : ∀ pts : BitVec 32, pts.toNat * 8 < 2 ^ 32 → Exact RtpEncoderG711.g711Encoder.toRtpMaker pts :=
    fun pts hearly => ⟨by decide, by decide, hearly⟩
  have hearly : ∀ u ∈ RtpEncoderG711.sounds 0 RtpEncoderG711.threeSounds, u.pts.toNat * 8 < 2 ^ 32 := by decide
  have hsend : ∃ e', RtpEncoderG711.g711Encoder.inputFrames RtpEncoderG711.threeSounds =
      .ok (e', (builtAll RtpEncoderG711.g711Encoder.toRtpMaker
        (RtpEncoderG711.sounds 0 RtpEncoderG711.threeSounds)).map some) := ⟨_, rfl⟩
  obtain ⟨e', hsend⟩ := hsend
  exact g711_delivered rfl (by decide) hsend (by decide) (by decide) (fun u hu => hexact u.pts (hearly u hu))
    (.inl rfl) rfl rfl (by decide) tolerable_overtaken rfl

end RtpUnpackImpl

end WifiDisplay
