import WifiDisplay.RtpDecoderTs
import WifiDisplay.RtpPackImpl

/-! The way of media from the encoders of the source through the network to the decoders of the sink. -/

namespace WifiDisplay

/-! The decoders behind `RtpUnpackImpl`. -/

/-- The classes that `CreateRtpDecoder` makes, with FFmpeg's state `δ` behind `ReadPacket`. A decoder that
has run into a fault stays there. -/
inductive RtpDecoder (δ : Type) where
  | h264 (decoder : Except Fault RtpDecoderH264)
  | aac (decoder : Except AacFailure RtpDecoderAAC)
  | g711 (decoder : RtpDecoderG711)
  | ts (decoder : RtpDecoderTs) (demuxer : δ)

/-- `demuxed` are the frames that `StartDecoding` makes of what FFmpeg finds. -/
inductive UnpackedFrame (F : Type) where
  | h264 (frame : H264Frame)
  | sound (frame : FrameImpl)
  | demuxed (frame : F)

section Decoders

variable {δ F : Type} (demux : δ → List Byte → δ × List F) (demuxer : δ)

namespace RtpDecoder

def inputRtp (d : RtpDecoder δ) (rtp : RtpPacket) : RtpDecoder δ × List (UnpackedFrame F) :=
  match d with
  | h264 (.ok decoder) =>
    match decoder.inputRtp (some rtp) with
    | .ok (decoder, frames) => (h264 (.ok decoder), frames.map .h264)
    | .error fault => (h264 (.error fault), [])
  | aac (.ok decoder) =>
    match decoder.inputRtp (some rtp) with
    | .ok (decoder, frames) => (aac (.ok decoder), frames.map .sound)
    | .error failure => (aac (.error failure), [])
  | h264 (.error fault) => (h264 (.error fault), [])
  | aac (.error failure) => (aac (.error failure), [])
  | g711 decoder =>
    let (decoder, frames) := decoder.inputRtp (some rtp)
    (g711 decoder, frames.map .sound)
  | ts decoder demuxer => (ts (decoder.inputRtp (some rtp)) demuxer, [])

/-- A call of `ReadPacket` by FFmpeg, which goes on with the bytes. -/
def thread (d : RtpDecoder δ) (bufSize : Nat) : RtpDecoder δ × List (UnpackedFrame F) :=
  match d with
  | ts decoder demuxer =>
    let (decoder, read) := decoder.readPacket bufSize
    let (demuxer, frames) := demux demuxer read.bytes
    (ts decoder demuxer, frames.map .demuxed)
  | d => (d, [])

end RtpDecoder

/-- `cfg` is what the constructor of the AAC decoder finds in memory. -/
def rtpDecoders (cfg : BitVec 32) : RtpDecoders (RtpDecoder δ) (UnpackedFrame F) where
  h264 := .h264 (.ok {})
  aac rpp := .aac (.ok (.create (rpp.extra.getD []) cfg))
  g711 := .g711 {}
  ts := .ts {} demuxer
  inputRtp := RtpDecoder.inputRtp
  thread := RtpDecoder.thread demux

/-- FFmpeg sees bytes and not the calls that they come in. -/
structure Incremental : Prop where
  nil : ∀ x, demux x [] = (x, [])
  append : ∀ x bytes bytes', demux x (bytes ++ bytes') =
    ((demux (demux x bytes).1 bytes').1, (demux x bytes).2 ++ (demux (demux x bytes).1 bytes').2)

end Decoders

/-! The packets of one maker are a stream. -/

namespace RtpMaker

open RtpEncoderH264 RtpPacketSortor RtpUnpackImpl

/-- `MakeRtp` builds a packet. -/
def Packable (data : List Byte) : Prop := data ≠ [] ∧ data.length ≤ maxUshort - rtpHeaderSize

variable {m : RtpMaker} {us : List SentUnit}

theorem wellFormed_built {data : List Byte} (h : Packable data) (mark : Bool) (stamp : BitVec 32) :
    WellFormedPacket (m.built data mark stamp).data := by
  have hsize : (m.built data mark stamp).data.length = 12 + data.length := m.built_size data mark stamp
  have hpayload : RtpHeader.getPayloadSize (m.built data mark stamp).data (m.built data mark stamp).data.length =
      data.length := m.built_getPayloadSize data mark stamp
  have hpos := List.length_pos_iff.mpr h.1
  have hlen : data.length ≤ 65523 := h.2
  have hfirst : (m.built data mark stamp).data.getD 0 0 = 0x80 := rfl
  refine ⟨?_, ?_, ?_, ?_⟩
  · show 12 ≤ _
    omega
  · rw [RtpHeader.version, hfirst]
    rfl
  · omega
  · omega

theorem forall_builtAll {P : RtpPacket → Prop} (h : ∀ u ∈ us, ∀ seq, P ({ m with seq }.built u.nal u.mark u.pts)) :
    ∀ rtp ∈ builtAll m us, P rtp := by
  induction us generalizing m with
  | nil => exact List.forall_mem_nil _
  | cons u us ih =>
    refine List.forall_mem_cons.mpr ⟨h u List.mem_cons_self m.seq, ih fun v hv seq => ?_⟩
    exact h v (List.mem_cons_of_mem u hv) seq

theorem getSeq_builtAll (m : RtpMaker) (us : List SentUnit) (i : ℕ) (hi : i < (builtAll m us).length) :
    (builtAll m us)[i].getSeq = m.seq + BitVec.ofNat 16 i := by
  induction us generalizing m i with
  | nil => exact absurd hi (Nat.not_lt_zero i)
  | cons u us ih =>
    cases i with
    | zero => simp [builtAll, built_getSeq]
    | succ i =>
      have hrest := ih { m with seq := m.seq + 1 } i (by simpa [builtAll] using hi)
      simp only [builtAll, List.getElem_cons_succ, hrest]
      rw [BitVec.ofNat_add, BitVec.add_assoc, BitVec.add_comm (BitVec.ofNat 16 i)]
      rfl

def datagrams (rtps : List RtpPacket) : List (List Byte) := rtps.map (·.data)

theorem runOf_builtAll (h : ∀ u ∈ us, Packable u.nal) :
    RunOf m.ssrc m.seq (videoStream (datagrams (builtAll m us))) where
  wellFormed := by
    simp only [videoStream, datagrams, List.forall_mem_map]
    exact forall_builtAll fun u hu seq => wellFormed_built (h u hu) u.mark u.pts
  ssrc := by
    simp only [videoStream, datagrams, List.forall_mem_map]
    exact forall_builtAll fun u _ seq => built_getSSRC _ u.nal u.mark u.pts
  seq i hi := by
    simp only [videoStream, datagrams, List.length_map] at hi
    simp only [videoStream, datagrams, List.getElem_map]
    exact getSeq_builtAll m us i hi

end RtpMaker

/-! What the thread of `RtpEncoderTs` sends. -/

namespace RtpEncoderTs

open RtpEncoderH264 RtpMaker

/-- The parts of the transport stream that FFmpeg hands out before `Release` takes the callback away. -/
def written : List Act → List (List Byte)
  | [] => []
  | .writePacket buf :: acts => buf :: written acts
  | .releaseCallback :: _ => []
  | _ :: acts => written acts

variable {e e' : RtpEncoderTs} {acts : List Act} {out : List RtpPacket}

theorem inputFrame_keeps {frame : Option TsFrame} (h : e.inputFrame frame = .ok e') :
    e'.toRtpMaker = e.toRtpMaker ∧ e'.onRtpPack = e.onRtpPack := by
  cases frame with
  | none =>
    cases h
    exact ⟨rfl, rfl⟩
  | some frame =>
    rw [inputFrame] at h
    split at h
    · cases h
      exact ⟨rfl, rfl⟩
    · cases frame with
      | h264 frame =>
        simp only [bind, Except.bind] at h
        cases hinput : e.merger.inputFrame (some frame.toFrame) (some []) with
        | error fault =>
          rw [hinput] at h
          cases h
        | ok input =>
          rw [hinput] at h
          cases h
          exact ⟨rfl, rfl⟩
      | aac frame =>
        cases h
        exact ⟨rfl, rfl⟩
      | pcm frame =>
        cases h
        exact ⟨rfl, rfl⟩

theorem readFrame_keeps {read : FrameRead} (h : e.readFrame = .ok (e', read)) :
    e'.toRtpMaker = e.toRtpMaker ∧ e'.onRtpPack = e.onRtpPack := by
  rw [readFrame] at h
  split at h
  · cases h
    exact ⟨rfl, rfl⟩
  · obtain ⟨keyFrame, -, h⟩ := bind_eq_ok.mp h
    cases h
    exact ⟨rfl, rfl⟩

theorem writePacket_ssrc (e : RtpEncoderTs) (buf : List Byte) : (e.writePacket buf).1.ssrc = e.ssrc := by
  rw [writePacket]
  split
  · simp only [RtpMaker.makeRtp]
    split
    · rfl
    · split <;> rfl
  · rfl

theorem run_ssrc (h : e.run acts = .ok (e', out)) : e'.ssrc = e.ssrc := by
  induction acts generalizing e out with
  | nil =>
    cases h
    rfl
  | cons act acts ih =>
    obtain ⟨⟨e₁, sent⟩, hstep, h⟩ := bind_eq_ok.mp h
    obtain ⟨⟨e₂, out'⟩, hrest, h⟩ := bind_eq_ok.mp h
    cases h
    rw [ih hrest]
    cases act with
    | inputFrame frame =>
      obtain ⟨e₃, hinput, hstep⟩ := bind_eq_ok.mp hstep
      cases hstep
      rw [(inputFrame_keeps hinput).1]
    | readFrame =>
      obtain ⟨⟨e₃, read⟩, hread, hstep⟩ := bind_eq_ok.mp hstep
      cases hstep
      rw [(readFrame_keeps hread).1]
    | writePacket buf =>
      have hwritten := writePacket_ssrc e buf
      rw [Except.ok.inj hstep] at hwritten
      exact hwritten
    | releaseCallback =>
      cases hstep
      rfl
    | releaseExit =>
      cases hstep
      rfl
    | releaseQueue =>
      cases hstep
      rfl

theorem run_released (hcallback : e.onRtpPack = false) (h : e.run acts = .ok (e', out)) : out = [] := by
  induction acts generalizing e out with
  | nil =>
    cases h
    rfl
  | cons act acts ih =>
    obtain ⟨⟨e₁, sent⟩, hstep, h⟩ := bind_eq_ok.mp h
    obtain ⟨⟨e₂, out'⟩, hrest, h⟩ := bind_eq_ok.mp h
    cases h
    cases act with
    | inputFrame frame =>
      obtain ⟨e₃, hinput, hstep⟩ := bind_eq_ok.mp hstep
      cases hstep
      exact ih ((inputFrame_keeps hinput).2.trans hcallback) hrest
    | readFrame =>
      obtain ⟨⟨e₃, read⟩, hread, hstep⟩ := bind_eq_ok.mp hstep
      cases hstep
      exact ih ((readFrame_keeps hread).2.trans hcallback) hrest
    | writePacket buf =>
      simp only [step, writePacket, hcallback, Bool.false_eq_true, if_false, Except.ok.injEq, Prod.mk.injEq] at hstep
      obtain ⟨rfl, rfl⟩ := hstep
      exact ih hcallback hrest
    | releaseCallback =>
      cases hstep
      exact ih rfl hrest
    | releaseExit =>
      cases hstep
      exact ih (e := e.releaseExit) hcallback hrest
    | releaseQueue =>
      cases hstep
      exact ih (e := e.releaseQueue) hcallback hrest

theorem run_written (hcallback : e.onRtpPack = true) (h : e.run acts = .ok (e', out))
    (hpack : ∀ buf ∈ written acts, Packable buf) :
    ∃ us : List SentUnit, out = builtAll e.toRtpMaker us ∧ us.map (·.nal) = written acts := by
  induction acts generalizing e out with
  | nil =>
    cases h
    exact ⟨[], rfl, rfl⟩
  | cons act acts ih =>
    obtain ⟨⟨e₁, sent⟩, hstep, h⟩ := bind_eq_ok.mp h
    obtain ⟨⟨e₂, out'⟩, hrest, h⟩ := bind_eq_ok.mp h
    cases h
    cases act with
    | inputFrame frame =>
      obtain ⟨e₃, hinput, hstep⟩ := bind_eq_ok.mp hstep
      cases hstep
      obtain ⟨hmaker, hkept⟩ := inputFrame_keeps hinput
      rw [← hmaker]
      exact ih (hkept.trans hcallback) hrest hpack
    | readFrame =>
      obtain ⟨⟨e₃, read⟩, hread, hstep⟩ := bind_eq_ok.mp hstep
      cases hstep
      obtain ⟨hmaker, hkept⟩ := readFrame_keeps hread
      rw [← hmaker]
      exact ih (hkept.trans hcallback) hrest hpack
    | writePacket buf =>
      obtain ⟨hbuf, hpack⟩ := List.forall_mem_cons.mp hpack
      simp only [step, writePacket, hcallback, if_true, e.makeRtp_some hbuf.1 hbuf.2, Except.ok.injEq,
        Prod.mk.injEq] at hstep
      obtain ⟨rfl, rfl⟩ := hstep
      obtain ⟨us, hus, hnals⟩ := ih rfl hrest hpack
      refine ⟨{ nal := buf, pts := e.timeStamp, mark := e.keyFrame } :: us, ?_, ?_⟩
      · simp only [builtAll, Option.toList_some, List.singleton_append]
        rw [hus]
      · simp [written, hnals]
    | releaseCallback =>
      cases hstep
      exact ⟨[], run_released rfl hrest, rfl⟩
    | releaseExit =>
      cases hstep
      exact ih (e := e.releaseExit) hcallback hrest hpack
    | releaseQueue =>
      cases hstep
      exact ih (e := e.releaseQueue) hcallback hrest hpack

end RtpEncoderTs

/-! What FFmpeg reads at the sink. -/

namespace RtpUnpackImpl

open RtpPacketSortor

theorem sortedOf_mem (rate : BitVec 32) (received : List (List Byte)) :
    ∀ rtp ∈ sortedOf (.create rate) received, rtp.data ∈ received := by
  have hrun : Caches (fun e => e.2.data ∈ received) (run (.create rate) (sortorInputs received)).1 ∧
      ∀ rtp ∈ sortedOf (.create rate) received, rtp.data ∈ received := by
    induction received using List.reverseRecOn with
    | nil =>
      refine ⟨fun e he => ?_, List.forall_mem_nil _⟩
      rw [← OrderedMap.mem_toList] at he
      exact absurd he List.not_mem_nil
    | append_singleton received bytes ih =>
      obtain ⟨hcached, hsorted⟩ := ih
      have hinputs : sortorInputs (received ++ [bytes]) =
          sortorInputs received ++ [(.trackVideo, some bytes)] := by
        simp [sortorInputs]
      have hgrown : Caches (fun e => e.2.data ∈ received ++ [bytes])
          (run (.create rate) (sortorInputs received)).1 :=
        fun e he => List.mem_append_left _ (hcached e he)
      obtain ⟨hleft, hout⟩ := hgrown.inputRtp .trackVideo bytes
        (List.mem_append_right _ List.mem_cons_self)
      rw [hinputs, ← step_run]
      refine ⟨hleft, fun rtp hrtp => ?_⟩
      rw [sortedOf_concat] at hrtp
      rcases List.mem_append.mp hrtp with hrtp | hrtp
      · exact List.mem_append_left _ (hsorted rtp hrtp)
      · obtain ⟨e, he, rfl⟩ := List.mem_map.mp hrtp
        exact hout e he
  exact hrun.2

def receivedOf (calls : List Call) : List (List Byte) :=
  calls.filterMap fun call => match call with
    | .parseRtp data => data
    | _ => none

/-- A new sortor has the SSRC of what arrives once it has handed something out. -/
theorem sortedOf_ssrc (rate : BitVec 32) {ssrc : BitVec 32} {received : List (List Byte)}
    (hssrc : ∀ bytes ∈ received, RtpHeader.ssrc bytes = ssrc)
    (hne : sortedOf (.create rate) received ≠ []) :
    (run (.create rate) (sortorInputs received)).1.ssrc = ssrc := by
  have hrun : (run (.create rate) (sortorInputs received)).1.ssrc = ssrc ∨
      sortedOf (.create rate) received = [] := by
    clear hne
    induction received using List.reverseRecOn with
    | nil => exact .inr rfl
    | append_singleton received bytes ih =>
      have hbytes : RtpHeader.ssrc bytes = ssrc :=
        hssrc bytes (List.mem_append_right _ List.mem_cons_self)
      have hinputs : sortorInputs (received ++ [bytes]) =
          sortorInputs received ++ [(.trackVideo, some bytes)] := by
        simp [sortorInputs]
      rw [hinputs, ← step_run, sortedOf_concat]
      simp only [RtpPacketSortor.step]
      generalize hs : (run (.create rate) (sortorInputs received)).1 = s at ih ⊢
      by_cases hwf : s.wellFormed bytes = true
      · exact .inl ((s.inputRtp_ssrc .trackVideo hwf).trans hbytes)
      · have hrefused : s.inputRtp .trackVideo (some bytes) = (s, {}) := by
          simp only [RtpPacketSortor.inputRtp]
          rw [if_pos hwf]
        simp only [hrefused]
        simpa using ih fun bytes' hm => hssrc bytes' (List.mem_append_left _ hm)
  exact hrun.resolve_right hne

def payloadOf (bytes : List Byte) : List Byte :=
  (RtpHeader.getPayloadData bytes bytes.length).take (RtpHeader.getPayloadSize bytes bytes.length)

section TsLane

variable {δ F : Type} (demux : δ → List Byte → δ × List F) (x₀ : δ) (cfg : BitVec 32)

theorem decodeAll_ts {d : RtpDecoderTs} (hexit : d.exit = false) (x : δ) (rtps : List RtpPacket) :
    ∃ decodeThread, decodeAll (rtpDecoders demux x₀ cfg) (.ts d x) rtps =
      (.ts { d with decodeThread, dataQueue := d.dataQueue ++ rtps.filter (·.getPayloadSize ≠ 0) } x, []) := by
  induction rtps generalizing d with
  | nil => exact ⟨d.decodeThread, by simp [decodeAll]⟩
  | cons rtp rtps ih =>
    by_cases hsize : rtp.getPayloadSize = 0
    · obtain ⟨decodeThread, hrest⟩ := ih (d := { d with decodeThread := true }) hexit
      refine ⟨decodeThread, ?_⟩
      simp only [decodeAll, rtpDecoders, RtpDecoder.inputRtp, RtpDecoderTs.inputRtp, hexit, hsize,
        Bool.false_eq_true, if_true, if_false] at hrest ⊢
      rw [hrest]
      simp [hsize]
    · obtain ⟨decodeThread, hrest⟩ := ih (d := { d with decodeThread := true, dataQueue := d.dataQueue ++ [rtp] }) hexit
      refine ⟨decodeThread, ?_⟩
      simp only [decodeAll, rtpDecoders, RtpDecoder.inputRtp, RtpDecoderTs.inputRtp, hexit, hsize,
        Bool.false_eq_true, if_false] at hrest ⊢
      rw [hrest]
      simp [hsize]

variable {demux} {x₀} {cfg}

/-- A lane with the decoder for transport streams: `read` has gone to FFmpeg, `queue` waits for it. -/
structure Streams (demux : δ → List Byte → δ × List F) (x₀ : δ) (sorted read queue : List RtpPacket)
    (r : Lane (RtpDecoder δ) × List (Unpacked (UnpackedFrame F))) : Prop where
  packets : sorted.filter (·.getPayloadSize ≠ 0) = read ++ queue
  decoder : ∃ decodeThread, r.1.decoder =
    .ts { decodeThread, dataQueue := queue } (demux x₀ (read.flatMap RtpDecoderTs.payload)).1
  frames : r.2.map Prod.snd = (demux x₀ (read.flatMap RtpDecoderTs.payload)).2.map .demuxed

variable {sorted read queue : List RtpPacket} {r : Lane (RtpDecoder δ) × List (Unpacked (UnpackedFrame F))}

theorem Streams.thread (hinc : Incremental demux) (h : Streams demux x₀ sorted read queue r)
    (cfg : BitVec 32) {bufSize : Nat} (hfits : ∀ rtp ∈ queue, rtp.getPayloadSize ≤ bufSize) (pt : Byte) :
    Streams demux x₀ sorted (read ++ queue.take 1) (queue.drop 1)
      ((r.1.step (rtpDecoders demux x₀ cfg) (.thread pt bufSize)).1,
        r.2 ++ (r.1.step (rtpDecoders demux x₀ cfg) (.thread pt bufSize)).2) := by
  obtain ⟨decodeThread, hdecoder⟩ := h.decoder
  simp only [Lane.step, rtpDecoders, RtpDecoder.thread, hdecoder]
  cases queue with
  | nil =>
    obtain ⟨hkept, hbytes⟩ := RtpDecoderTs.Feed.readPacket_empty (d := { decodeThread }) rfl bufSize
    simp only [hkept, hbytes, hinc.nil, List.map_nil, List.append_nil, List.take_nil, List.drop_nil]
    exact ⟨h.packets, ⟨decodeThread, rfl⟩, h.frames⟩
  | cons rtp queue =>
    have hmem : rtp ∈ sorted.filter (·.getPayloadSize ≠ 0) := by
      rw [h.packets]
      exact List.mem_append_right _ List.mem_cons_self
    have hsize : rtp.getPayloadSize ≠ 0 := by simpa using (List.mem_filter.mp hmem).2
    have hroom : (rtp.getPayloadSize : Int) ≤ bufSize := by
      exact_mod_cast hfits rtp List.mem_cons_self
    have hread := RtpDecoderTs.Feed.readPacket_fits (d := { decodeThread, dataQueue := rtp :: queue }) rfl
      hsize hroom
    simp only [hread, TsRead.bytes, List.take_succ_cons, List.take_zero, List.drop_succ_cons, List.drop_zero]
    have hbytes : (read ++ [rtp]).flatMap RtpDecoderTs.payload =
        read.flatMap RtpDecoderTs.payload ++ RtpDecoderTs.payload rtp := by simp
    refine ⟨h.packets.trans (by simp), ⟨decodeThread, ?_⟩, ?_⟩
    · rw [hbytes, hinc.append]
    · rw [hbytes, hinc.append, List.map_append, List.map_map, h.frames, List.map_append]
      exact congrArg _ (List.map_id _)

theorem Streams.parseRtp (h : Streams demux x₀ sorted read queue r) (bytes : List Byte) :
    let emitted := (r.1.sort.inputRtp .trackVideo (some bytes)).2
    let new := (emitted.flushed.getD [] ++ emitted.sorted).map Prod.snd
    Streams demux x₀ (sorted ++ new) read (queue ++ new.filter (·.getPayloadSize ≠ 0))
      ((r.1.step (rtpDecoders demux x₀ cfg) (.parseRtp (some bytes))).1,
        r.2 ++ (r.1.step (rtpDecoders demux x₀ cfg) (.parseRtp (some bytes))).2) := by
  obtain ⟨decodeThread, hdecoder⟩ := h.decoder
  intro emitted new
  obtain ⟨decodeThread', hall⟩ := decodeAll_ts demux x₀ cfg (d := { decodeThread, dataQueue := queue }) rfl
    (demux x₀ (read.flatMap RtpDecoderTs.payload)).1 new
  simp only [Lane.step, Lane.inputRtp, hdecoder]
  rw [hall]
  refine ⟨?_, ⟨decodeThread', rfl⟩, ?_⟩
  · rw [List.filter_append, h.packets, List.append_assoc]
  · simpa using h.frames

theorem getPayloadSize_eq (rtp : RtpPacket) : rtp.getPayloadSize = (payloadOf rtp.data).length := by
  have hle : rtp.getPayloadSize ≤ rtp.getPayload.length := by
    rw [RtpPacket.getPayload, RtpHeader.getPayloadData, List.length_drop, RtpPacket.getPayloadSize,
      RtpHeader.getPayloadSize]
    split
    · exact Nat.zero_le _
    · show _ ≤ rtp.size - _
      omega
  show _ = (rtp.getPayload.take rtp.getPayloadSize).length
  rw [List.length_take]
  omega

/-- The calls for a new lane whose thread has room for every packet. -/
theorem streams_run (hinc : Incremental demux) (x₀ : δ) (cfg rate : BitVec 32) (calls : List Call)
    (hfits : ∀ pt bufSize, .thread pt bufSize ∈ calls → ∀ bytes ∈ receivedOf calls,
      (payloadOf bytes).length ≤ bufSize) :
    let r := Lane.run (rtpDecoders demux x₀ cfg) { sort := .create rate, decoder := .ts {} x₀ } calls
    r.1.sort = (run (.create rate) (sortorInputs (receivedOf calls))).1 ∧
      ∃ read queue, Streams demux x₀ (sortedOf (.create rate) (receivedOf calls)) read queue r := by
  induction calls using List.reverseRecOn with
  | nil => exact ⟨rfl, [], [], rfl, ⟨false, by simp [Lane.run, hinc.nil]⟩, by simp [Lane.run, hinc.nil]⟩
  | append_singleton calls call ih =>
    have hreceived : receivedOf (calls ++ [call]) = receivedOf calls ++ receivedOf [call] :=
      List.filterMap_append
    obtain ⟨hsort, read, queue, h⟩ := ih fun pt bufSize hmem bytes hbytes => by
      refine hfits pt bufSize (List.mem_append_left _ hmem) bytes ?_
      rw [hreceived]
      exact List.mem_append_left _ hbytes
    intro r
    have hr : r = _ := Lane.run_append (rtpDecoders demux x₀ cfg)
      { sort := .create rate, decoder := .ts {} x₀ } calls [call]
    simp only [Lane.run, List.append_nil] at hr
    rw [hr, hreceived]
    cases call with
    | setOnRtpUnpack => simpa [receivedOf, Lane.step] using ⟨hsort, read, queue, h⟩
    | thread pt bufSize =>
      refine ⟨?_, read ++ queue.take 1, queue.drop 1, ?_⟩
      · simpa [receivedOf, Lane.step] using hsort
      · have hroom : ∀ rtp ∈ queue, rtp.getPayloadSize ≤ bufSize := by
          intro rtp hrtp
          have hmem : rtp ∈ sortedOf (.create rate) (receivedOf calls) := by
            have hfiltered : rtp ∈ (sortedOf (.create rate) (receivedOf calls)).filter (·.getPayloadSize ≠ 0) := by
              rw [h.packets]
              exact List.mem_append_right _ hrtp
            exact (List.mem_filter.mp hfiltered).1
          rw [getPayloadSize_eq]
          refine hfits pt bufSize (by simp) _ ?_
          rw [hreceived]
          exact List.mem_append_left _ (sortedOf_mem rate _ rtp hmem)
        simpa [receivedOf] using h.thread hinc cfg hroom pt
    | parseRtp data =>
      cases data with
      | none => simpa [receivedOf, Lane.step] using ⟨hsort, read, queue, h⟩
      | some bytes =>
        have hone : receivedOf [.parseRtp (some bytes)] = [bytes] := rfl
        have hinputs : sortorInputs (receivedOf calls ++ [bytes]) =
            sortorInputs (receivedOf calls) ++ [(.trackVideo, some bytes)] := by
          simp [sortorInputs]
        refine ⟨?sort, read, ?queue, ?streams⟩
        case streams =>
          rw [hone, sortedOf_concat, ← hsort]
          exact h.parseRtp bytes
        case sort =>
          rw [hone, hinputs, ← step_run]
          simp only [RtpPacketSortor.step]
          rw [← hsort]
          rfl

/-- Every frame of a new lane comes with the SSRC of the packets it is made of. -/
theorem frames_ssrc (hinc : Incremental demux) (x₀ : δ) (cfg rate : BitVec 32) {ssrc : BitVec 32}
    (calls : List Call)
    (hfits : ∀ pt bufSize, .thread pt bufSize ∈ calls → ∀ bytes ∈ receivedOf calls,
      (payloadOf bytes).length ≤ bufSize)
    (hssrc : ∀ bytes ∈ receivedOf calls, RtpHeader.ssrc bytes = ssrc) :
    ∀ f ∈ (Lane.run (rtpDecoders demux x₀ cfg) { sort := .create rate, decoder := .ts {} x₀ } calls).2,
      f.1 = some ssrc := by
  induction calls using List.reverseRecOn with
  | nil => exact List.forall_mem_nil _
  | append_singleton calls call ih =>
    have hreceived : receivedOf (calls ++ [call]) = receivedOf calls ++ receivedOf [call] :=
      List.filterMap_append
    rw [hreceived] at hfits hssrc
    have hfits' : ∀ pt bufSize, .thread pt bufSize ∈ calls → ∀ bytes ∈ receivedOf calls,
        (payloadOf bytes).length ≤ bufSize := fun pt bufSize hmem bytes hbytes =>
      hfits pt bufSize (List.mem_append_left _ hmem) bytes (List.mem_append_left _ hbytes)
    have hssrc' : ∀ bytes ∈ receivedOf calls, RtpHeader.ssrc bytes = ssrc :=
      fun bytes hbytes => hssrc bytes (List.mem_append_left _ hbytes)
    obtain ⟨hsort, read, queue, h⟩ := streams_run hinc x₀ cfg rate calls hfits'
    rw [Lane.run_append]
    refine List.forall_mem_append.mpr ⟨ih hfits' hssrc', ?_⟩
    generalize Lane.run (rtpDecoders demux x₀ cfg) { sort := .create rate, decoder := .ts {} x₀ } calls =
      r at hsort h
    simp only [Lane.run, List.append_nil]
    obtain ⟨decodeThread, hdecoder⟩ := h.decoder
    cases call with
    | setOnRtpUnpack => exact List.forall_mem_nil _
    | parseRtp data =>
      cases data with
      | none => exact List.forall_mem_nil _
      | some bytes =>
        -- the decoder of a transport stream hands out frames in its thread alone
        obtain ⟨decodeThread', hall⟩ := decodeAll_ts demux x₀ cfg (d := { decodeThread, dataQueue := queue }) rfl
          (demux x₀ (read.flatMap RtpDecoderTs.payload)).1
          (((r.1.sort.inputRtp .trackVideo (some bytes)).2.flushed.getD [] ++
            (r.1.sort.inputRtp .trackVideo (some bytes)).2.sorted).map Prod.snd)
        simp only [Lane.step, Lane.inputRtp, hdecoder]
        rw [hall]
        exact List.forall_mem_nil _
    | thread pt bufSize =>
      simp only [Lane.step, rtpDecoders, RtpDecoder.thread, hdecoder]
      cases queue with
      | nil =>
        obtain ⟨-, hbytes⟩ := RtpDecoderTs.Feed.readPacket_empty (d := { decodeThread }) rfl bufSize
        simp [hbytes, hinc.nil]
      | cons rtp queue =>
        have hne : sortedOf (.create rate) (receivedOf calls) ≠ [] := by
          intro hnone
          have hpackets := h.packets
          rw [hnone] at hpackets
          simp at hpackets
        have hlane : r.1.sort.ssrc = ssrc := by rw [hsort, sortedOf_ssrc rate hssrc' hne]
        intro f hf
        obtain ⟨frame, -, rfl⟩ := List.mem_map.mp hf
        rw [hlane]

theorem Streams.threads (hinc : Incremental demux) (h : Streams demux x₀ sorted read queue r)
    (cfg : BitVec 32) {bufSize : Nat} (hfits : ∀ rtp ∈ queue, rtp.getPayloadSize ≤ bufSize) (pt : Byte) (n : ℕ) :
    Streams demux x₀ sorted (read ++ queue.take n) (queue.drop n)
      ((r.1.run (rtpDecoders demux x₀ cfg) (List.replicate n (.thread pt bufSize))).1,
        r.2 ++ (r.1.run (rtpDecoders demux x₀ cfg) (List.replicate n (.thread pt bufSize))).2) := by
  induction n generalizing read queue r with
  | zero => simpa [Lane.run] using h
  | succ n ih =>
    have hnext := ih (h.thread hinc cfg hfits pt)
      (fun rtp hrtp => hfits rtp (List.mem_of_mem_drop hrtp))
    rw [List.append_assoc, ← List.take_add, List.drop_drop] at hnext
    simpa [List.replicate_succ, Lane.run, Nat.add_comm] using hnext

end TsLane

end RtpUnpackImpl

/-! The transport stream from one FFmpeg to the other. -/

/-- `tsPacker_` as `InitTsRtpPacker` makes it. -/
def WfdRtpProducer.tsPacker (self packetSampleRate : BitVec 32) : RtpPackImpl :=
  .create self 0x2000 1400 90000 33 .mpeg2Ts 0 packetSampleRate

theorem WfdRtpProducer.tsPacker_encoder {self packetSampleRate : BitVec 32} {e : RtpEncoderTs}
    (h : (tsPacker self packetSampleRate).rtpEncoder = some (.ts e)) :
    e.ssrc = 0x2000 ∧ e.onRtpPack = true := by
  cases h
  exact ⟨rfl, rfl⟩

/-- The parameter of `InitRtpUnpacker`. -/
def WfdRtpConsumer.playlodParam : RtpPlaylodParam where
  pt := 33
  sampleRate := 90000
  ps := .mpeg2Ts

def maxRtpPayloadSize : Nat := 1316

namespace WfdRtpConsumer

open RtpMaker RtpUnpackImpl RtpPacketSortor

variable {δ F : Type} (demux : δ → List Byte → δ × List F) (x₀ : δ) (cfg : BitVec 32)

/-- `rtpUnpacker_` as `InitRtpUnpacker` makes it. -/
def rtpUnpacker : RtpUnpackImpl (RtpDecoder δ) :=
  after (rtpDecoders demux x₀ cfg) (RtpUnpackImpl.create (rtpDecoders demux x₀ cfg) (some playlodParam))
    [.setOnRtpUnpack]

/-- The frames of the transport stream that reach `OnRtpUnpackCallback`. -/
def unpacked (calls : List RtpUnpackImpl.Call) : List (Unpacked (UnpackedFrame F)) :=
  deliveredFor (rtpDecoders demux x₀ cfg) 33 (rtpUnpacker demux x₀ cfg) calls

variable {demux} {x₀} {cfg}

theorem unpacked_eq (calls : List RtpUnpackImpl.Call) : unpacked demux x₀ cfg calls =
    (Lane.run (rtpDecoders demux x₀ cfg) { sort := .create 90000, decoder := .ts {} x₀ }
      (calls.filter (concerns 33))).2 :=
  (serves_run (running_create _ (some playlodParam)) (create_serves _ rfl) calls).2

theorem payloadOf_built (m : RtpMaker) {data : List Byte} (mark : Bool) (stamp : BitVec 32) :
    payloadOf (m.built data mark stamp).data = data := by
  have hsize : RtpHeader.getPayloadSize (m.built data mark stamp).data (m.built data mark stamp).data.length =
      data.length := m.built_getPayloadSize data mark stamp
  have hdata : RtpHeader.getPayloadData (m.built data mark stamp).data (m.built data mark stamp).data.length =
      data := m.built_getPayload data mark stamp
  rw [payloadOf, hsize, hdata, List.take_length]

/-- The payloads of what the encoder sends are the parts that FFmpeg handed out. -/
theorem payloadOf_sent {e e' : RtpEncoderTs} {acts : List RtpEncoderTs.Act} {out : List RtpPacket}
    (hcallback : e.onRtpPack = true) (h : e.run acts = .ok (e', out))
    (hpack : ∀ buf ∈ RtpEncoderTs.written acts, Packable buf) :
    (datagrams out).map payloadOf = RtpEncoderTs.written acts := by
  obtain ⟨us, rfl, hnals⟩ := RtpEncoderTs.run_written hcallback h hpack
  rw [← hnals, datagrams, List.map_map]
  have hall : ∀ m : RtpMaker, (RtpEncoderH264.builtAll m us).map (payloadOf ∘ (·.data)) = us.map (·.nal) := by
    clear hnals h
    induction us with
    | nil => exact fun _ => rfl
    | cons u us ih =>
      intro m
      simp [RtpEncoderH264.builtAll, ih, payloadOf_built]
  exact hall _

/-- The sender's parts fit into its packets, and these into FFmpeg's buffer at the sink. -/
theorem payloadOf_fits {e e' : RtpEncoderTs} {acts : List RtpEncoderTs.Act} {out : List RtpPacket}
    (hcallback : e.onRtpPack = true) (hsend : e.run acts = .ok (e', out))
    (hbufs : ∀ buf ∈ RtpEncoderTs.written acts, buf ≠ [] ∧ buf.length ≤ maxRtpPayloadSize) :
    (∀ buf ∈ RtpEncoderTs.written acts, Packable buf) ∧
      (datagrams out).map payloadOf = RtpEncoderTs.written acts ∧
      ∀ bytes ∈ datagrams out, payloadOf bytes ∈ RtpEncoderTs.written acts ∧
        (payloadOf bytes).length ≤ maxRtpPayloadSize := by
  have hpack : ∀ buf ∈ RtpEncoderTs.written acts, Packable buf :=
    fun buf hbuf => ⟨(hbufs buf hbuf).1, (hbufs buf hbuf).2.trans (by decide)⟩
  have hsent := payloadOf_sent hcallback hsend hpack
  refine ⟨hpack, hsent, fun bytes hbytes => ?_⟩
  have hmem : payloadOf bytes ∈ RtpEncoderTs.written acts := by
    rw [← hsent]
    exact List.mem_map_of_mem hbytes
  exact ⟨hmem, (hbufs _ hmem).2⟩

theorem runOf_sent {e e' : RtpEncoderTs} {acts : List RtpEncoderTs.Act} {out : List RtpPacket}
    (hcallback : e.onRtpPack = true) (hsend : e.run acts = .ok (e', out))
    (hpack : ∀ buf ∈ RtpEncoderTs.written acts, Packable buf) :
    RunOf e.ssrc e.seq (videoStream (datagrams out)) := by
  obtain ⟨us, rfl, hnals⟩ := RtpEncoderTs.run_written hcallback hsend hpack
  exact runOf_builtAll (m := e.toRtpMaker) fun u hu => hpack u.nal (hnals ▸ List.mem_map_of_mem hu)

theorem ssrc_sent {ssrc : BitVec 32} {first : BitVec 16} {packets : List (List Byte)}
    (h : RunOf ssrc first (videoStream packets)) : ∀ bytes ∈ packets, RtpHeader.ssrc bytes = ssrc := by
  intro bytes hbytes
  exact h.ssrc (.trackVideo, bytes) (List.mem_map_of_mem hbytes)

theorem fits_calls {packets : List (List Byte)} (hsize : ∀ bytes ∈ packets, (payloadOf bytes).length ≤ maxRtpPayloadSize)
    {calls : List RtpUnpackImpl.Call} (hnetwork : ∀ bytes ∈ receivedOf (calls.filter (concerns 33)), bytes ∈ packets)
    (hreads : ∀ bufSize, .thread 33 bufSize ∈ calls → maxRtpPayloadSize ≤ bufSize) :
    ∀ pt bufSize, .thread pt bufSize ∈ calls.filter (concerns 33) →
      ∀ bytes ∈ receivedOf (calls.filter (concerns 33)), (payloadOf bytes).length ≤ bufSize := by
  intro pt bufSize hmem bytes hbytes
  obtain ⟨hmem, hpt⟩ := List.mem_filter.mp hmem
  obtain rfl : pt = 33 := by simpa [concerns] using hpt
  exact (hsize bytes (hnetwork bytes hbytes)).trans (hreads bufSize hmem)

/-- What is handed out, with the SSRC of the packets it comes from. -/
theorem unpacked_ssrc (hinc : Incremental demux) {ssrc : BitVec 32} {calls : List RtpUnpackImpl.Call}
    (hfits : ∀ pt bufSize, .thread pt bufSize ∈ calls.filter (concerns 33) →
      ∀ bytes ∈ receivedOf (calls.filter (concerns 33)), (payloadOf bytes).length ≤ bufSize)
    (hssrc : ∀ bytes ∈ receivedOf (calls.filter (concerns 33)), RtpHeader.ssrc bytes = ssrc)
    {frames : List F} (hframes : (unpacked demux x₀ cfg calls).map Prod.snd = frames.map .demuxed) :
    unpacked demux x₀ cfg calls = frames.map fun frame => (some ssrc, .demuxed frame) := by
  have htags := frames_ssrc hinc x₀ cfg 90000 (calls.filter (concerns 33)) hfits hssrc
  rw [← unpacked_eq] at htags
  have hpairs : unpacked demux x₀ cfg calls =
      ((unpacked demux x₀ cfg calls).map Prod.snd).map fun frame => (some ssrc, frame) := by
    rw [List.map_map]
    exact (List.map_id _).symm.trans (List.map_congr_left fun f hf => Prod.ext (htags f hf) rfl)
  rw [hpairs, hframes, List.map_map]
  rfl

/-- Whatever the network loses, repeats or delays, and whatever else arrives: FFmpeg reads whole parts of
the transport stream as they were handed out at the source, and makes its frames of these. -/
theorem unpacked_written (hinc : Incremental demux) {self packetSampleRate : BitVec 32} {e e' : RtpEncoderTs}
    (hpacker : (WfdRtpProducer.tsPacker self packetSampleRate).rtpEncoder = some (.ts e))
    {acts : List RtpEncoderTs.Act} {out : List RtpPacket} (hsend : e.run acts = .ok (e', out))
    (hbufs : ∀ buf ∈ RtpEncoderTs.written acts, buf ≠ [] ∧ buf.length ≤ maxRtpPayloadSize)
    {calls : List RtpUnpackImpl.Call} (hnetwork : ∀ bytes ∈ receivedOf (calls.filter (concerns 33)), bytes ∈ datagrams out)
    (hreads : ∀ bufSize, .thread 33 bufSize ∈ calls → maxRtpPayloadSize ≤ bufSize) :
    ∃ bufs : List (List Byte), (∀ buf ∈ bufs, buf ∈ RtpEncoderTs.written acts) ∧
      unpacked demux x₀ cfg calls =
        (demux x₀ bufs.flatten).2.map fun frame => (some 0x2000, .demuxed frame) := by
  obtain ⟨hssrc, hcallback⟩ := WfdRtpProducer.tsPacker_encoder hpacker
  obtain ⟨hpack, -, hpayloads⟩ := payloadOf_fits hcallback hsend hbufs
  have hfits := fits_calls (fun bytes hbytes => (hpayloads bytes hbytes).2) hnetwork hreads
  have hrun := runOf_sent hcallback hsend hpack
  rw [hssrc] at hrun
  obtain ⟨-, read, queue, h⟩ := streams_run hinc x₀ cfg 90000 (calls.filter (concerns 33)) hfits
  refine ⟨read.map fun rtp => payloadOf rtp.data, fun buf hbuf => ?_, ?_⟩
  · obtain ⟨rtp, hrtp, rfl⟩ := List.mem_map.mp hbuf
    have hsorted : rtp ∈ (sortedOf (.create 90000) (receivedOf (calls.filter (concerns 33)))).filter
        (·.getPayloadSize ≠ 0) := by
      rw [h.packets]
      exact List.mem_append_left _ hrtp
    exact (hpayloads _ (hnetwork _ (sortedOf_mem 90000 _ rtp (List.mem_filter.mp hsorted).1))).1
  · apply unpacked_ssrc hinc hfits fun bytes hbytes => ssrc_sent hrun bytes (hnetwork bytes hbytes)
    rw [unpacked_eq, h.frames, List.flatMap_def]
    rfl

def byteDemuxer (_ : Unit) (bytes : List Byte) : Unit × List Byte := ((), bytes)

theorem incremental_byteDemuxer : Incremental byteDemuxer := ⟨fun _ => rfl, fun _ _ _ => rfl⟩

def threeWrites : List RtpEncoderTs.Act :=
  [.writePacket [0x47, 1], .writePacket [0x47, 2], .writePacket [0x47, 3], .releaseCallback, .writePacket [0x47, 4]]

def smallEncoder : RtpEncoderTs := { toRtpMaker := .create 1 0x2000 1400 33 90000 0 0, onRtpPack := true }

def packetsFrom (m : RtpMaker) : List RtpPacket :=
  RtpEncoderH264.builtAll m [⟨[0x47, 1], 0, false⟩, ⟨[0x47, 2], 0, false⟩, ⟨[0x47, 3], 0, false⟩]

theorem threeWrites_short :
    ∀ buf ∈ RtpEncoderTs.written threeWrites, buf ≠ [] ∧ buf.length ≤ maxRtpPayloadSize := by decide

/-- The second packet is lost, the third one comes first, and the first one twice. -/
theorem unpacked_written_lossy :
    ∃ bufs : List (List Byte), (∀ buf ∈ bufs, buf ∈ RtpEncoderTs.written threeWrites) ∧
      unpacked byteDemuxer () 0
          (parseCalls (arriving (datagrams (packetsFrom smallEncoder.toRtpMaker)) [2, 0, 0]) ++
            [.parseRtp (some (smallPacket 97)), .thread 33 1500]) =
        (byteDemuxer () bufs.flatten).2.map fun frame => (some 0x2000, .demuxed frame) := by
  have hsend : ∃ e', smallEncoder.run threeWrites = .ok (e', packetsFrom smallEncoder.toRtpMaker) := ⟨_, rfl⟩
  obtain ⟨e', hsend⟩ := hsend
  have hpacker : (WfdRtpProducer.tsPacker 1 0).rtpEncoder = some (.ts smallEncoder) := rfl
  exact unpacked_written incremental_byteDemuxer hpacker hsend threeWrites_short (by decide)
    (by simp [parseCalls, maxRtpPayloadSize])

theorem payloadOf_packetsOf (rate : BitVec 32) (packets : List (List Byte)) :
    (packetsOf rate packets).flatMap RtpDecoderTs.payload = (packets.map payloadOf).flatten := by
  rw [packetsOf, videoStream, List.flatMap_def, List.map_map, List.map_map]
  rfl

theorem sortedOf_sent {ssrc : BitVec 32} {first : BitVec 16} {packets : List (List Byte)}
    (hrun : RunOf ssrc first (videoStream packets)) (hssrc : ssrc ≠ 0)
    {order : List ℕ} (horder : order.Perm (List.range packets.length)) (htol : Tolerable 64 order) (k : ℕ) :
    ∃ m, sortedOf (.create 90000) (arriving packets (order.take k)) = packetsOf 90000 (packets.take m) ∧
      (order.length ≤ k → m = packets.length) := by
  have hsame : order.length = packets.length := by rw [horder.length_eq, List.length_range]
  by_cases hnone : min k order.length = 0
  · refine ⟨0, ?_, fun hk => by omega⟩
    have hempty : order.take k = [] := List.length_eq_zero_iff.mp (by rw [List.length_take, hnone])
    rw [hempty]
    rfl
  · have hrate : (90000 : BitVec 32) ≠ 0 := by decide
    obtain ⟨-, m, -, hm, hlast⟩ := sorted_arriving hrun hrate hssrc horder htol
      (k := min k order.length - 1) (by omega)
    rw [show min k order.length - 1 + 1 = min k order.length by omega, ← List.take_eq_take_min] at hm
    exact ⟨m, hm, fun hk => hlast (by omega)⟩

theorem mem_packetsOf {rate : BitVec 32} {packets : List (List Byte)} {rtp : RtpPacket}
    (h : rtp ∈ packetsOf rate packets) : rtp.data ∈ packets := by
  obtain ⟨p, hp, rfl⟩ := List.mem_map.mp h
  obtain ⟨bytes, hbytes, rfl⟩ := List.mem_map.mp hp
  exact hbytes

theorem filter_reads (n bufSize : ℕ) : (List.replicate n (RtpUnpackImpl.Call.thread 33 bufSize)).filter
    (concerns 33) = List.replicate n (.thread 33 bufSize) := by
  rw [List.filter_eq_self]
  intro call hcall
  rw [List.eq_of_mem_replicate hcall]
  rfl

/-- Reads by FFmpeg's thread behind the calls add nothing to what has arrived. -/
theorem receivedOf_reads (calls : List RtpUnpackImpl.Call) (n bufSize : ℕ) :
    receivedOf ((calls ++ List.replicate n (RtpUnpackImpl.Call.thread 33 bufSize)).filter (concerns 33)) =
      receivedOf (calls.filter (concerns 33)) := by
  rw [List.filter_append, filter_reads, receivedOf, List.filterMap_append, List.filterMap_replicate_of_none rfl,
    List.append_nil]
  rfl

end WfdRtpConsumer

end WifiDisplay
