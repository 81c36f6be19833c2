import WifiDisplay.RtpH264RoundTrip

/-! A stream of frames through `RtpEncoderH264`: which NAL units go out, with which
timestamps and marker bits. -/

namespace WifiDisplay

/-- A NAL unit on its way, with the timestamp of its frame and the marker bit. -/
structure SentUnit where
  nal : List Byte
  pts : BitVec 32
  mark : Bool
  deriving DecidableEq

namespace RtpEncoderH264

def inputFrames (e : RtpEncoderH264) :
    List H264Frame → Except Fault (RtpEncoderH264 × List (Option RtpPacket))
  | [] => .ok (e, [])
  | frame :: frames => do
    let (e, out) ← e.inputFrame frame
    let (e, out') ← e.inputFrames frames
    return (e, out ++ out')

def isSps (frame : H264Frame) : Bool := h264Type (frame.nal.getD 0 0) = nalSps

def isPps (frame : H264Frame) : Bool := h264Type (frame.nal.getD 0 0) = nalPps

def isMedia (frame : H264Frame) : Bool := ! isSps frame && ! isPps frame

/-- The parameter sets, if both have arrived. -/
def config (sps pps : Option H264Frame) : List (List Byte) :=
  match sps, pps with
  | some sps, some pps => [sps.nal, pps.nal]
  | _, _ => []

/-- A frame, behind the parameter sets when it is a key frame. -/
def unitsOf (frame : H264Frame) (config : List (List Byte)) (mark : Bool) : List SentUnit :=
  let pts := frame.getPts.setWidth 32
  (if frame.keyFrame then config.map fun nal => { nal, pts, mark := false } else []) ++
    [{ nal := frame.nal, pts, mark }]

/-- The stream as it should go out: every frame but the last one, a key frame with the
parameter sets that preceded it, and the marker at the end of each run of frames with
one timestamp. `sps` and `pps` have arrived before. -/
def stream (sps pps : Option H264Frame) : List H264Frame → List SentUnit
  | [] => []
  | frame :: frames =>
    if isSps frame then stream (some frame) pps frames
    else if isPps frame then stream sps (some frame) frames
    else
      match frames.find? isMedia with
      | none => []
      | some next =>
        unitsOf frame (config sps pps) (frame.getPts ≠ next.getPts) ++ stream sps pps frames

/-- What the encoder sends, `held` being its last frame: the parameter sets are those
that have arrived when the next frame does. -/
def sent (sps pps held : Option H264Frame) : List H264Frame → List SentUnit
  | [] => []
  | frame :: frames =>
    if isSps frame then sent (some frame) pps held frames
    else if isPps frame then sent sps (some frame) held frames
    else
      (match held with
        | none => []
        | some last => unitsOf last (config sps pps) (last.getPts ≠ frame.getPts)) ++
      sent sps pps (some frame) frames

/-- The parameter sets as they stand when the next frame arrives. -/
def configAtNext (sps pps : Option H264Frame) : List H264Frame → List (List Byte)
  | [] => config sps pps
  | frame :: frames =>
    if isSps frame then configAtNext (some frame) pps frames
    else if isPps frame then configAtNext sps (some frame) frames
    else config sps pps

/-- Between a key frame and the next frame no parameter set arrives that would change
what is inserted. -/
def ConfigKept (sps pps : Option H264Frame) : List H264Frame → Prop
  | [] => True
  | frame :: frames =>
    if isSps frame then ConfigKept (some frame) pps frames
    else if isPps frame then ConfigKept sps (some frame) frames
    else (frame.keyFrame → frames.any isMedia → configAtNext sps pps frames = config sps pps) ∧
      ConfigKept sps pps frames

instance decidableConfigKept (sps pps : Option H264Frame) :
    ∀ frames, Decidable (ConfigKept sps pps frames)
  | [] => .isTrue trivial
  | frame :: frames =>
    haveI := decidableConfigKept (some frame) pps frames
    haveI := decidableConfigKept sps (some frame) frames
    haveI := decidableConfigKept sps pps frames
    inferInstanceAs (Decidable (if isSps frame then ConfigKept (some frame) pps frames
      else if isPps frame then ConfigKept sps (some frame) frames
      else (frame.keyFrame → frames.any isMedia → configAtNext sps pps frames = config sps pps) ∧
        ConfigKept sps pps frames))

/-- The bytes of a fragment: the unit's first byte is split over indicator and header. -/
def fragment (nal : List Byte) (startBit endBit : Bool) (piece : List Byte) : List Byte :=
  ((nal.getD 0 0 &&& 0xE0) ||| 28) ::
    ((nal.getD 0 0 &&& 0x1F) ||| (if startBit then 0x80 else 0) ||| if endBit then 0x40 else 0) :: piece

/-- The payloads are the fragments of a NAL unit. -/
def Fragments (payloads : List (List Byte)) (nal : List Byte) : Prop :=
  ∃ (first : List Byte) (middle : List (List Byte)) (last : List Byte), payloads = fragment nal true false first ::
      middle.map (fragment nal false false) ++ [fragment nal false true last] ∧
    nal.drop 1 = first ++ middle.flatten ++ last

/-- The packets carry the units one behind the other, each one as it is or in fragments,
with the unit's timestamp and its marker on the last packet. -/
inductive Carries (m : RtpMaker) : List RtpPacket → List SentUnit → Prop where
  | nil : Carries m [] []
  | single {p : RtpPacket} {u : SentUnit} {ps : List RtpPacket} {us : List SentUnit}
      (payload : p.getPayload = u.nal) (type : h264Type (u.nal.getD 0 0) < 24)
      (stamp : p.getStamp = m.scaledStamp u.pts) (mark : p.getHeader.mark = u.mark)
      (rest : Carries m ps us) : Carries m (p :: ps) (u :: us)
  | fragments {group : List RtpPacket} {u : SentUnit} {ps : List RtpPacket} {us : List SentUnit}
      (payloads : Fragments (group.map (·.getPayload)) u.nal) (type : h264Type (u.nal.getD 0 0) < 24)
      (stamp : ∀ p ∈ group, p.getStamp = m.scaledStamp u.pts)
      (mark : group.map (·.getHeader.mark) = List.replicate (group.length - 1) false ++ [u.mark])
      (rest : Carries m ps us) : Carries m (group ++ ps) (u :: us)

/-- A new encoder sends the stream. -/
def SendsStream (m : RtpMaker) (frames : List H264Frame) : Prop :=
  ∃ (e : RtpEncoderH264) (rtps : List RtpPacket),
    inputFrames { toRtpMaker := m } frames = .ok (e, rtps.map some) ∧
      Carries m rtps (stream none none frames)

/-! The packets of single units. -/

/-- The unit goes into one packet. -/
def Fits (m : RtpMaker) (nal : List Byte) : Prop :=
  nal ≠ [] ∧ nal.length ≤ m.getMaxSize ∧ nal.length ≤ 65523

def packUnits (m : RtpMaker) : List SentUnit → Packed
  | [] => .ok (m, [])
  | u :: us => do
    let (m, out) ← packRtp m u.nal u.pts u.mark
    let (m, out') ← packUnits m us
    return (m, out ++ out')

def builtAll (m : RtpMaker) : List SentUnit → List RtpPacket
  | [] => []
  | u :: us => m.built u.nal u.mark u.pts :: builtAll { m with seq := m.seq + 1 } us

variable {m : RtpMaker} {us vs : List SentUnit}

theorem packUnits_append (m : RtpMaker) (us vs : List SentUnit) :
    packUnits m (us ++ vs) = do
      let (m, out) ← packUnits m us
      let (m, out') ← packUnits m vs
      return (m, out ++ out') := by
  induction us generalizing m with
  | nil =>
    simp only [List.nil_append, packUnits, bind, Except.bind]
    cases packUnits m vs <;> rfl
  | cons u us ih =>
    simp only [List.cons_append, packUnits, ih, bind_assoc, pure_bind, List.append_assoc]

theorem packUnits_fits (h : ∀ u ∈ us, Fits m u.nal) :
    ∃ m', packUnits m us = .ok (m', (builtAll m us).map some) := by
  induction us generalizing m with
  | nil => exact ⟨m, rfl⟩
  | cons u us ih =>
    obtain ⟨hne, hmax, hlen⟩ := h u List.mem_cons_self
    obtain ⟨m', hm'⟩ := @ih { m with seq := m.seq + 1 } fun v hv => h v (List.mem_cons_of_mem _ hv)
    refine ⟨m', ?_⟩
    simp only [packUnits, packRtp_single m hne hmax hlen, bind, Except.bind, hm']
    rfl

/-- A unit that does not fit ends in a fault or a null pointer. -/
theorem fits_of_packRtp {nal : List Byte} {pts : BitVec 32} {mark : Bool} {m' : RtpMaker}
    {rtps : List RtpPacket} (h : packRtp m nal pts mark = .ok (m', rtps.map some)) :
    Fits m nal := by
  have hmax : nal.length ≤ m.getMaxSize := by
    by_contra hgt
    rw [packRtp, if_neg hgt, packRtpFu_error] at h
    cases h
  rw [packRtp, if_pos hmax, packSingle] at h
  have hpacket : ∀ m₁, m.makeRtp (some nal) nal.length mark pts ≠ (m₁, none) := by
    intro m₁ hnone
    rw [hnone] at h
    simp only [Except.ok.injEq, Prod.mk.injEq] at h
    have hnull : none ∈ rtps.map some := h.2 ▸ List.mem_singleton_self none
    simp at hnull
  refine ⟨?_, hmax, ?_⟩
  · rintro rfl
    exact hpacket _ rfl
  · by_contra hgt
    exact hpacket _ (m.makeRtp_long hgt mark pts)

theorem fits_of_packUnits {m' : RtpMaker} {rtps : List RtpPacket}
    (h : packUnits m us = .ok (m', rtps.map some)) :
    (∀ u ∈ us, Fits m u.nal) ∧ rtps = builtAll m us := by
  induction us generalizing m rtps with
  | nil =>
    simp only [packUnits, Except.ok.injEq, Prod.mk.injEq] at h
    have hnil : rtps = [] := List.map_eq_nil_iff.mp h.2.symm
    exact ⟨by simp, hnil⟩
  | cons u us ih =>
    obtain ⟨⟨m₁, out⟩, hfirst, h⟩ := bind_eq_ok.mp h
    obtain ⟨⟨m₂, out'⟩, hrest, h⟩ := bind_eq_ok.mp h
    obtain ⟨rfl, hout⟩ : m₂ = m' ∧ out ++ out' = rtps.map some := by
      simpa [pure, Except.pure] using h
    obtain ⟨rtps₁, rtps₂, rfl, rfl, rfl⟩ := List.append_eq_map_iff.mp hout
    have hfits := fits_of_packRtp hfirst
    obtain ⟨hne, hmax, hlen⟩ := hfits
    rw [packRtp_single m hne hmax hlen] at hfirst
    simp only [Except.ok.injEq, Prod.mk.injEq] at hfirst
    obtain ⟨rfl, hone⟩ := hfirst
    obtain ⟨hall, rfl⟩ := ih hrest
    refine ⟨?_, ?_⟩
    · intro v hv
      rcases List.mem_cons.mp hv with rfl | hv
      · exact ⟨hne, hmax, hlen⟩
      · exact hall v hv
    · have hsingle : rtps₁.map some = [m.built u.nal u.mark u.pts].map some := hone.symm
      rw [List.map_injective_iff.mpr (Option.some_injective _) hsingle]
      rfl

theorem packUnits_singleton (m : RtpMaker) (u : SentUnit) :
    packUnits m [u] = packRtp m u.nal u.pts u.mark := by
  simp only [packUnits, bind, Except.bind, pure, Except.pure]
  cases packRtp m u.nal u.pts u.mark with
  | error e => rfl
  | ok r => simp only [List.append_nil]

theorem insertConfigFrame_eq (m : RtpMaker) (sps pps : Option H264Frame) (pts : BitVec 32) :
    insertConfigFrame m sps pps pts =
      packUnits m ((config sps pps).map fun nal => { nal, pts, mark := false }) := by
  match sps, pps with
  | none, _ => rfl
  | some _, none => rfl
  | some sps, some pps =>
    have hpair := packUnits_append m [{ nal := sps.nal, pts, mark := false }]
      [{ nal := pps.nal, pts, mark := false }]
    simp only [packUnits_singleton] at hpair
    exact hpair.symm

theorem inputFrameMarked_eq (e : RtpEncoderH264) (frame : H264Frame) (mark : Bool) :
    e.inputFrameMarked frame mark = do
      let (m, out) ← packUnits e.toRtpMaker (unitsOf frame (config e.sps e.pps) mark)
      return ({ e with toRtpMaker := m }, out) := by
  rw [unitsOf, packUnits_append, inputFrameMarked, insertConfigFrame_eq]
  simp only [packUnits_singleton]
  by_cases hkey : frame.keyFrame = true
  · simp only [hkey, if_true, bind_assoc, pure_bind]
  · simp only [hkey, Bool.false_eq_true, if_false, packUnits, bind, Except.bind, pure, Except.pure]
    cases packRtp e.toRtpMaker frame.nal (frame.getPts.setWidth 32) mark <;> rfl

/-- The units that go out when a frame replaces the one that is held. -/
def heldUnits (sps pps held : Option H264Frame) (frame : H264Frame) : List SentUnit :=
  match held with
  | none => []
  | some last => unitsOf last (config sps pps) (last.getPts ≠ frame.getPts)

theorem inputFrame_media (e : RtpEncoderH264) {frame : H264Frame} (hsps : isSps frame = false)
    (hpps : isPps frame = false) :
    e.inputFrame frame = do
      let (m, out) ← packUnits e.toRtpMaker (heldUnits e.sps e.pps e.lastFrame frame)
      return ({ e with toRtpMaker := m, lastFrame := some frame }, out) := by
  simp only [isSps, isPps, decide_eq_false_iff_not] at hsps hpps
  simp only [inputFrame, if_neg hsps, if_neg hpps, heldUnits]
  cases e.lastFrame with
  | none => rfl
  | some last => simp only [inputFrameMarked_eq, bind_assoc, pure_bind]

/-- What the encoder hands on is what the units are packed into. -/
theorem inputFrames_out (e : RtpEncoderH264) (frames : List H264Frame) :
    (e.inputFrames frames).map (·.2) =
      (packUnits e.toRtpMaker (sent e.sps e.pps e.lastFrame frames)).map (·.2) := by
  induction frames generalizing e with
  | nil => rfl
  | cons frame frames ih =>
    cases hsps : isSps frame with
    | true =>
      have hinput : e.inputFrame frame = .ok ({ e with sps := some frame }, []) := by
        simp only [isSps, decide_eq_true_eq] at hsps
        simp only [inputFrame, if_pos hsps]
      have hrest := ih { e with sps := some frame }
      simp only [inputFrames, hinput, sent, hsps, if_true, bind, Except.bind, pure, Except.pure,
        List.nil_append, ← hrest]
      cases inputFrames { e with sps := some frame } frames <;> rfl
    | false =>
      cases hpps : isPps frame with
      | true =>
        have hinput : e.inputFrame frame = .ok ({ e with pps := some frame }, []) := by
          simp only [isSps, isPps, decide_eq_true_eq, decide_eq_false_iff_not] at hsps hpps
          simp only [inputFrame, if_neg hsps, if_pos hpps]
        have hrest := ih { e with pps := some frame }
        simp only [inputFrames, hinput, sent, hsps, hpps, if_true, Bool.false_eq_true, if_false, bind,
          Except.bind, pure, Except.pure, List.nil_append, ← hrest]
        cases inputFrames { e with pps := some frame } frames <;> rfl
      | false =>
        have hsent : sent e.sps e.pps e.lastFrame (frame :: frames) =
            heldUnits e.sps e.pps e.lastFrame frame ++ sent e.sps e.pps (some frame) frames := by
          simp only [sent, hsps, hpps, Bool.false_eq_true, if_false]
          rfl
        rw [hsent, packUnits_append, inputFrames, inputFrame_media e hsps hpps]
        simp only [bind, Except.bind, pure, Except.pure]
        cases packUnits e.toRtpMaker (heldUnits e.sps e.pps e.lastFrame frame) with
        | error f => rfl
        | ok r =>
          have hrest := ih { e with toRtpMaker := r.1, lastFrame := some frame }
          simp only at hrest ⊢
          cases hall : inputFrames { e with toRtpMaker := r.1, lastFrame := some frame } frames with
          | error f =>
            rw [hall] at hrest
            cases hunits : packUnits r.1 (sent e.sps e.pps (some frame) frames) <;>
              simp_all [Except.map]
          | ok r' =>
            rw [hall] at hrest
            cases hunits : packUnits r.1 (sent e.sps e.pps (some frame) frames) <;>
              simp_all [Except.map]

/-! The units that are sent beside those of the stream. -/

variable {sps pps : Option H264Frame}

/-- Each slot holds a parameter set of its kind. -/
def SlotsFilled (sps pps : Option H264Frame) : Prop :=
  (∀ s ∈ sps, isSps s) ∧ ∀ p ∈ pps, isPps p

theorem SlotsFilled.withSps (h : SlotsFilled sps pps) {frame : H264Frame} (hframe : isSps frame = true) :
    SlotsFilled (some frame) pps := by
  refine ⟨fun s hs => ?_, h.2⟩
  obtain rfl : frame = s := by simpa using hs
  exact hframe

theorem SlotsFilled.withPps (h : SlotsFilled sps pps) {frame : H264Frame} (hframe : isPps frame = true) :
    SlotsFilled sps (some frame) := by
  refine ⟨h.1, fun p hp => ?_⟩
  obtain rfl : frame = p := by simpa using hp
  exact hframe

theorem sent_held (sps pps : Option H264Frame) (held : H264Frame) (frames : List H264Frame) :
    sent sps pps (some held) frames =
      (match frames.find? isMedia with
        | none => []
        | some next => unitsOf held (configAtNext sps pps frames) (held.getPts ≠ next.getPts)) ++
      sent sps pps none frames := by
  induction frames generalizing sps pps with
  | nil => rfl
  | cons frame frames ih =>
    cases hsps : isSps frame with
    | true => simp [sent, hsps, ih, configAtNext, isMedia]
    | false =>
      cases hpps : isPps frame with
      | true => simp [sent, hsps, hpps, ih, configAtNext, isMedia]
      | false => simp [sent, hsps, hpps, configAtNext, isMedia]

theorem stream_of_none {frames : List H264Frame} (h : frames.find? isMedia = none) :
    stream sps pps frames = [] := by
  induction frames generalizing sps pps with
  | nil => rfl
  | cons frame frames ih =>
    have hnone : isMedia frame = false ∧ frames.find? isMedia = none := by
      simpa using h
    cases hsps : isSps frame with
    | true => simp [stream, hsps, ih hnone.2]
    | false =>
      have hpps : isPps frame = true := by simpa [isMedia, hsps] using hnone.1
      simp [stream, hsps, hpps, ih hnone.2]

/-- What goes out for one frame that is followed by another. -/
theorem stream_media {frame next : H264Frame} {frames : List H264Frame} (hsps : isSps frame = false)
    (hpps : isPps frame = false) (hnext : frames.find? isMedia = some next) :
    stream sps pps (frame :: frames) =
      unitsOf frame (config sps pps) (frame.getPts ≠ next.getPts) ++ stream sps pps frames := by
  simp only [stream, hsps, hpps, hnext, Bool.false_eq_true, if_false]

theorem sent_media {frame next : H264Frame} {frames : List H264Frame} (hsps : isSps frame = false)
    (hpps : isPps frame = false) (hnext : frames.find? isMedia = some next) :
    sent sps pps none (frame :: frames) =
      unitsOf frame (configAtNext sps pps frames) (frame.getPts ≠ next.getPts) ++
        sent sps pps none frames := by
  simp only [sent, hsps, hpps, Bool.false_eq_true, if_false, List.nil_append]
  rw [sent_held, hnext]

theorem sent_last {frame : H264Frame} {frames : List H264Frame} (hsps : isSps frame = false)
    (hpps : isPps frame = false) (hnext : frames.find? isMedia = none) :
    sent sps pps none (frame :: frames) = sent sps pps none frames := by
  simp only [sent, hsps, hpps, Bool.false_eq_true, if_false, List.nil_append]
  rw [sent_held, hnext]
  rfl

theorem stream_last {frame : H264Frame} {frames : List H264Frame} (hsps : isSps frame = false)
    (hpps : isPps frame = false) (hnext : frames.find? isMedia = none) :
    stream sps pps (frame :: frames) = stream sps pps frames := by
  simp only [stream, hsps, hpps, hnext, Bool.false_eq_true, if_false, stream_of_none]

theorem any_of_find {frames : List H264Frame} {next : H264Frame}
    (h : frames.find? isMedia = some next) : frames.any isMedia = true :=
  List.any_eq_true.mpr ⟨next, List.mem_of_find?_eq_some h, List.find?_some h⟩

theorem sent_eq_stream {frames : List H264Frame} (h : ConfigKept sps pps frames) :
    sent sps pps none frames = stream sps pps frames := by
  induction frames generalizing sps pps with
  | nil => rfl
  | cons frame frames ih =>
    cases hsps : isSps frame with
    | true =>
      simp only [ConfigKept, hsps, if_true] at h
      simpa [sent, stream, hsps] using ih h
    | false =>
      cases hpps : isPps frame with
      | true =>
        simp only [ConfigKept, hsps, hpps, Bool.false_eq_true, if_false, if_true] at h
        simpa [sent, stream, hsps, hpps] using ih h
      | false =>
        simp only [ConfigKept, hsps, hpps, Bool.false_eq_true, if_false] at h
        obtain ⟨hkey, hrest⟩ := h
        cases hnext : frames.find? isMedia with
        | none => rw [sent_last hsps hpps hnext, stream_last hsps hpps hnext, ih hrest]
        | some next =>
          rw [sent_media hsps hpps hnext, stream_media hsps hpps hnext, ih hrest]
          by_cases hframe : frame.keyFrame = true
          · rw [hkey hframe (any_of_find hnext)]
          · simp only [unitsOf, hframe, Bool.false_eq_true, if_false]

theorem config_cases (h : SlotsFilled sps pps) :
    config sps pps = [] ∨ ∃ s p, config sps pps = [s, p] ∧ h264Type (s.getD 0 0) = nalSps ∧
      h264Type (p.getD 0 0) = nalPps := by
  match sps, pps, h with
  | none, _, _ => exact .inl rfl
  | some _, none, _ => exact .inl rfl
  | some s, some p, h =>
    exact .inr ⟨s.nal, p.nal, rfl, by simpa [isSps] using h.1 s rfl, by simpa [isPps] using h.2 p rfl⟩

theorem configAtNext_slots (h : SlotsFilled sps pps) (frames : List H264Frame) :
    ∃ sps' pps', SlotsFilled sps' pps' ∧ configAtNext sps pps frames = config sps' pps' := by
  induction frames generalizing sps pps with
  | nil => exact ⟨sps, pps, h, rfl⟩
  | cons frame frames ih =>
    cases hsps : isSps frame with
    | true => simpa only [configAtNext, hsps, if_true] using ih (h.withSps hsps)
    | false =>
      cases hpps : isPps frame with
      | true =>
        simpa only [configAtNext, hsps, hpps, Bool.false_eq_true, if_false, if_true] using ih (h.withPps hpps)
      | false =>
        exact ⟨sps, pps, h, by simp only [configAtNext, hsps, hpps, Bool.false_eq_true, if_false]⟩

theorem keyFrame_type {frame : H264Frame} (h : frame.keyFrame = true) :
    h264Type (frame.nal.getD 0 0) = nalIdr := by
  simp only [H264Frame.keyFrame, Bool.and_eq_true, decide_eq_true_eq] at h
  exact h.1

/-- A key frame tells where its parameter sets end. -/
theorem config_cancel {sps' pps' : Option H264Frame} {nal : List Byte} {l l' : List (List Byte)}
    (hnal : h264Type (nal.getD 0 0) = nalIdr) (hslots : SlotsFilled sps pps)
    (hslots' : SlotsFilled sps' pps') (h : config sps pps ++ nal :: l = config sps' pps' ++ nal :: l') :
    config sps pps = config sps' pps' ∧ l = l' := by
  have hdiffers : ∀ s : List Byte, h264Type (s.getD 0 0) = nalSps → s ≠ nal := by
    rintro s hs rfl
    rw [hs] at hnal
    exact absurd hnal (by decide)
  rcases config_cases hslots with hnil | ⟨s, p, hpair, hs, -⟩ <;>
    rcases config_cases hslots' with hnil' | ⟨s', p', hpair', hs', -⟩
  · rw [hnil, hnil'] at h ⊢
    exact ⟨rfl, (List.cons.inj h).2⟩
  · rw [hnil, hpair'] at h
    exact absurd (List.cons.inj h).1.symm (hdiffers s' hs')
  · rw [hpair, hnil'] at h
    exact absurd (List.cons.inj h).1 (hdiffers s hs)
  · rw [hpair, hpair'] at h ⊢
    simp only [List.cons_append, List.nil_append, List.cons.injEq, true_and] at h
    rw [h.1, h.2.1]
    exact ⟨rfl, h.2.2⟩

theorem configKept_of_nals {frames : List H264Frame} (hslots : SlotsFilled sps pps)
    (h : (sent sps pps none frames).map (·.nal) = (stream sps pps frames).map (·.nal)) :
    ConfigKept sps pps frames := by
  induction frames generalizing sps pps with
  | nil => trivial
  | cons frame frames ih =>
    cases hsps : isSps frame with
    | true =>
      simp only [ConfigKept, sent, stream, hsps, if_true] at h ⊢
      exact ih (hslots.withSps hsps) h
    | false =>
      cases hpps : isPps frame with
      | true =>
        simp only [ConfigKept, sent, stream, hsps, hpps, Bool.false_eq_true, if_false, if_true] at h ⊢
        exact ih (hslots.withPps hpps) h
      | false =>
        simp only [ConfigKept, hsps, hpps, Bool.false_eq_true, if_false]
        cases hnext : frames.find? isMedia with
        | none =>
          rw [sent_last hsps hpps hnext, stream_last hsps hpps hnext] at h
          have hnone : frames.any isMedia = false := by
            simpa [List.find?_eq_none] using hnext
          exact ⟨by simp [hnone], ih hslots h⟩
        | some next =>
          rw [sent_media hsps hpps hnext, stream_media hsps hpps hnext] at h
          obtain ⟨sps', pps', hslots', hat⟩ := configAtNext_slots hslots frames
          by_cases hkey : frame.keyFrame = true
          · have hnals : configAtNext sps pps frames ++
                frame.nal :: (sent sps pps none frames).map (·.nal) =
                config sps pps ++ frame.nal :: (stream sps pps frames).map (·.nal) := by
              simpa [unitsOf, hkey, Function.comp_def] using h
            rw [hat] at hnals ⊢
            obtain ⟨hconfig, hrest⟩ := config_cancel (keyFrame_type hkey) hslots' hslots hnals
            exact ⟨fun _ _ => hconfig, ih hslots hrest⟩
          · have hnals : (sent sps pps none frames).map (·.nal) =
                (stream sps pps frames).map (·.nal) := by
              simpa [unitsOf, hkey] using h
            exact ⟨fun hk => absurd hk hkey, ih hslots hnals⟩

/-- Beside parameter sets only frames of the stream are sent. -/
theorem sent_types {frames : List H264Frame} (hslots : SlotsFilled sps pps)
    (htypes : ∀ u ∈ stream sps pps frames, h264Type (u.nal.getD 0 0) < 24) :
    ∀ u ∈ sent sps pps none frames, h264Type (u.nal.getD 0 0) < 24 := by
  induction frames generalizing sps pps with
  | nil => simp [sent]
  | cons frame frames ih =>
    cases hsps : isSps frame with
    | true =>
      simp only [sent, stream, hsps, if_true] at htypes ⊢
      exact ih (hslots.withSps hsps) htypes
    | false =>
      cases hpps : isPps frame with
      | true =>
        simp only [sent, stream, hsps, hpps, Bool.false_eq_true, if_false, if_true] at htypes ⊢
        exact ih (hslots.withPps hpps) htypes
      | false =>
        cases hnext : frames.find? isMedia with
        | none =>
          rw [stream_last hsps hpps hnext] at htypes
          rw [sent_last hsps hpps hnext]
          exact ih hslots htypes
        | some next =>
          rw [stream_media hsps hpps hnext] at htypes
          rw [sent_media hsps hpps hnext]
          obtain ⟨sps', pps', hslots', hat⟩ := configAtNext_slots hslots frames
          have hconfig : ∀ nal ∈ configAtNext sps pps frames, h264Type (nal.getD 0 0) < 24 := by
            rw [hat]
            rcases config_cases hslots' with hnil | ⟨s, p, hpair, hs, hp⟩
            · simp [hnil]
            · rw [hpair]
              simp only [nalSps, nalPps] at hs hp
              simp only [List.mem_cons, List.not_mem_nil, or_false, forall_eq_or_imp, forall_eq]
              omega
          intro u hu
          rcases List.mem_append.mp hu with hu | hu
          · rcases List.mem_append.mp hu with hu | hu
            · have hnal : u.nal ∈ configAtNext sps pps frames := by
                by_cases hkey : frame.keyFrame = true
                · simp only [hkey, if_true, List.mem_map] at hu
                  obtain ⟨nal, hnal, rfl⟩ := hu
                  exact hnal
                · simp [hkey] at hu
              exact hconfig _ hnal
            · exact htypes u (List.mem_append_left _ (List.mem_append_right _ hu))
          · exact ih hslots (fun v hv => htypes v (List.mem_append_right _ hv)) u hu

/-! The packets that carry units. -/

theorem octets32_append (v : BitVec 32) :
    (v.extractLsb' 24 8 ++ v.extractLsb' 16 8 ++ v.extractLsb' 8 8 ++ v.extractLsb' 0 8 : BitVec 32) =
      v := by
  apply BitVec.eq_of_getLsbD_eq
  intro i hi
  simp only [BitVec.getLsbD_append, BitVec.getLsbD_extractLsb']
  grind

theorem built_getStamp (m : RtpMaker) (data : List Byte) (mark : Bool) (stamp : BitVec 32) :
    (m.built data mark stamp).getStamp = m.scaledStamp stamp := octets32_append _

theorem built_mark (m : RtpMaker) (data : List Byte) (mark : Bool) (stamp : BitVec 32) :
    (m.built data mark stamp).getHeader.mark = mark := by
  change (BitVec.ofBool mark ++ m.pt.extractLsb' 0 7 : BitVec 8).getLsbD 7 = mark
  rw [BitVec.getLsbD_append, if_neg (by decide), BitVec.getLsbD_ofBool]
  rfl

theorem builtAll_carries (htypes : ∀ u ∈ us, h264Type (u.nal.getD 0 0) < 24) {m' : RtpMaker}
    (hm' : m'.scaledStamp = m.scaledStamp) : Carries m (builtAll m' us) us := by
  induction us generalizing m' with
  | nil => exact .nil
  | cons u us ih =>
    refine .single (m'.built_getPayload ..) (htypes u List.mem_cons_self) ?_ (built_mark ..)
      (ih (fun v hv => htypes v (List.mem_cons_of_mem _ hv)) ?_)
    · rw [built_getStamp, hm']
    · exact hm'

theorem Carries.types {ps : List RtpPacket} (h : Carries m ps us) :
    ∀ u ∈ us, h264Type (u.nal.getD 0 0) < 24 := by
  induction h with
  | nil => simp
  | single _ htype _ _ _ ih => simpa using ⟨htype, ih⟩
  | fragments _ htype _ _ _ ih => simpa using ⟨htype, ih⟩

theorem fragment_type (nal : List Byte) (startBit endBit : Bool) (piece : List Byte) :
    h264Type ((fragment nal startBit endBit piece).getD 0 0) = 28 := by
  have hall : ∀ b : Byte, h264Type ((b &&& 0xE0) ||| 28) = 28 := by decide
  exact hall _

/-- Packets of single units carry no other units. -/
theorem Carries.nals (htypes : ∀ u ∈ us, h264Type (u.nal.getD 0 0) < 24) {m' : RtpMaker}
    (h : Carries m (builtAll m' us) vs) : us.map (·.nal) = vs.map (·.nal) := by
  induction us generalizing m' vs with
  | nil =>
    generalize hps : builtAll m' [] = ps at h
    cases h with
    | nil => rfl
    | single => cases hps
    | fragments hpayloads =>
      obtain ⟨first, middle, last, hgroup, -⟩ := hpayloads
      have hnil := (List.append_eq_nil_iff.mp hps.symm).1
      rw [hnil] at hgroup
      cases hgroup
  | cons u us ih =>
    generalize hps : builtAll m' (u :: us) = ps at h
    rw [builtAll] at hps
    cases h with
    | nil => cases hps
    | single hpayload _ _ _ hrest =>
      obtain ⟨rfl, rfl⟩ := List.cons.inj hps
      rw [RtpMaker.built_getPayload] at hpayload
      rw [List.map_cons, List.map_cons, hpayload,
        ih (fun v hv => htypes v (List.mem_cons_of_mem _ hv)) hrest]
    | @fragments group _ _ _ hpayloads =>
      obtain ⟨first, middle, last, hgroup, -⟩ := hpayloads
      cases group with
      | nil => simp at hgroup
      | cons p group =>
        obtain ⟨rfl, -⟩ := List.cons.inj hps
        have hfirst : (m'.built u.nal u.mark u.pts).getPayload = _ := (List.cons.inj hgroup).1
        rw [RtpMaker.built_getPayload] at hfirst
        have htype := htypes u List.mem_cons_self
        rw [hfirst, fragment_type] at htype
        omega

theorem slotsFilled_none : SlotsFilled none none := by simp [SlotsFilled]

theorem SendsStream.kept {m : RtpMaker} {frames : List H264Frame} (h : SendsStream m frames) :
    ConfigKept none none frames ∧
      ∀ u ∈ stream none none frames, Fits m u.nal ∧ h264Type (u.nal.getD 0 0) < 24 := by
  obtain ⟨e, rtps, hrun, hcarries⟩ := h
  have hout := inputFrames_out { toRtpMaker := m } frames
  rw [hrun] at hout
  cases hunits : packUnits m (sent none none none frames) with
  | error f =>
    simp only [hunits] at hout
    cases hout
  | ok r =>
    simp only [hunits, Except.map, Except.ok.injEq] at hout
    have hpacked : packUnits m (sent none none none frames) = .ok (r.1, rtps.map some) := by
      rw [hunits, hout]
    obtain ⟨hfits, rfl⟩ := fits_of_packUnits hpacked
    have htypes := sent_types slotsFilled_none hcarries.types
    have hkept := configKept_of_nals slotsFilled_none (hcarries.nals htypes)
    refine ⟨hkept, fun u hu => ⟨hfits u ?_, hcarries.types u hu⟩⟩
    rwa [sent_eq_stream hkept]

end RtpEncoderH264

end WifiDisplay
