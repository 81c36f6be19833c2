import WifiDisplay.RtpPacketSortorReordering
import WifiDisplay.RtpUnpackImpl

/-! Each payload type of `RtpUnpackImpl` as a sortor with a decoder behind it, whatever arrives for
the other types. -/

namespace WifiDisplay

/-! What a sortor holds and hands out has arrived. -/

namespace RtpPacketSortor

variable {P : Sorted → Prop} {s : RtpPacketSortor}

def Caches (P : Sorted → Prop) (s : RtpPacketSortor) : Prop := ∀ e ∈ s.pktSortCacheMap, P e

/-- What is left in the cache and what is handed out. -/
def Yields (P : Sorted → Prop) (r : RtpPacketSortor × List Sorted) : Prop :=
  Caches P r.1 ∧ ∀ e ∈ r.2, P e

theorem Caches.yields_nil (h : Caches P s) : Yields P (s, []) := ⟨h, List.forall_mem_nil _⟩

theorem Caches.popIterator (h : Caches P s) (seq : BitVec 16) : Caches P (s.popIterator seq) := by
  intro e he
  rw [popIterator_map] at he
  exact h e (OrderedMap.mem_erase.mp he).1

theorem Caches.popExpected (h : Caches P s) (n : Nat) : Yields P (RtpPacketSortor.popExpected n s) := by
  induction n generalizing s with
  | zero => exact h.yields_nil
  | succ n ih =>
    rw [RtpPacketSortor.popExpected]
    split
    · exact h.yields_nil
    · rename_i seq packet hfirst
      split
      · obtain ⟨hleft, hout⟩ := ih (h.popIterator seq)
        exact ⟨hleft, List.forall_mem_cons.mpr ⟨h _ (OrderedMap.lowerBound_some hfirst).1, hout⟩⟩
      · exact h.yields_nil

theorem Caches.popBegin (h : Caches P s) (n : Nat) : Yields P (RtpPacketSortor.popBegin n s) := by
  induction n generalizing s with
  | zero => exact h.yields_nil
  | succ n ih =>
    rw [RtpPacketSortor.popBegin]
    split
    · exact h.yields_nil
    · rename_i seq packet hfirst
      obtain ⟨hleft, hout⟩ := ih (h.popIterator seq)
      exact ⟨hleft, List.forall_mem_cons.mpr ⟨h _ (OrderedMap.begin?_some hfirst).1, hout⟩⟩

theorem Caches.popAndResize (h : Caches P s) : Yields P s.popAndResize := h.popExpected _

theorem Caches.tryPopPacket (h : Caches P s) : Yields P s.tryPopPacket := by
  rw [RtpPacketSortor.tryPopPacket]
  split
  · split
    · exact h.yields_nil
    · split
      · exact h.yields_nil
      · rename_i seq packet hfirst
        have hjumped : Caches P { s with nextSeqOut := seq } := h
        exact hjumped.popAndResize
  · exact h.popAndResize

theorem Caches.sortPacket (h : Caches P s) {seq : BitVec 16} {packet : RtpPacket} (hnew : P (seq, packet)) :
    Yields P (s.sortPacket seq packet) := by
  rw [RtpPacketSortor.sortPacket]
  split
  · dsimp only
    split <;> exact ⟨h, List.forall_mem_nil _⟩
  · apply Caches.tryPopPacket
    intro e he
    rcases OrderedMap.mem_of_mem_emplace he with rfl | he
    · exact hnew
    · exact h e he

theorem Caches.changeSsrc (h : Caches P s) (rtp : RtpPacket) : Yields P (s.changeSsrc rtp) := by
  have hentered : Caches P { s with ssrc := rtp.getSSRC } := h
  refine ⟨fun e he => ?_, (hentered.popBegin _).2⟩
  rw [← OrderedMap.mem_toList] at he
  exact absurd he List.not_mem_nil

theorem Caches.inputRtp (h : Caches P s) (type : TrackType) (bytes : List Byte)
    (hnew : P (RtpHeader.seq bytes, { data := bytes, sampleRate := s.sampleRate, type })) :
    Caches P (s.inputRtp type (some bytes)).1 ∧
      ∀ e ∈ (s.inputRtp type (some bytes)).2.flushed.getD [] ++ (s.inputRtp type (some bytes)).2.sorted,
        P e := by
  simp only [RtpPacketSortor.inputRtp]
  split
  · exact ⟨h, List.forall_mem_nil _⟩
  · split
    · obtain ⟨hleft, hflushed⟩ := h.changeSsrc { data := bytes, sampleRate := s.sampleRate, type }
      obtain ⟨hleft', hsorted⟩ := hleft.sortPacket hnew
      exact ⟨hleft', List.forall_mem_append.mpr ⟨hflushed, hsorted⟩⟩
    · obtain ⟨hleft, hsorted⟩ := h.sortPacket hnew
      exact ⟨hleft, List.forall_mem_append.mpr ⟨List.forall_mem_nil _, hsorted⟩⟩

theorem popExpected_ssrc (n : Nat) (s : RtpPacketSortor) : (popExpected n s).1.ssrc = s.ssrc := by
  induction n generalizing s with
  | zero => rfl
  | succ n ih =>
    simp only [RtpPacketSortor.popExpected]
    split
    · rfl
    · split
      · exact ih _
      · rfl

theorem sortPacket_ssrc (s : RtpPacketSortor) (seq : BitVec 16) (packet : RtpPacket) :
    (s.sortPacket seq packet).1.ssrc = s.ssrc := by
  simp only [RtpPacketSortor.sortPacket, RtpPacketSortor.tryPopPacket, RtpPacketSortor.popAndResize,
    setSortSize]
  repeat' split
  all_goals simp [popExpected_ssrc]

/-- A packet that is taken brings its SSRC along. -/
theorem inputRtp_ssrc (s : RtpPacketSortor) (type : TrackType) {bytes : List Byte}
    (h : s.wellFormed bytes) : (s.inputRtp type (some bytes)).1.ssrc = RtpHeader.ssrc bytes := by
  by_cases hsame : s.ssrc = RtpHeader.ssrc bytes
  · rw [inputRtp_same (p := (type, bytes)) h hsame]
    exact (sortPacket_ssrc _ _ _).trans hsame
  · rw [inputRtp_other (p := (type, bytes)) h hsame]
    exact (sortPacket_ssrc _ _ _).trans (changeSsrc_settings s (packetOf s.sampleRate (type, bytes))).1.ssrc

end RtpPacketSortor

namespace RtpUnpackImpl

variable {σ F : Type} (D : RtpDecoders σ F)

/-- Packets fed to a decoder one after another. -/
def decodeAll (decoder : σ) : List RtpPacket → σ × List F
  | [] => (decoder, [])
  | rtp :: rtps =>
    let (decoder, frames) := D.inputRtp decoder rtp
    let (decoder, frames') := decodeAll decoder rtps
    (decoder, frames ++ frames')

theorem decodeAll_append (decoder : σ) (rtps rtps' : List RtpPacket) :
    decodeAll D decoder (rtps ++ rtps') =
      ((decodeAll D (decodeAll D decoder rtps).1 rtps').1,
        (decodeAll D decoder rtps).2 ++ (decodeAll D (decodeAll D decoder rtps).1 rtps').2) := by
  induction rtps generalizing decoder with
  | nil => rfl
  | cons rtp rtps ih => simp [decodeAll, ih]

/-- What serves one payload type. -/
structure Lane (σ : Type) where
  sort : RtpPacketSortor
  decoder : σ

namespace Lane

def inputRtp (l : Lane σ) (bytes : List Byte) : Lane σ × List (Unpacked F) :=
  let (sort, emitted) := l.sort.inputRtp .trackVideo (some bytes)
  let (decoder, frames) := decodeAll D l.decoder ((emitted.flushed.getD [] ++ emitted.sorted).map Prod.snd)
  ({ sort, decoder }, frames.map fun frame => (some sort.ssrc, frame))

def step (l : Lane σ) : Call → Lane σ × List (Unpacked F)
  | .setOnRtpUnpack | .parseRtp none => (l, [])
  | .parseRtp (some bytes) => l.inputRtp D bytes
  | .thread _ choice =>
    let (decoder, frames) := D.thread l.decoder choice
    ({ l with decoder }, frames.map fun frame => (some l.sort.ssrc, frame))

def run (l : Lane σ) : List Call → Lane σ × List (Unpacked F)
  | [] => (l, [])
  | call :: calls =>
    let (l, out) := l.step D call
    let (l, out') := run l calls
    (l, out ++ out')

theorem run_append (l : Lane σ) (calls calls' : List Call) :
    l.run D (calls ++ calls') =
      (((l.run D calls).1.run D calls').1, (l.run D calls).2 ++ ((l.run D calls).1.run D calls').2) := by
  induction calls generalizing l with
  | nil => rfl
  | cons call calls ih => simp [run, ih]

end Lane

/-- The calls that have to do with a payload type. -/
def concerns (pt : Byte) : Call → Bool
  | .parseRtp (some bytes) => sizeofRtpHeader ≤ bytes.length && payloadType bytes = pt
  | .thread pt' _ => pt' = pt
  | _ => false

def after (u : RtpUnpackImpl σ) (calls : List Call) : RtpUnpackImpl σ :=
  calls.foldl (fun u call => (step D u call).1) u

/-- What the calls for a payload type hand out. -/
def deliveredFor (pt : Byte) (u : RtpUnpackImpl σ) : List Call → List (Unpacked F)
  | [] => []
  | call :: calls =>
    (if concerns pt call then (step D u call).2 else []) ++ deliveredFor pt (step D u call).1 calls

structure Serves (u : RtpUnpackImpl σ) (pt : Byte) (l : Lane σ) : Prop where
  sort : u.rtpSort.pointer pt = some l.sort
  decoder : u.rtpDecoder.pointer pt = some l.decoder

/-- The invariant of an unpacker with a callback. -/
structure Running (u : RtpUnpackImpl σ) : Prop where
  callback : u.onRtpUnpack = true
  sorts : ∀ pt, (u.rtpDecoder.pointer pt).isSome → (u.rtpSort.pointer pt).isSome
  typed : ∀ pt sort, u.rtpSort.pointer pt = some sort →
    sort.Caches fun e => payloadType e.2.data = pt

/-- Nothing has changed for the other payload types. -/
structure Elsewhere (pt : Byte) (u u' : RtpUnpackImpl σ) : Prop where
  sort : ∀ pt', pt' ≠ pt → u'.rtpSort.pointer pt' = u.rtpSort.pointer pt'
  decoder : ∀ pt', pt' ≠ pt → u'.rtpDecoder.pointer pt' = u.rtpDecoder.pointer pt'

/-- A payload type has been served, and no other one. -/
structure Turn (pt : Byte) (u : RtpUnpackImpl σ) (r : RtpUnpackImpl σ × List (Unpacked F))
    (r' : Lane σ × List (Unpacked F)) : Prop where
  running : Running r.1
  serves : r.1.Serves pt r'.1
  elsewhere : Elsewhere pt u r.1
  out : r.2 = r'.2

variable {D} {u u' : RtpUnpackImpl σ} {pt : Byte} {l : Lane σ}

theorem Elsewhere.trans {u'' : RtpUnpackImpl σ} (h : Elsewhere pt u u') (h' : Elsewhere pt u' u'') :
    Elsewhere pt u u'' :=
  ⟨fun pt' hne => (h'.sort pt' hne).trans (h.sort pt' hne),
    fun pt' hne => (h'.decoder pt' hne).trans (h.decoder pt' hne)⟩

theorem Elsewhere.serves {pt' : Byte} (h : Elsewhere pt' u u') (hne : pt ≠ pt') (hl : u.Serves pt l) :
    u'.Serves pt l :=
  ⟨(h.sort pt hne).trans hl.sort, (h.decoder pt hne).trans hl.decoder⟩

theorem Alike.serves (h : Alike u u') (hl : u.Serves pt l) : u'.Serves pt l :=
  ⟨(h.rtpSort pt).symm.trans hl.sort, (h.rtpDecoder pt).symm.trans hl.decoder⟩

theorem Alike.running (h : Alike u u') (hu : u.Running) : u'.Running where
  callback := h.onRtpUnpack.symm.trans hu.callback
  sorts pt hpt := by
    rw [← h.rtpDecoder] at hpt
    rw [← h.rtpSort]
    exact hu.sorts pt hpt
  typed pt sort hsort := hu.typed pt sort ((h.rtpSort pt).trans hsort)

theorem Alike.elsewhere (h : Alike u u') (pt : Byte) : Elsewhere pt u u' :=
  ⟨fun pt' _ => (h.rtpSort pt').symm, fun pt' _ => (h.rtpDecoder pt').symm⟩

/-- A decoder has a new state. -/
theorem Running.assign (hu : u.Running) (hl : u.Serves pt l) (decoder : σ) (nextOutSeq : BitVec 16) :
    Running { u with nextOutSeq, rtpDecoder := u.rtpDecoder.assign pt (some decoder) } where
  callback := hu.callback
  sorts pt' hpt' := by
    rw [OrderedMap.pointer_assign] at hpt'
    split at hpt'
    · rename_i heq
      rw [heq, hl.sort]
      rfl
    · exact hu.sorts pt' hpt'
  typed := hu.typed

theorem Serves.assign (hl : u.Serves pt l) (decoder : σ) (nextOutSeq : BitVec 16) :
    Serves { u with nextOutSeq, rtpDecoder := u.rtpDecoder.assign pt (some decoder) } pt
      { l with decoder } :=
  ⟨hl.sort, by simp [OrderedMap.pointer_assign]⟩

theorem Elsewhere.assign (u : RtpUnpackImpl σ) (pt : Byte) (decoder : Option σ) (nextOutSeq : BitVec 16) :
    Elsewhere pt u { u with nextOutSeq, rtpDecoder := u.rtpDecoder.assign pt decoder } := by
  refine ⟨fun pt' _ => rfl, fun pt' hne => ?_⟩
  rw [OrderedMap.pointer_assign, if_neg hne]

theorem Running.assignSort (hu : u.Running) {sort : RtpPacketSortor}
    (hsort : sort.Caches fun e => payloadType e.2.data = pt) :
    Running { u with rtpSort := u.rtpSort.assign pt (some sort) } where
  callback := hu.callback
  sorts pt' hpt' := by
    rw [OrderedMap.pointer_assign]
    split
    · rfl
    · exact hu.sorts pt' hpt'
  typed pt' sort' hsort' := by
    rw [OrderedMap.pointer_assign] at hsort'
    split at hsort'
    · rename_i heq
      rw [← Option.some.inj hsort', heq]
      exact hsort
    · exact hu.typed pt' sort' hsort'

theorem Serves.assignSort (hl : u.Serves pt l) (sort : RtpPacketSortor) :
    Serves { u with rtpSort := u.rtpSort.assign pt (some sort) } pt { l with sort } :=
  ⟨by simp [OrderedMap.pointer_assign], hl.decoder⟩

theorem Elsewhere.assignSort (u : RtpUnpackImpl σ) (pt : Byte) (sort : Option RtpPacketSortor) :
    Elsewhere pt u { u with rtpSort := u.rtpSort.assign pt sort } := by
  refine ⟨fun pt' hne => ?_, fun pt' _ => rfl⟩
  rw [OrderedMap.pointer_assign, if_neg hne]

theorem onRtpDecode_serves (hcallback : u.onRtpUnpack = true) (hl : u.Serves pt l) (frames : List F) :
    u.onRtpDecode pt frames = frames.map fun frame => (some l.sort.ssrc, frame) := by
  rw [onRtpDecode, if_pos hcallback, hl.sort]
  rfl

theorem turn_onRtpSorted (hu : u.Running) (hl : u.Serves pt l) {rtp : RtpPacket}
    (hpt : payloadType rtp.data = pt) :
    Turn pt u (onRtpSorted D u rtp) ({ l with decoder := (D.inputRtp l.decoder rtp).1 },
      (D.inputRtp l.decoder rtp).2.map fun frame => (some l.sort.ssrc, frame)) := by
  have hindex := (Alike.index u pt).symm
  have hl' := hindex.serves hl
  have hu' := hindex.running hu
  simp only [onRtpSorted, hpt, hl'.decoder]
  have hserves := hl'.assign (D.inputRtp l.decoder rtp).1
    (if u.nextOutSeq = 0xFFFF then 1 else rtp.getSeq + 1)
  have hrunning := hu'.assign hl' (D.inputRtp l.decoder rtp).1
    (if u.nextOutSeq = 0xFFFF then 1 else rtp.getSeq + 1)
  have hout := onRtpDecode_serves hrunning.callback hserves (D.inputRtp l.decoder rtp).2
  exact ⟨hrunning, hserves, (hindex.elsewhere pt).trans (.assign _ _ _ _), hout⟩

theorem turn_onSort (hu : u.Running) (hl : u.Serves pt l) {sorted : List RtpPacketSortor.Sorted}
    (hpt : ∀ e ∈ sorted, payloadType e.2.data = pt) :
    Turn pt u (onSort D u sorted)
      ({ l with decoder := (decodeAll D l.decoder (sorted.map Prod.snd)).1 },
        (decodeAll D l.decoder (sorted.map Prod.snd)).2.map fun frame => (some l.sort.ssrc, frame)) := by
  induction sorted generalizing u l with
  | nil => exact ⟨hu, hl, ⟨fun _ _ => rfl, fun _ _ => rfl⟩, rfl⟩
  | cons e rest ih =>
    have hfirst := turn_onRtpSorted (D := D) hu hl (hpt e List.mem_cons_self)
    have hrest := ih hfirst.running hfirst.serves fun e' he' => hpt e' (List.mem_cons_of_mem e he')
    refine ⟨hrest.running, hrest.serves, hfirst.elsewhere.trans hrest.elsewhere, ?_⟩
    simp only [onSort, List.map_cons, decodeAll, List.map_append]
    rw [hfirst.out, hrest.out]

theorem turn_inputSort (hu : u.Running) (hl : u.Serves pt l) {bytes : List Byte}
    (hpt : payloadType bytes = pt) : Turn pt u (inputSort D u pt bytes) (l.inputRtp D bytes) := by
  have hindex : Alike u { u with rtpSort := u.rtpSort.emplace pt none } :=
    ⟨rfl, fun _ => rfl, fun pt' => (OrderedMap.pointer_emplace _ _ _).symm, rfl⟩
  have hl' := hindex.serves hl
  have hu' := hindex.running hu
  obtain ⟨hcached, hout⟩ := (hu.typed pt l.sort hl.sort).inputRtp .trackVideo bytes hpt
  simp only [inputSort, hl'.sort, Lane.inputRtp]
  have hturn := turn_onSort (D := D) (hu'.assignSort hcached)
    (hl'.assignSort (l.sort.inputRtp .trackVideo (some bytes)).1) hout
  exact ⟨hturn.running, hturn.serves,
    ((hindex.elsewhere pt).trans (.assignSort _ _ _)).trans hturn.elsewhere, hturn.out⟩

/-- A call for a payload type that is served. -/
theorem turn_step (hu : u.Running) (hl : u.Serves pt l) {call : Call} (hcall : concerns pt call) :
    Turn pt u (step D u call) (l.step D call) := by
  cases call with
  | setOnRtpUnpack => exact absurd hcall Bool.false_ne_true
  | thread pt' choice =>
    obtain rfl : pt' = pt := by simpa [concerns] using hcall
    simp only [step, hl.decoder]
    have hserves := hl.assign (D.thread l.decoder choice).1 u.nextOutSeq
    have hrunning := hu.assign hl (D.thread l.decoder choice).1 u.nextOutSeq
    have hout := onRtpDecode_serves hrunning.callback hserves (D.thread l.decoder choice).2
    exact ⟨hrunning, hserves, .assign _ _ _ _, hout⟩
  | parseRtp data =>
    cases data with
    | none => exact absurd hcall Bool.false_ne_true
    | some bytes =>
      obtain ⟨hsize, hpt⟩ : sizeofRtpHeader ≤ bytes.length ∧ payloadType bytes = pt := by
        simpa [concerns] using hcall
      have hindex := (Alike.index u pt).symm
      have hl' := hindex.serves hl
      simp only [step, parseRtp, if_neg (Nat.not_lt.mpr hsize), hpt, hl'.decoder]
      have hturn := turn_inputSort (D := D) (hindex.running hu) hl' hpt
      exact ⟨hturn.running, hturn.serves, (hindex.elsewhere pt).trans hturn.elsewhere, hturn.out⟩

/-- A new sortor for a payload type. -/
theorem typed_create (sampleRate : BitVec 32) (pt : Byte) :
    (RtpPacketSortor.create sampleRate).Caches fun e => payloadType e.2.data = pt := by
  intro e he
  rw [← OrderedMap.mem_toList] at he
  exact absurd he List.not_mem_nil

/-- A payload type gets a decoder and an empty sortor. -/
theorem running_createRtpDecoder (hu : u.Running) (rpp : RtpPlaylodParam) {decoder : σ}
    (hmake : make D rpp = some decoder) : Running (createRtpDecoder D u rpp) ∧
      Serves (createRtpDecoder D u rpp) (rpp.pt.setWidth 8) { sort := .create rpp.sampleRate, decoder } ∧
      Elsewhere (rpp.pt.setWidth 8) u (createRtpDecoder D u rpp) := by
  have hcreate : createRtpDecoder D u rpp =
      { u with
        rtpSort := u.rtpSort.assign (rpp.pt.setWidth 8) (some (.create rpp.sampleRate))
        rtpDecoder := u.rtpDecoder.assign (rpp.pt.setWidth 8) (some decoder) } := by
    simp [createRtpDecoder, hmake, OrderedMap.pointer_assign]
  have hsort := hu.assignSort (typed_create rpp.sampleRate (rpp.pt.setWidth 8))
  rw [hcreate]
  refine ⟨⟨hu.callback, fun pt hpt => ?_, hsort.typed⟩,
    ⟨by simp [OrderedMap.pointer_assign], by simp [OrderedMap.pointer_assign]⟩,
    (Elsewhere.assignSort _ _ _).trans (.assign _ _ _ _)⟩
  rw [OrderedMap.pointer_assign] at hpt ⊢
  by_cases heq : pt = rpp.pt.setWidth 8
  · rw [if_pos heq]
    rfl
  · rw [if_neg heq] at hpt ⊢
    exact hu.sorts pt hpt

theorem Running.serves (hu : u.Running) {decoder : σ} (hdecoder : u.rtpDecoder.pointer pt = some decoder) :
    ∃ sort, u.Serves pt { sort, decoder } := by
  obtain ⟨sort, hsort⟩ := Option.isSome_iff_exists.mp (hu.sorts pt (by simp [hdecoder]))
  exact ⟨sort, hsort, hdecoder⟩

/-- A call leaves the payload types alone that it has nothing to do with. -/
theorem elsewhere_step (hu : u.Running) (call : Call) : (step D u call).1.Running ∧
    ∀ pt l, ¬ concerns pt call → u.Serves pt l → (step D u call).1.Serves pt l := by
  cases call with
  | setOnRtpUnpack => exact ⟨⟨rfl, hu.sorts, hu.typed⟩, fun pt l _ hl => ⟨hl.sort, hl.decoder⟩⟩
  | thread pt' choice =>
    cases hdecoder : u.rtpDecoder.pointer pt' with
    | none =>
      simp only [step, hdecoder]
      exact ⟨hu, fun pt l _ hl => hl⟩
    | some decoder =>
      obtain ⟨sort, hserves⟩ := hu.serves hdecoder
      have hconcerns : concerns pt' (.thread pt' choice) := by simp [concerns]
      have hturn := turn_step (D := D) hu hserves hconcerns
      refine ⟨hturn.running, fun pt l hcall hl => hturn.elsewhere.serves ?_ hl⟩
      rintro rfl
      exact hcall hconcerns
  | parseRtp data =>
    cases data with
    | none => exact ⟨hu, fun pt l _ hl => hl⟩
    | some bytes =>
      by_cases hsize : bytes.length < sizeofRtpHeader
      · simp only [step, parseRtp, if_pos hsize]
        exact ⟨hu, fun pt l _ hl => hl⟩
      have hconcerns : concerns (payloadType bytes) (.parseRtp (some bytes)) := by
        simpa [concerns] using Nat.not_lt.mp hsize
      have hne {pt : Byte} (hcall : ¬ concerns pt (.parseRtp (some bytes))) : pt ≠ payloadType bytes := by
        rintro rfl
        exact hcall hconcerns
      cases hdecoder : u.rtpDecoder.pointer (payloadType bytes) with
      | some decoder =>
        obtain ⟨sort, hserves⟩ := hu.serves hdecoder
        have hturn := turn_step (D := D) hu hserves hconcerns
        exact ⟨hturn.running, fun pt l hcall hl => hturn.elsewhere.serves (hne hcall) hl⟩
      | none =>
        have hindex := (Alike.index u (payloadType bytes)).symm
        have hu' := hindex.running hu
        simp only [step, parseRtp, if_neg hsize, OrderedMap.pointer_emplace, hdecoder]
        split
        · exact ⟨hu', fun pt l _ hl => hindex.serves hl⟩
        · split
          · rename_i hpt
            obtain ⟨hrunning, hserves, helsewhere⟩ := running_createRtpDecoder (D := D) hu'
              { pt := 33, sampleRate := 90000, ps := .mpeg2Ts } rfl
            have htype : BitVec.setWidth 8 (33 : BitVec 32) = payloadType bytes := hpt.symm
            rw [htype] at hserves helsewhere
            have hturn := turn_inputSort (D := D) hrunning hserves rfl
            refine ⟨hturn.running, fun pt l hcall hl => ?_⟩
            exact hturn.elsewhere.serves (hne hcall) (helsewhere.serves (hne hcall) (hindex.serves hl))
          · exact ⟨hu', fun pt l _ hl => hindex.serves hl⟩

theorem running_after (hu : u.Running) (calls : List Call) : (after D u calls).Running := by
  induction calls generalizing u with
  | nil => exact hu
  | cons call calls ih => exact ih (elsewhere_step hu call).1

theorem running_create (D : RtpDecoders σ F) (rpp : Option RtpPlaylodParam) :
    Running { create D rpp with onRtpUnpack := true } := by
  have hempty : Running ({ onRtpUnpack := true } : RtpUnpackImpl σ) := by
    refine ⟨rfl, fun pt hpt => absurd hpt Bool.false_ne_true, fun pt sort hsort => ?_⟩
    cases hsort
  cases rpp with
  | none => exact hempty
  | some rpp =>
    cases hmake : make D rpp with
    | none =>
      have hcreate : create D (some rpp) =
          { ({} : RtpUnpackImpl σ) with rtpDecoder := OrderedMap.empty.emplace (rpp.pt.setWidth 8) none } := by
        simp only [create, createRtpDecoder, hmake, OrderedMap.pointer_emplace]
        rfl
      rw [hcreate]
      exact (Alike.index _ _).symm.running hempty
    | some decoder =>
      have hcreate : { create D (some rpp) with onRtpUnpack := true } =
          createRtpDecoder D { onRtpUnpack := true } rpp := by
        simp [create, createRtpDecoder, hmake, OrderedMap.pointer_assign]
      rw [hcreate]
      exact (running_createRtpDecoder hempty rpp hmake).1

/-- A payload type is served in a run as by its sortor and its decoder alone. -/
theorem serves_run (hu : u.Running) (hl : u.Serves pt l) (calls : List Call) :
    (after D u calls).Serves pt (l.run D (calls.filter (concerns pt))).1 ∧
      deliveredFor D pt u calls = (l.run D (calls.filter (concerns pt))).2 := by
  induction calls generalizing u l with
  | nil => exact ⟨hl, rfl⟩
  | cons call calls ih =>
    by_cases hcall : concerns pt call
    · have hturn := turn_step (D := D) hu hl hcall
      obtain ⟨hserves, hout⟩ := ih hturn.running hturn.serves
      rw [List.filter_cons_of_pos hcall]
      refine ⟨hserves, ?_⟩
      rw [deliveredFor, if_pos hcall, hturn.out, hout]
      rfl
    · obtain ⟨hrunning, hothers⟩ := elsewhere_step (D := D) hu call
      obtain ⟨hserves', hout⟩ := ih hrunning (hothers pt l hcall hl)
      rw [List.filter_cons_of_neg hcall]
      refine ⟨hserves', ?_⟩
      rw [deliveredFor, if_neg hcall, hout, List.nil_append]

/-- In every run a payload type that has a decoder is served as by a sortor and a decoder of its own:
calls for other types change neither its state nor what it hands out. -/
theorem payloadTypes_independent (D : RtpDecoders σ F) (rpp : Option RtpPlaylodParam)
    (before calls : List Call) {pt : Byte} {l : Lane σ}
    (hl : (after D (create D rpp) (.setOnRtpUnpack :: before)).Serves pt l) :
    (after D (create D rpp) (.setOnRtpUnpack :: before ++ calls)).Serves pt
        (l.run D (calls.filter (concerns pt))).1 ∧
      deliveredFor D pt (after D (create D rpp) (.setOnRtpUnpack :: before)) calls =
        (l.run D (calls.filter (concerns pt))).2 := by
  have hrunning : (after D (create D rpp) (.setOnRtpUnpack :: before)).Running :=
    running_after (running_create D rpp) before
  obtain ⟨hserves, hout⟩ := serves_run hrunning hl calls
  refine ⟨?_, hout⟩
  rw [after, List.foldl_append]
  exact hserves

theorem create_serves (D : RtpDecoders σ F) {rpp : RtpPlaylodParam} {decoder : σ}
    (hmake : make D rpp = some decoder) : (after D (create D (some rpp)) [.setOnRtpUnpack]).Serves
      (rpp.pt.setWidth 8) { sort := .create rpp.sampleRate, decoder } := by
  refine ⟨?_, ?_⟩ <;>
    simp [after, step, create, createRtpDecoder, hmake, OrderedMap.pointer_assign]

/-- A packet of type 97 among those of type 33. -/
theorem payloadTypes_independent_foreign :
    let D := queueDecoders
    let l : Lane (List RtpPacket) := { sort := .create 90000, decoder := [] }
    let calls : List Call :=
      [.parseRtp (some (smallPacket 33)), .parseRtp (some (smallPacket 97)), .thread 33 1]
    (after D (create D (some { pt := 33, ps := .mpeg2Ts })) (.setOnRtpUnpack :: [] ++ calls)).Serves 33
        (l.run D (calls.filter (concerns 33))).1 ∧
      deliveredFor D 33 (after D (create D (some { pt := 33, ps := .mpeg2Ts })) [.setOnRtpUnpack]) calls =
        (l.run D (calls.filter (concerns 33))).2 :=
  payloadTypes_independent queueDecoders (some { pt := 33, ps := .mpeg2Ts }) [] _
    (create_serves queueDecoders rfl)

/-! A stream of one payload type. -/

def parseCalls (received : List (List Byte)) : List Call := received.map fun bytes => .parseRtp (some bytes)

/-- The packets of a stream that arrive in an order of their own. -/
def arriving (packets : List (List Byte)) (order : List ℕ) : List (List Byte) :=
  order.filterMap fun i => packets[i]?

/-- The calls of the sortor of a lane. -/
def sortorInputs (received : List (List Byte)) : List RtpPacketSortor.Input :=
  received.map fun bytes => (.trackVideo, some bytes)

/-- The unpacker takes every packet for one of a video track. -/
def videoStream (packets : List (List Byte)) : RtpPacketSortor.Stream :=
  packets.map fun bytes => (.trackVideo, bytes)

theorem sortorInputs_arriving (packets : List (List Byte)) (order : List ℕ) :
    sortorInputs (arriving packets order) = RtpPacketSortor.arrivals (videoStream packets) order := by
  rw [sortorInputs, arriving, RtpPacketSortor.arrivals, videoStream, List.map_filterMap]
  apply List.filterMap_congr
  intro i _
  rw [List.getElem?_map, Option.map_map]
  rfl

/-- What a lane's sortor has handed out after the packets. -/
def sortedOf (sort : RtpPacketSortor) (received : List (List Byte)) : List RtpPacket :=
  (RtpPacketSortor.run sort (sortorInputs received)).2.periods.flatten.map Prod.snd

theorem sortedOf_concat (sort : RtpPacketSortor) (received : List (List Byte)) (bytes : List Byte) :
    sortedOf sort (received ++ [bytes]) = sortedOf sort received ++
      let emitted := ((RtpPacketSortor.run sort (sortorInputs received)).1.inputRtp .trackVideo (some bytes)).2
      (emitted.flushed.getD [] ++ emitted.sorted).map Prod.snd := by
  have hinputs : sortorInputs (received ++ [bytes]) = sortorInputs received ++ [(.trackVideo, some bytes)] := by
    simp [sortorInputs]
  rw [sortedOf, sortedOf, hinputs, ← RtpPacketSortor.step_run]
  simp only [RtpPacketSortor.step, RtpPacketSortor.record_flatten, List.map_append]

/-- A lane feeds its decoder with what its sortor hands out. -/
theorem lane_run_parse (D : RtpDecoders σ F) (l : Lane σ) (received : List (List Byte)) :
    (l.run D (parseCalls received)).1.sort = (RtpPacketSortor.run l.sort (sortorInputs received)).1 ∧
      (l.run D (parseCalls received)).1.decoder = (decodeAll D l.decoder (sortedOf l.sort received)).1 ∧
      (l.run D (parseCalls received)).2.map Prod.snd =
        (decodeAll D l.decoder (sortedOf l.sort received)).2 := by
  induction received using List.reverseRecOn with
  | nil => exact ⟨rfl, rfl, rfl⟩
  | append_singleton received bytes ih =>
    obtain ⟨hsort, hdecoder, hout⟩ := ih
    have hcalls : parseCalls (received ++ [bytes]) = parseCalls received ++ [.parseRtp (some bytes)] := by
      simp [parseCalls]
    have hinputs : sortorInputs (received ++ [bytes]) =
        sortorInputs received ++ [(.trackVideo, some bytes)] := by
      simp [sortorInputs]
    rw [hcalls, Lane.run_append, sortedOf_concat, hinputs, ← RtpPacketSortor.step_run, decodeAll_append]
    simp only [Lane.run, Lane.step, Lane.inputRtp, hsort, hdecoder, RtpPacketSortor.step, List.append_nil]
    refine ⟨trivial, trivial, ?_⟩
    refine List.map_append.trans ?_
    rw [hout, List.map_map]
    exact congrArg _ (List.map_id _)

/-- The frames of a lane whose sortor has one SSRC whenever it hands something out. -/
theorem lane_run_ssrc (D : RtpDecoders σ F) (l : Lane σ) {ssrc : BitVec 32} {received : List (List Byte)}
    (hssrc : ∀ k < received.length,
      (RtpPacketSortor.run l.sort (sortorInputs (received.take (k + 1)))).1.ssrc = ssrc) :
    ∀ f ∈ (l.run D (parseCalls received)).2, f.1 = some ssrc := by
  induction received using List.reverseRecOn with
  | nil => exact List.forall_mem_nil _
  | append_singleton received bytes ih =>
    have hcalls : parseCalls (received ++ [bytes]) = parseCalls received ++ [.parseRtp (some bytes)] := by
      simp [parseCalls]
    have hlast := hssrc received.length (by simp)
    rw [show received.length + 1 = (received ++ [bytes]).length by simp, List.take_length,
      ← (lane_run_parse D l (received ++ [bytes])).1] at hlast
    rw [hcalls, Lane.run_append] at hlast ⊢
    refine List.forall_mem_append.mpr ⟨ih fun k hk => ?_, ?_⟩
    · have hbefore := hssrc k (by simp; omega)
      rwa [List.take_append_of_le_length (by omega)] at hbefore
    · intro f hf
      simp only [Lane.run, Lane.step, Lane.inputRtp, List.append_nil] at hf hlast
      obtain ⟨frame, -, rfl⟩ := List.mem_map.mp hf
      exact congrArg some hlast

section Stream

open RtpPacketSortor

variable {ssrc : BitVec 32} {first : BitVec 16} {packets : List (List Byte)} {order : List ℕ}

def packetsOf (rate : BitVec 32) (packets : List (List Byte)) : List RtpPacket :=
  (videoStream packets).map (packetOf rate)

/-- What is handed out are the first packets of the stream, and all of them if all have arrived. -/
theorem inOrder_sorted {rate : BitVec 32} {kMax kMin : ℕ} {arrived : List ℕ}
    {r : RtpPacketSortor × RtpPacketSortor.History} (hrun : RunOf ssrc first (videoStream packets))
    (h : InOrder rate ssrc kMax kMin first (streamPacket rate (videoStream packets)) arrived r)
    (harrived : ∀ i ∈ arrived, i < packets.length) :
    ∃ m ≤ packets.length, r.2.periods.flatten.map Prod.snd = packetsOf rate (packets.take m) ∧
      ((∀ i < packets.length, i ∈ arrived) → m = packets.length) := by
  obtain ⟨m, hsorting, hout⟩ := h
  have hlength : (videoStream packets).length = packets.length := by simp [videoStream]
  have hm : m ≤ packets.length := by
    by_contra hlt
    exact absurd (harrived packets.length (hsorting.done _ (by omega))) (Nat.lt_irrefl _)
  refine ⟨m, hm, ?_, fun hall => ?_⟩
  · rw [hout, List.map_map]
    apply List.ext_getElem
    · simp [packetsOf, videoStream, hm]
    · intro i hi hi'
      rw [List.length_map, List.length_range] at hi
      have hentry : entry first (streamPacket rate (videoStream packets)) i = _ := hrun.entry (by omega)
      simpa [packetsOf, videoStream] using congrArg Prod.snd hentry
  · by_contra hne
    exact hsorting.missing (hall m (by omega))

theorem take_arriving (horder : order.Perm (List.range packets.length)) (k : ℕ) :
    (arriving packets order).take k = arriving packets (order.take k) := by
  have hfull : ∀ order : List ℕ, (∀ i ∈ order, i < packets.length) → ∀ k,
      (arriving packets order).take k = arriving packets (order.take k) := by
    intro order horder
    induction order with
    | nil => simp [arriving]
    | cons i order ih =>
      intro k
      have hi := horder i List.mem_cons_self
      cases k with
      | zero => simp [arriving]
      | succ k =>
        have hrest := ih (fun j hj => horder j (List.mem_cons_of_mem i hj)) k
        simp only [arriving, List.filterMap_cons, List.getElem?_eq_getElem hi, List.take_succ_cons] at hrest ⊢
        rw [hrest]
  exact hfull order (fun i hi => List.mem_range.mp (horder.mem_iff.mp hi)) k

/-- A new sortor after some of the packets of a stream. -/
theorem sorted_arriving {rate : BitVec 32} (hrun : RunOf ssrc first (videoStream packets)) (hrate : rate ≠ 0)
    (hssrc : ssrc ≠ 0) (horder : order.Perm (List.range packets.length)) (htol : Tolerable 64 order)
    {k : ℕ} (hk : k < order.length) :
    (run (RtpPacketSortor.create rate) (sortorInputs (arriving packets (order.take (k + 1))))).1.ssrc = ssrc ∧
      ∃ m ≤ packets.length,
        sortedOf (RtpPacketSortor.create rate) (arriving packets (order.take (k + 1))) =
          packetsOf rate (packets.take m) ∧
        (k + 1 = order.length → m = packets.length) := by
  have horder' : order.Perm (List.range (videoStream packets).length) := by
    simpa [videoStream] using horder
  have hreached : InOrder rate ssrc 1024 64 first (streamPacket rate (videoStream packets)) (order.take (k + 1))
      (run (RtpPacketSortor.create rate) (arrivals (videoStream packets) (order.take (k + 1)))) :=
    inOrder_take hrun hrate hssrc (by omega) horder' htol hk
  rw [← sortorInputs_arriving] at hreached
  refine ⟨hreached.choose_spec.1.ssrc, ?_⟩
  obtain ⟨m, hm, hout, hall⟩ := inOrder_sorted hrun hreached fun i hi =>
    List.mem_range.mp (horder.mem_iff.mp (List.mem_of_mem_take hi))
  refine ⟨m, hm, hout, fun hlast => hall fun i hi => ?_⟩
  rw [hlast, List.take_length, horder.mem_iff]
  exact List.mem_range.mpr hi

/-- Calls in which the packets of a stream arrive in an order that its sortor can put right, among any
calls for other payload types, hand out the frames of the decoder fed with the packets in their order. -/
theorem deliveredFor_inOrder (D : RtpDecoders σ F) {rpp : RtpPlaylodParam} {decoder : σ}
    (hmake : make D rpp = some decoder) (hrate : rpp.sampleRate ≠ 0)
    (hrun : RunOf ssrc first (videoStream packets)) (hssrc : ssrc ≠ 0)
    (horder : order.Perm (List.range packets.length)) (htol : Tolerable 64 order) {calls : List Call}
    (hcalls : calls.filter (concerns (rpp.pt.setWidth 8)) = parseCalls (arriving packets order)) :
    deliveredFor D (rpp.pt.setWidth 8) (after D (create D (some rpp)) [.setOnRtpUnpack]) calls =
      (decodeAll D decoder (packetsOf rpp.sampleRate packets)).2.map fun frame => (some ssrc, frame) := by
  have hserves := create_serves D hmake
  have hrunning : (after D (create D (some rpp)) [.setOnRtpUnpack]).Running := running_create D (some rpp)
  rw [(serves_run hrunning hserves calls).2, hcalls]
  have hlength : order.length = packets.length := by rw [horder.length_eq, List.length_range]
  have harriving : (arriving packets order).length ≤ order.length := List.length_filterMap_le _ _
  obtain ⟨-, -, hframes⟩ := lane_run_parse D { sort := .create rpp.sampleRate, decoder }
    (arriving packets order)
  have hsorted : sortedOf (.create rpp.sampleRate) (arriving packets order) =
      packetsOf rpp.sampleRate packets := by
    by_cases hempty : order.length = 0
    · rw [List.length_eq_zero_iff.mp hempty, List.length_eq_zero_iff.mp (hlength.symm.trans hempty)]
      rfl
    · obtain ⟨-, m, -, hout, hlast⟩ := sorted_arriving hrun hrate hssrc horder htol
        (k := order.length - 1) (by omega)
      rw [show order.length - 1 + 1 = order.length by omega, List.take_length, hlast (by omega),
        List.take_length] at hout
      exact hout
  have htags : ∀ f ∈ (Lane.run D { sort := .create rpp.sampleRate, decoder }
      (parseCalls (arriving packets order))).2, f.1 = some ssrc := by
    apply lane_run_ssrc
    intro k hk
    rw [take_arriving horder]
    exact (sorted_arriving hrun hrate hssrc horder htol (by omega)).1
  rw [hsorted] at hframes
  rw [← hframes, List.map_map]
  refine (List.map_id _).symm.trans (List.map_congr_left fun f hf => ?_)
  exact Prod.ext (htags f hf) rfl

/-- Decoders that make a frame of every packet. -/
def packetDecoders : RtpDecoders Unit RtpPacket where
  h264 := ()
  aac _ := ()
  g711 := ()
  ts := ()
  inputRtp decoder rtp := (decoder, [rtp])
  thread decoder _ := (decoder, [])

/-- The numbers 65534, 65535, 0 and 1, of which the second is overtaken by the third. -/
def wrapPackets : List (List Byte) := (sampleStream 1 65534 4).map Prod.snd

theorem deliveredFor_inOrder_wrap :
    deliveredFor packetDecoders 33
        (after packetDecoders (create packetDecoders (some { pt := 33, ps := .mpeg2Ts })) [.setOnRtpUnpack])
        (.parseRtp (some (smallPacket 97)) :: parseCalls (arriving wrapPackets [0, 2, 1, 3])) =
      (decodeAll packetDecoders () (packetsOf 90000 wrapPackets)).2.map fun frame => (some 1, frame) := by
  have hmake : make packetDecoders { pt := 33, ps := .mpeg2Ts } = some () := rfl
  have htol : Tolerable 64 [0, 2, 1, 3] :=
    ⟨tolerable_swap.first, fun k hk => (tolerable_swap.overtaken k hk).trans (by omega), tolerable_swap.ahead⟩
  exact deliveredFor_inOrder packetDecoders hmake (by decide) runOf_sampleStream_wrap (by decide) (by decide)
    htol (by decide)

end Stream

end RtpUnpackImpl

end WifiDisplay
