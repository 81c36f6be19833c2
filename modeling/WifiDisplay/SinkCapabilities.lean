import WifiDisplay.InputStreamGrammar
import WifiDisplay.WfdMessages

/-! The source's use of the answer to M3: which answers it can work with. -/

namespace WifiDisplay

open InputStream

/-- What the source keeps of a sink's capabilities. -/
structure SinkValues where
  sinkRtpPort : BitVec 16 := 0
  audioCodec : CodecId := .default
  videoFormat : VideoFormat := .video1920x1080_30
  wfdVideoFormatsInfo : WfdVideoFormatsInfo := {}
  failed : Bool := false
  deriving DecidableEq, Repr

def WfdRtspM3Response.sinkValues (r : WfdRtspM3Response) : Except Fault SinkValues := do
  let (sinkRtpPort, r) := r.getClientRtpPorts
  let (audioCodec, r) := r.getAudioCodecs
  let (videoFormat, r) ← r.getVideoFormats
  let wfdVideoFormatsInfo ← r.getWfdVideoFormatsInfo
  pure { sinkRtpPort := BitVec.ofInt 16 sinkRtpPort, audioCodec, videoFormat, wfdVideoFormatsInfo
         failed := r.failed }

/-- `HandleM3Response` before it sends M4: no values on an error. -/
def handleM3Response (response : RtspResponse) (message : Text) : Except Fault (Option SinkValues) :=
  if response.status ≠ 200 then pure none
  else
    let (m3Res, ret) := ({} : WfdRtspM3Response).parse message
    if ret.code ≠ .ok then pure none
    else do
      let values ← m3Res.sinkValues
      pure (some values)

/-- The request that `SendM4Request` builds. -/
def wfdRtspM4Request (cSeq : Int) (sourceIp : Text) (v : SinkValues) : WfdRtspM4Request :=
  ((((WfdRtspM4Request.create cSeq wfdRtspUrlDefault).setPresentationUrl sourceIp).setVideoFormats
    v.wfdVideoFormatsInfo v.videoFormat).setAudioCodecs v.audioCodec).setClientRtpPorts
      v.sinkRtpPort.toNat

/-- No fault, and no M4 out of a value that could not be read. -/
def SourceRobust (message : Text) : Prop :=
  ∃ values, handleM3Response (({} : RtspResponse).parse message).1 message = .ok values ∧
    ∀ v, values = some v → v.failed = false

namespace WfdRtspM3Response

/-- The texts of the codecs: from the start to each comma, and behind the last one. -/
def EachCodec (P : Text → Prop) (value : Text) (index : Nat) : Prop :=
  (∀ i < value.length, index < i → value[i]? = some ',' → P (value.take i)) ∧
    ∀ i < value.length, (i = index ∨ index < i ∧ value[i]? = some ',') →
      ',' ∉ value.drop (i + 1) → P (value.drop (i + 1))

variable (r : WfdRtspM3Response)

instance (items : List Item) (t : Text) : Decidable (Holds items t) :=
  decidable_of_iff _ (foldl_skip_failed_iff items t)

instance (P : Text → Prop) [DecidablePred P] (value : Text) (index : Nat) :
    Decidable (EachCodec P value index) := inferInstanceAs (Decidable (_ ∧ _))

def HoldsRtpPorts : Prop :=
  Holds [.word, .number signed32, .number signed32, .word] (r.getCustomParam wfdParamRtpPorts)

def HoldsAudioCodecs : Prop :=
  ∀ audioCap ∈ RtspCommon.split (r.getCustomParam wfdParamAudioCodecs) ", ".toList,
    Holds [.word, .number signed32, .number signed32] audioCap

def HoldsVideoFormats : Prop :=
  minimalVideoFormatSize ≤ (r.getCustomParam wfdParamVideoFormats).length ∧
    Holds [.number hex16, .number hex16] ((r.getCustomParam wfdParamVideoFormats).take 5) ∧
    EachCodec (Holds (codecFormats.map .number)) ((r.getCustomParam wfdParamVideoFormats).drop 5) 0

instance : Decidable r.HoldsRtpPorts := inferInstanceAs (Decidable (Holds _ _))

instance : Decidable r.HoldsAudioCodecs := List.decidableBAll _ _

instance : Decidable r.HoldsVideoFormats := inferInstanceAs (Decidable (_ ∧ _ ∧ _))

theorem numbers_state (fs : List NumberFormat) (s : InputStream) :
    (numbers fs s).2 = (fs.map Item.number).foldl skip s := by
  induction fs generalizing s with
  | nil => rfl
  | cons f fs ih =>
    simp only [numbers, List.map_cons, List.foldl_cons]
    rw [ih, number_state]

theorem getClientRtpPorts_failed :
    ∃ failed, r.getClientRtpPorts.2 = { r with failed := r.failed || failed } ∧
      (failed = false ↔ r.HoldsRtpPorts) := by
  refine ⟨_, ?_, foldl_skip_failed_iff _ _⟩
  rw [getClientRtpPorts]
  simp only [word_state, number_state]
  rfl

theorem item_failed (a : AudioScan) (audioCap : Text) :
    (a.item audioCap).failed = false ↔
      a.failed = false ∧ Holds [.word, .number signed32, .number signed32] audioCap := by
  rw [← foldl_skip_failed_iff]
  simp only [AudioScan.item, List.foldl_cons, List.foldl_nil]
  split
  · simp only [word_state, number_state, Bool.or_eq_false_iff]
  · split
    · simp only [word_state, number_state, Bool.or_eq_false_iff]
    · simp only [word_state, number_state, Bool.or_eq_false_iff]

theorem items_failed (a : AudioScan) (audioCaps : List Text) :
    (audioCaps.foldl AudioScan.item a).failed = false ↔
      a.failed = false ∧
        ∀ audioCap ∈ audioCaps, Holds [.word, .number signed32, .number signed32] audioCap := by
  induction audioCaps generalizing a with
  | nil => simp
  | cons audioCap audioCaps ih =>
    rw [List.foldl_cons, ih, item_failed, List.forall_mem_cons, and_assoc]

theorem getAudioCodecs_failed :
    ∃ failed, r.getAudioCodecs.2 = { r with failed := r.failed || failed } ∧
      (failed = false ↔ r.HoldsAudioCodecs) := by
  refine ⟨_, rfl, ?_⟩
  rw [items_failed]
  simp [HoldsAudioCodecs]

theorem codecTexts_spec (value : Text) (n index : Nat) (hindex : index < value.length)
    (hn : value.length ≤ n + index) :
    ∃ texts, codecTexts value n index = .ok texts ∧ texts ≠ [] ∧
      ∀ P : Text → Prop, (∀ text ∈ texts, P text) ↔ EachCodec P value index := by
  induction n generalizing index with
  | zero => omega
  | succ n ih =>
    rw [codecTexts]
    cases hcomma : (value.drop (index + 1)).idxOf? ',' with
    | none =>
      have hnone : ',' ∉ value.drop (index + 1) := List.idxOf?_eq_none_iff.mp hcomma
      have hbehind : ∀ i, index < i → value[i]? ≠ some ',' := by
        intro i hi hget
        apply hnone
        rw [List.mem_iff_getElem?]
        have hi' : index + 1 + (i - (index + 1)) = i := by omega
        exact ⟨i - (index + 1), by rw [List.getElem?_drop, hi', hget]⟩
      refine ⟨_, by rw [if_neg (by omega)], by simp, fun P => ?_⟩
      constructor
      · intro hall
        refine ⟨fun i _ hi hget => absurd hget (hbehind i hi), fun i _ hi _ => ?_⟩
        rcases hi with rfl | ⟨hi, hget⟩
        · exact hall _ (by simp)
        · exact absurd hget (hbehind i hi)
      · intro heach text htext
        rw [List.mem_singleton] at htext
        rw [htext]
        exact heach.2 index hindex (Or.inl rfl) hnone
    | some k =>
      obtain ⟨hget, hfirst⟩ : value[index + 1 + k]? = some ',' ∧
          ∀ j < k, value[index + 1 + j]? ≠ some ',' := by
        rw [List.idxOf?_eq_some_iff] at hcomma
        obtain ⟨hk, heq, hbefore⟩ := hcomma
        refine ⟨?_, fun j hj hgetj => ?_⟩
        · rw [← List.getElem?_drop, List.getElem?_eq_getElem hk]
          simpa using heq
        · rw [← List.getElem?_drop, List.getElem?_eq_some_iff] at hgetj
          obtain ⟨hj', hgetj⟩ := hgetj
          exact hbefore j hj (by simpa using hgetj)
      have hlt : index + 1 + k < value.length := (List.getElem?_eq_some_iff.mp hget).1
      obtain ⟨texts, htexts, -, hP⟩ := ih (index + 1 + k) hlt (by omega)
      refine ⟨value.take (index + 1 + k) :: texts, by simp only [htexts]; rfl, by simp, fun P => ?_⟩
      rw [List.forall_mem_cons, hP]
      constructor
      · rintro ⟨hhead, htake, hdrop⟩
        refine ⟨fun i hi' hi hgeti => ?_, fun i hi' hi hnot => ?_⟩
        · by_cases hk : index + 1 + k < i
          · exact htake i hi' hk hgeti
          · by_cases hik : i = index + 1 + k
            · rw [hik]
              exact hhead
            · refine absurd hgeti ?_
              have hj := hfirst (i - (index + 1)) (by omega)
              rwa [show index + 1 + (i - (index + 1)) = i by omega] at hj
        · by_cases hk : index + 1 + k < i
          · rcases hi with rfl | ⟨-, hgeti⟩
            · omega
            · exact hdrop i hi' (Or.inr ⟨hk, hgeti⟩) hnot
          · by_cases hik : i = index + 1 + k
            · exact hdrop i hi' (Or.inl hik) hnot
            · refine absurd ?_ hnot
              rw [List.mem_iff_getElem?]
              have hi'' : i + 1 + (index + 1 + k - (i + 1)) = index + 1 + k := by omega
              exact ⟨index + 1 + k - (i + 1), by rw [List.getElem?_drop, hi'', hget]⟩
      · rintro ⟨htake, hdrop⟩
        refine ⟨htake _ hlt (by omega) hget, fun i hi' hi hgeti => htake i hi' (by omega) hgeti,
          fun i hi' hi hnot => ?_⟩
        apply hdrop i hi' _ hnot
        rcases hi with rfl | ⟨hi, hgeti⟩
        · exact Or.inr ⟨by omega, hget⟩
        · exact Or.inr ⟨by omega, hgeti⟩

theorem readCodec_failed (native preferredDisplayMode : Nat) (temp : Text) :
    (readCodec native preferredDisplayMode temp).2 = false ↔ Holds (codecFormats.map .number) temp := by
  rw [← foldl_skip_failed_iff, ← numbers_state]
  rfl

theorem getVideoFormats_failed (hfresh : r.vWfdVideoFormatsInfo = [])
    (hlen : minimalVideoFormatSize ≤ (r.getCustomParam wfdParamVideoFormats).length) :
    ∃ format r', r.getVideoFormats = .ok (format, r') ∧ r'.vWfdVideoFormatsInfo ≠ [] ∧
      (r'.failed = false ↔ r.failed = false ∧ r.HoldsVideoFormats) := by
  have hdrop : 0 < ((r.getCustomParam wfdParamVideoFormats).drop 5).length := by
    rw [List.length_drop]
    have h54 : minimalVideoFormatSize = 54 := rfl
    omega
  obtain ⟨texts, htexts, hne, hP⟩ := codecTexts_spec _
    (((r.getCustomParam wfdParamVideoFormats).drop 5).length + 1) 0 hdrop (by omega)
  obtain ⟨text, texts, rfl⟩ := List.exists_cons_of_ne_nil hne
  have hcodecs (native preferredDisplayMode : Nat) :
      (((text :: texts).map (readCodec native preferredDisplayMode)).any Prod.snd = false) ↔
        EachCodec (Holds (codecFormats.map .number))
          ((r.getCustomParam wfdParamVideoFormats).drop 5) 0 := by
    rw [← hP, List.any_map, List.any_eq_false]
    simp only [Function.comp_apply, Bool.not_eq_true, readCodec_failed]
  have hhead : (numbers [hex16, hex16]
      ⟨(r.getCustomParam wfdParamVideoFormats).take 5, false⟩).2.failed = false ↔
        Holds [.number hex16, .number hex16] ((r.getCustomParam wfdParamVideoFormats).take 5) := by
    rw [← foldl_skip_failed_iff, numbers_state]
    rfl
  have hfailed (native preferredDisplayMode : Nat) :
      ((numbers [hex16, hex16] ⟨(r.getCustomParam wfdParamVideoFormats).take 5, false⟩).2.failed ||
        ((text :: texts).map (readCodec native preferredDisplayMode)).any Prod.snd) = false ↔
          r.HoldsVideoFormats := by
    rw [Bool.or_eq_false_iff, hhead, hcodecs, HoldsVideoFormats]
    exact ⟨fun h => ⟨hlen, h⟩, fun h => h.2⟩
  simp only [getVideoFormats, if_neg (Nat.not_lt.mpr hlen), htexts]
  rw [hfresh]
  simp only [List.nil_append]
  by_cases hnative : (readCodec ((numbers [hex16, hex16]
      ⟨(r.getCustomParam wfdParamVideoFormats).take 5, false⟩).1.getD 0 0) ((numbers [hex16, hex16]
      ⟨(r.getCustomParam wfdParamVideoFormats).take 5, false⟩).1.getD 1 0) text).1.native &&& 7 = 0
  · refine ⟨_, _, if_pos hnative, by simp, ?_⟩
    rw [Bool.or_assoc, Bool.or_eq_false_iff]
    exact and_congr_right' (hfailed _ _)
  · refine ⟨_, _, if_neg hnative, by simp, ?_⟩
    rw [Bool.or_assoc, Bool.or_eq_false_iff]
    exact and_congr_right' (hfailed _ _)

theorem sinkValues_failed (hfresh : r.vWfdVideoFormatsInfo = []) (hr : r.failed = false) :
    (∃ v, r.sinkValues = .ok v ∧ v.failed = false) ↔
      r.HoldsVideoFormats ∧ r.HoldsAudioCodecs ∧ r.HoldsRtpPorts := by
  obtain ⟨b, hports, hholds⟩ := r.getClientRtpPorts_failed
  obtain ⟨c, hcodecs, hholds'⟩ := r.getClientRtpPorts.2.getAudioCodecs_failed
  obtain ⟨r', hr', hsame⟩ : ∃ r', r.getClientRtpPorts.2.getAudioCodecs.2 = r' ∧
      r' = { r with failed := b || c } := by
    refine ⟨_, hcodecs, ?_⟩
    rw [hports, hr, Bool.false_or]
  have hvalues : r.sinkValues = (do
      let (videoFormat, r') ← r'.getVideoFormats
      let wfdVideoFormatsInfo ← r'.getWfdVideoFormatsInfo
      pure ⟨BitVec.ofInt 16 r.getClientRtpPorts.1, r.getClientRtpPorts.2.getAudioCodecs.1, videoFormat,
        wfdVideoFormatsInfo, r'.failed⟩) := by
    rw [← hr']
    rfl
  have hformats : r'.HoldsVideoFormats ↔ r.HoldsVideoFormats := by
    rw [hsame]
    rfl
  have haudio : c = false ↔ r.HoldsAudioCodecs := by
    rw [hholds', hports]
    rfl
  have hbefore : r'.failed = false ↔ r.HoldsRtpPorts ∧ r.HoldsAudioCodecs := by
    rw [hsame]
    show (b || c) = false ↔ _
    rw [Bool.or_eq_false_iff, hholds, haudio]
  by_cases hlen : minimalVideoFormatSize ≤ (r'.getCustomParam wfdParamVideoFormats).length
  · obtain ⟨format, read, hread, hne, hfailed⟩ :=
      r'.getVideoFormats_failed (by rw [hsame]; exact hfresh) hlen
    obtain ⟨info, infos, hinfos⟩ := List.exists_cons_of_ne_nil hne
    have hinfo : read.getWfdVideoFormatsInfo = .ok info := by rw [getWfdVideoFormatsInfo, hinfos]
    have hok : r.sinkValues = .ok ⟨BitVec.ofInt 16 r.getClientRtpPorts.1,
        r.getClientRtpPorts.2.getAudioCodecs.1, format, info, read.failed⟩ := by
      rw [hvalues, hread]
      simp only [bind, Except.bind, hinfo]
      rfl
    rw [hok]
    simp only [Except.ok.injEq, exists_eq_left', hfailed, hbefore, hformats]
    exact ⟨fun h => ⟨h.2, h.1.2, h.1.1⟩, fun h => ⟨⟨h.2.2, h.2.1⟩, h.1⟩⟩
  · have hshort : r'.getVideoFormats = .ok (.video640x480_60, r') := by
      simp only [getVideoFormats, if_pos (Nat.lt_of_not_le hlen)]
    have hempty : r'.getWfdVideoFormatsInfo = .error .emptyContainer := by
      rw [getWfdVideoFormatsInfo, hsame]
      simp only [hfresh]
    rw [hvalues, hshort]
    constructor
    · rintro ⟨v, hv, -⟩
      exact absurd hv (by simp [bind, Except.bind, hempty])
    · intro h
      exact absurd (hformats.mpr h.1).1 hlen

end WfdRtspM3Response

theorem parse_fresh (message : Text) :
    (({} : WfdRtspM3Response).parse message).1.vWfdVideoFormatsInfo = [] ∧
      (({} : WfdRtspM3Response).parse message).1.failed = false := by
  rw [WfdRtspM3Response.parse]
  simp only
  split <;> exact ⟨rfl, rfl⟩

/-- The source is robust exactly against the answers with an error status and those
whose video formats have at least 54 letters and whose values all hold the words
and numbers that are read from them. -/
theorem sourceRobust_iff {message : Text}
    (hparse : (({} : WfdRtspM3Response).parse message).2.code = .ok) :
    SourceRobust message ↔
      (({} : RtspResponse).parse message).1.status ≠ 200 ∨
        ((({} : WfdRtspM3Response).parse message).1.HoldsVideoFormats ∧
          (({} : WfdRtspM3Response).parse message).1.HoldsAudioCodecs ∧
          (({} : WfdRtspM3Response).parse message).1.HoldsRtpPorts) := by
  obtain ⟨hfresh, hfailed⟩ := parse_fresh message
  rw [SourceRobust, ← WfdRtspM3Response.sinkValues_failed _ hfresh hfailed]
  by_cases hstatus : (({} : RtspResponse).parse message).1.status ≠ 200
  · have hnone : handleM3Response (({} : RtspResponse).parse message).1 message = .ok none := by
      rw [handleM3Response, if_pos hstatus]
      rfl
    rw [hnone]
    exact ⟨fun _ => Or.inl hstatus, fun _ => ⟨none, rfl, by simp⟩⟩
  · have hsome : handleM3Response (({} : RtspResponse).parse message).1 message =
        (({} : WfdRtspM3Response).parse message).1.sinkValues >>= fun v => pure (some v) := by
      rw [handleM3Response, if_neg hstatus]
      simp only [hparse, ne_eq, not_true_eq_false, if_false]
    rw [hsome]
    constructor
    · rintro ⟨values, hvalues, hall⟩
      obtain ⟨v, hv, hpure⟩ := bind_eq_ok.mp hvalues
      cases hpure
      exact Or.inr ⟨v, hv, hall v rfl⟩
    · rintro (h | ⟨v, hv, hfalse⟩)
      · exact absurd h hstatus
      · refine ⟨some v, by rw [hv]; rfl, ?_⟩
        intro w hw
        cases hw
        exact hfalse

def silentAnswer : Text := "RTSP/1.0 200 OK\r\nCSeq: 3\r\n\r\n".toList

/-- An answer without video formats leads to the first element of an empty vector. -/
theorem silentAnswer_faults :
    handleM3Response (({} : RtspResponse).parse silentAnswer).1 silentAnswer =
      .error .emptyContainer := by
  -- the texts as the lists of their characters
  unfold silentAnswer
  rw [String.toList_ofList]
  decide +kernel

theorem silentAnswer_not_robust :
    (({} : WfdRtspM3Response).parse silentAnswer).2.code = .ok ∧ ¬ SourceRobust silentAnswer := by
  refine ⟨by decide +kernel, ?_⟩
  intro h
  obtain ⟨values, hvalues, -⟩ := h
  rw [silentAnswer_faults] at hvalues
  cases hvalues

def fullAnswer : Text :=
  ("RTSP/1.0 200 OK\r\nCSeq: 2\r\nContent-Type: text/parameters\r\nContent-Length: 183\r\n\r\n" ++
    "wfd_video_formats: 40 0 2 4 1DEFF 53C7FFF FFF 0 0 0 11 none  none,1 8 1 0 0 0 0 0 0\r\n" ++
    "wfd_audio_codecs: LPCM 3 0, AAC 1 0\r\n" ++
    "wfd_client_rtp_ports: RTP/AVP/UDP;unicast 19000 0 mode=play\r\n").toList

def fullParams : Tokens :=
  [(wfdParamVideoFormats, "40 0 2 4 1DEFF 53C7FFF FFF 0 0 0 11 none  none,1 8 1 0 0 0 0 0 0".toList),
    (wfdParamAudioCodecs, "LPCM 3 0, AAC 1 0".toList),
    (wfdParamRtpPorts, "RTP/AVP/UDP;unicast 19000 0 mode=play".toList)]

theorem fullAnswer_read :
    (({} : WfdRtspM3Response).parse fullAnswer).2.code = .ok ∧
      (({} : WfdRtspM3Response).parse fullAnswer).1.params = fullParams := by
  unfold fullAnswer fullParams
  repeat rw [String.toList_append]
  repeat rw [String.toList_ofList]
  decide +kernel

theorem fullAnswer_robust : SourceRobust fullAnswer := by
  obtain ⟨hcode, hparams⟩ := fullAnswer_read
  apply (sourceRobust_iff hcode).mpr
  refine Or.inr ⟨?_, ?_, ?_⟩
  · rw [WfdRtspM3Response.HoldsVideoFormats, WfdRtspM3Response.getCustomParam, hparams]
    decide +kernel
  · rw [WfdRtspM3Response.HoldsAudioCodecs, WfdRtspM3Response.getCustomParam, hparams]
    decide +kernel
  · rw [WfdRtspM3Response.HoldsRtpPorts, WfdRtspM3Response.getCustomParam, hparams]
    decide +kernel

end WifiDisplay
