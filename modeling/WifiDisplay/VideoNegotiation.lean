import WifiDisplay.RtspRequestRoundTrip
import WifiDisplay.RtspResponseLaws
import WifiDisplay.SinkCapabilities

/-! The video format that a sink and a source settle on with M3 and M4. -/

namespace WifiDisplay

open InputStream TextSplit RtspCommon

/-- The resolution that a format is named after. -/
def VideoFormat.config : VideoFormat → Option VideoConfig
  | .none => Option.none
  | .video640x480_25 => some ⟨640, 480, 25, false⟩
  | .video640x480_30 => some ⟨640, 480, 30, false⟩
  | .video640x480_60 => some ⟨640, 480, 60, false⟩
  | .video1280x720_25 => some ⟨1280, 720, 25, false⟩
  | .video1280x720_30 => some ⟨1280, 720, 30, false⟩
  | .video1280x720_60 => some ⟨1280, 720, 60, false⟩
  | .video1920x1080_25 => some ⟨1920, 1080, 25, false⟩
  | .video1920x1080_30 => some ⟨1920, 1080, 30, false⟩
  | .video1920x1080_60 => some ⟨1920, 1080, 60, false⟩

def VideoCodecs.Supports (codecs : VideoCodecs) (config : VideoConfig) : Prop :=
  codecs.isSizeAndRateSupported config.width config.height config.frameRate

instance (codecs : VideoCodecs) (config : VideoConfig) : Decidable (codecs.Supports config) :=
  inferInstanceAs (Decidable (_ = true))

namespace VideoCodecs

variable (codecs : VideoCodecs)

theorem testBit_support (n j : ℕ) :
    ((List.range n).foldl (fun mask i =>
      if codecs.isVideoResolutionSupport i then mask ||| 1 <<< i else mask) 0).testBit j =
        (decide (j < n) && codecs.isVideoResolutionSupport j) := by
  induction n with
  | zero => simp
  | succ n ih =>
    rw [List.range_succ, List.foldl_append, List.foldl_cons, List.foldl_nil]
    by_cases hj : j = n
    · subst hj
      by_cases hs : codecs.isVideoResolutionSupport j
      · rw [if_pos hs, Nat.testBit_or, ih]
        simp [hs]
      · rw [if_neg hs, ih]
        simp [hs]
    · have hlt : decide (j < n + 1) = decide (j < n) := by
        simp only [decide_eq_decide]
        omega
      by_cases hs : codecs.isVideoResolutionSupport n
      · rw [if_pos hs, Nat.testBit_or, ih, hlt, Nat.one_shiftLeft, Nat.testBit_two_pow]
        simp [Ne.symm hj]
      · rw [if_neg hs, ih, hlt]

theorem getSupportVideoResolution_listed (h : codecs.listed) (n j : ℕ) :
    (codecs.getSupportVideoResolution n).testBit j = (decide (j < n) && codecs.isVideoResolutionSupport j) := by
  rw [getSupportVideoResolution, if_pos h, testBit_support]

/-- The mask that `SetVideoFormats` prints. -/
def ceaMask (format : VideoFormat) : ℕ :=
  let mask := match format with
    | .none => codecs.getSupportVideoResolution 17
    | format => codecs.getVideoFormatResolution format
  if mask = 0 then 1 <<< cea640x480p60 else mask

/-- The format is one whose mask has the lowest resolution, the only one that is ever
asked for. -/
def OffersLowest (format : VideoFormat) : Prop :=
  match format.config with
  | none => codecs.listed → codecs.Supports ⟨640, 480, 60, false⟩ ∨
      ∀ i < 17, ¬ codecs.isVideoResolutionSupport i
  | some config => config.width = 640 ∨ codecs.listed ∧ ¬ codecs.Supports config

/-- Each format has a bit of the CEA table, that of the lowest resolution where the table
has no row for it. -/
theorem getVideoFormatResolution_eq {format : VideoFormat} {config : VideoConfig}
    (h : format.config = some config) :
    ∃ index, (index = 0 ∨ 5 ≤ index ∧ index ≤ 12) ∧ (index = cea640x480p60 ↔ config.width = 640) ∧
      (index ≠ cea640x480p60 → (codecs.isVideoResolutionSupport index ↔ codecs.Supports config)) ∧
      codecs.getVideoFormatResolution format =
        if codecs.listed then
          1 <<< if codecs.isVideoResolutionSupport index then index else cea640x480p60
        else 1 <<< index := by
  cases format with
  | none => cases h
  | video640x480_25 | video640x480_30 | video640x480_60 =>
    cases h
    exact ⟨cea640x480p60, by decide, by decide, fun h0 => absurd rfl h0, rfl⟩
  | video1280x720_25 =>
    cases h
    exact ⟨cea1280x720p25, by decide, by decide, fun _ => Iff.rfl, rfl⟩
  | video1280x720_30 =>
    cases h
    exact ⟨cea1280x720p30, by decide, by decide, fun _ => Iff.rfl, rfl⟩
  | video1280x720_60 =>
    cases h
    exact ⟨cea1280x720p60, by decide, by decide, fun _ => Iff.rfl, rfl⟩
  | video1920x1080_25 =>
    cases h
    exact ⟨cea1920x1080p25, by decide, by decide, fun _ => Iff.rfl, rfl⟩
  | video1920x1080_30 =>
    cases h
    exact ⟨cea1920x1080p30, by decide, by decide, fun _ => Iff.rfl, rfl⟩
  | video1920x1080_60 =>
    cases h
    exact ⟨cea1920x1080p60, by decide, by decide, fun _ => Iff.rfl, rfl⟩

theorem getVideoFormatResolution_bit {format : VideoFormat} {config : VideoConfig}
    (h : format.config = some config) :
    ∃ index, (index = 0 ∨ 5 ≤ index ∧ index ≤ 12) ∧ codecs.getVideoFormatResolution format = 1 <<< index ∧
      (index = 0 ↔ config.width = 640 ∨ codecs.listed ∧ ¬ codecs.Supports config) := by
  obtain ⟨index, hle, hlow, hsupport, heq⟩ := codecs.getVideoFormatResolution_eq h
  have hzero : cea640x480p60 = 0 := rfl
  rw [hzero] at hlow hsupport heq
  by_cases hindex : index = 0
  · refine ⟨0, Or.inl rfl, ?_, ?_⟩
    · rw [heq, hindex]
      split <;> simp
    · exact iff_of_true rfl (Or.inl (hlow.mp hindex))
  · have hwidth : config.width ≠ 640 := fun h0 => hindex (hlow.mpr h0)
    have hconfig := hsupport hindex
    by_cases hlisted : codecs.listed
    · by_cases hs : codecs.isVideoResolutionSupport index
      · refine ⟨index, hle, by rw [heq, if_pos hlisted, if_pos hs], iff_of_false hindex ?_⟩
        rw [← hconfig]
        simp [hwidth, hs]
      · refine ⟨0, Or.inl rfl, by rw [heq, if_pos hlisted, if_neg hs], iff_of_true rfl (Or.inr ⟨hlisted, ?_⟩)⟩
        rw [← hconfig]
        exact hs
    · exact ⟨index, hle, by rw [heq, if_neg hlisted], iff_of_false hindex (by simp [hwidth, hlisted])⟩

theorem ceaMask_format {format : VideoFormat} {config : VideoConfig} (h : format.config = some config) :
    codecs.ceaMask format = codecs.getVideoFormatResolution format := by
  obtain ⟨index, -, hbit, -⟩ := codecs.getVideoFormatResolution_bit h
  have hne : codecs.getVideoFormatResolution format ≠ 0 := by
    rw [hbit, Nat.one_shiftLeft]
    exact (Nat.two_pow_pos index).ne'
  cases format with
  | none => cases h
  | _ => exact if_neg hne

theorem config_eq_none {format : VideoFormat} (h : format.config = none) : format = .none := by
  cases format with
  | none => rfl
  | _ => cases h

theorem ceaMask_lt (format : VideoFormat) : codecs.ceaMask format < 2 ^ 32 := by
  cases h : format.config with
  | none =>
    rw [config_eq_none h, ceaMask]
    split
    · decide
    · by_cases hlisted : codecs.listed
      · apply Nat.lt_pow_two_of_testBit
        intro j hj
        rw [codecs.getSupportVideoResolution_listed hlisted, decide_eq_false (by omega), Bool.false_and]
      · rw [getSupportVideoResolution, if_neg hlisted]
        decide
  | some config =>
    obtain ⟨index, hle, hbit, -⟩ := codecs.getVideoFormatResolution_bit h
    rw [codecs.ceaMask_format h, hbit, Nat.one_shiftLeft]
    exact Nat.pow_lt_pow_right (by decide) (by omega)

theorem ceaMask_lowest (format : VideoFormat) :
    (codecs.ceaMask format).testBit 0 ↔ codecs.OffersLowest format := by
  cases h : format.config with
  | none =>
    simp only [OffersLowest, h]
    rw [config_eq_none h, ceaMask]
    by_cases hlisted : codecs.listed
    · have hbits := codecs.getSupportVideoResolution_listed hlisted 17
      have hlowest : codecs.isVideoResolutionSupport 0 ↔ codecs.Supports ⟨640, 480, 60, false⟩ := Iff.rfl
      by_cases hzero : codecs.getSupportVideoResolution 17 = 0
      · rw [if_pos hzero]
        refine iff_of_true (by decide) fun _ => Or.inr fun i hi => ?_
        have hbit := hbits i
        rw [hzero, Nat.zero_testBit, decide_eq_true hi, Bool.true_and] at hbit
        rw [← hbit]
        decide
      · rw [if_neg hzero, hbits, decide_eq_true (by decide), Bool.true_and, ← hlowest]
        constructor
        · exact fun h0 _ => Or.inl h0
        · intro h0
          apply (h0 hlisted).resolve_right
          intro hnone
          apply hzero
          apply Nat.eq_of_testBit_eq
          intro j
          rw [hbits, Nat.zero_testBit]
          by_cases hj : j < 17
          · rw [decide_eq_true hj, Bool.true_and]
            exact Bool.eq_false_iff.mpr (hnone j hj)
          · rw [decide_eq_false hj, Bool.false_and]
    · have hmask : codecs.getSupportVideoResolution 17 = 1 := by
        rw [getSupportVideoResolution, if_neg hlisted]
        rfl
      rw [hmask]
      exact iff_of_true (by decide) fun h0 => absurd h0 hlisted
  | some config =>
    obtain ⟨index, -, hbit, hlow⟩ := codecs.getVideoFormatResolution_bit h
    simp only [OffersLowest, h]
    rw [codecs.ceaMask_format h, hbit, Nat.one_shiftLeft, Nat.testBit_two_pow, decide_eq_true_eq, hlow]

end VideoCodecs

/-- The values that the source keeps of every answer built by `SetVideoFormats`. -/
structure SinkValues.Lowest (v : SinkValues) : Prop where
  format : v.videoFormat = .video640x480_60
  profile : v.wfdVideoFormatsInfo.profile = 2
  level : v.wfdVideoFormatsInfo.level = 16

namespace WfdRtspM3Response

variable (r : WfdRtspM3Response)

/-- The mask is shifted out of the native byte, but for the lowest resolution. -/
theorem setVideoFormats_eq (codecs : VideoCodecs) (format : VideoFormat) :
    ∃ native, (native = 0 ∨ native = 8) ∧ r.setVideoFormats codecs format =
      r.setParam wfdParamVideoFormats (videoFormatsText native 2 16 (codecs.ceaMask format)) := by
  cases h : format.config with
  | none =>
    refine ⟨0, Or.inl rfl, ?_⟩
    rw [VideoCodecs.config_eq_none h]
    rfl
  | some config =>
    obtain ⟨index, hindex, hbit, -⟩ := codecs.getVideoFormatResolution_bit h
    refine ⟨(codecs.getVideoFormatResolution format <<< 3) % 2 ^ 8, ?_, ?_⟩
    · rw [hbit, ← Nat.shiftLeft_add, Nat.one_shiftLeft]
      rcases hindex with rfl | ⟨hlarge, -⟩
      · exact Or.inr rfl
      · exact Or.inl (Nat.mod_eq_zero_of_dvd (pow_dvd_pow 2 (by omega)))
    · cases format with
      | none => cases h
      | _ => rfl

theorem numbers_hexPadded {f : NumberFormat} (hbase : f.base = 16) (hlow : f.low = 0) {width n : ℕ}
    (hn : (n : Int) ≤ f.high) {blanks : Text} (hblanks : ∀ c ∈ blanks, isBlank c) (fs : List NumberFormat)
    (t : Text) :
    numbers (f :: fs) ⟨blanks ++ hexPadded width n ++ ' ' :: t, false⟩ =
      (n :: (numbers fs ⟨' ' :: t, false⟩).1, (numbers fs ⟨' ' :: t, false⟩).2) := by
  have hblank : ∀ c, (' ' :: t).head? = some c → isBlank c := by
    intro c hc
    obtain rfl : ' ' = c := by simpa using hc
    decide
  rw [numbers, number_hexPadded hbase hlow hn hblanks hblank]
  rfl

theorem comma_not_mem_hexPadded (width n : ℕ) : ',' ∉ hexPadded width n := by
  intro h
  exact absurd (isDigit_hexPadded h) (by decide)

def lastText : Text := "00000000 00000000 00 0000 0000 00 none none".toList

/-- The value behind the native byte and the display mode. -/
def codecText (mask : ℕ) : Text :=
  hexPadded 2 2 ++ ' ' :: (hexPadded 2 16 ++ ' ' :: (hexPadded 8 mask ++ ' ' :: lastText))

theorem videoFormatsText_eq (native mask : ℕ) :
    videoFormatsText native 2 16 mask = hexPadded 2 native ++ " 00".toList ++ ' ' :: codecText mask := by
  have hzero : hexPadded 8 0 ++ ' ' :: (hexPadded 8 0 ++ " 00 0000 0000 00 none none".toList) = lastText := by
    decide
  have hmode : " 00 ".toList = " 00".toList ++ [' '] := by decide
  rw [videoFormatsText, codecText, ← hzero, hmode]
  simp only [List.append_assoc, List.cons_append, List.nil_append]

theorem videoFormatsText_field (native mask : ℕ) :
    LineText (videoFormatsText native 2 16 mask) ∧ Trimmed (videoFormatsText native 2 16 mask) ∧
      videoFormatsText native 2 16 mask ≠ [] := by
  have hdigits (width n : ℕ) : LineText (hexPadded width n) :=
    ⟨fun h => absurd (isDigit_hexPadded h) (by decide), fun h => absurd (isDigit_hexPadded h) (by decide)⟩
  have hblank : LineText [' '] := by decide
  have hmode : LineText " 00".toList := by decide
  have hlast : LineText lastText := by decide
  obtain ⟨c, t, hct⟩ := List.exists_cons_of_ne_nil (hexPadded_ne_nil 2 native)
  have hin : c ∈ hexPadded 2 native := by
    rw [hct]
    exact List.mem_cons_self
  have hc : isDigit 16 c := isDigit_hexPadded hin
  have hcodec : LineText (codecText mask) :=
    (hdigits 2 2).append (hblank.append ((hdigits 2 16).append (hblank.append
      ((hdigits 8 mask).append (hblank.append hlast)))))
  have hend : (' ' :: codecText mask).getLast? = some 'e' := by
    have hlast' : (' ' :: lastText).getLast? = some 'e' := by decide
    rw [codecText, ← List.cons_append, List.getLast?_append_cons, ← List.cons_append, List.getLast?_append_cons,
      ← List.cons_append, List.getLast?_append_cons, hlast']
  rw [videoFormatsText_eq]
  refine ⟨((hdigits 2 native).append hmode).append (hblank.append hcodec), ⟨?_, ?_⟩, ?_⟩
  · rw [hct]
    intro h
    obtain rfl : c = ' ' := by simpa using h
    exact absurd hc (by decide)
  · rw [List.getLast?_append_cons, hend]
    decide
  · rw [hct]
    exact List.cons_ne_nil _ _

theorem readCodec_codecText (native preferredDisplayMode : ℕ) {mask : ℕ} (hmask : mask < 2 ^ 32) :
    (readCodec native preferredDisplayMode (codecText mask)).1.native = native ∧
      (readCodec native preferredDisplayMode (codecText mask)).1.profile = 2 ∧
      (readCodec native preferredDisplayMode (codecText mask)).1.level = 16 ∧
      (readCodec native preferredDisplayMode (codecText mask)).1.ceaMask = mask := by
  have hnone : ∀ c ∈ ([] : Text), isBlank c := by simp
  have hone : ∀ c ∈ [' '], isBlank c := by
    intro c hc
    rw [List.mem_singleton.mp hc]
    decide
  have hmask' : (mask : Int) ≤ hex32.high := by
    show (mask : Int) ≤ 2 ^ 32 - 1
    omega
  have hread := @numbers_hexPadded hex16 rfl rfl 2 2 (by decide) [] hnone
    [hex16, hex32, hex32, hex32, hex16, hex16, hex16, hex16]
    (hexPadded 2 16 ++ ' ' :: (hexPadded 8 mask ++ ' ' :: lastText))
  have hread' := @numbers_hexPadded hex16 rfl rfl 2 16 (by decide) [' '] hone
    [hex32, hex32, hex32, hex16, hex16, hex16, hex16] (hexPadded 8 mask ++ ' ' :: lastText)
  have hread'' := @numbers_hexPadded hex32 rfl rfl 8 mask hmask' [' '] hone
    [hex32, hex32, hex16, hex16, hex16, hex16] lastText
  rw [List.singleton_append, List.cons_append] at hread' hread''
  rw [hread''] at hread'
  rw [hread'] at hread
  rw [readCodec, codecText, codecFormats]
  rw [List.nil_append] at hread
  rw [hread]
  exact ⟨rfl, rfl, rfl, rfl⟩

/-- Whatever the mask, the source takes the lowest resolution. -/
theorem getVideoFormats_text {native mask : ℕ} (hnative : native = 0 ∨ native = 8) (hmask : mask < 2 ^ 32)
    (hfresh : r.vWfdVideoFormatsInfo = [])
    (hvalue : r.getCustomParam wfdParamVideoFormats = videoFormatsText native 2 16 mask) :
    ∃ r' info, r.getVideoFormats = .ok (.video640x480_60, r') ∧ r'.getWfdVideoFormatsInfo = .ok info ∧
      info.profile = 2 ∧ info.level = 16 ∧ info.ceaMask = mask := by
  have hnocomma : ',' ∉ codecText mask := by
    have hlast : ',' ∉ lastText := by decide
    simp only [codecText, List.mem_append, List.mem_cons, not_or]
    exact ⟨comma_not_mem_hexPadded 2 2, by decide, comma_not_mem_hexPadded 2 16, by decide,
      comma_not_mem_hexPadded 8 mask, by decide, hlast⟩
  have hhead : (hexPadded 2 native ++ " 00".toList).length = 5 := by
    rcases hnative with rfl | rfl <;> decide
  have hlength : ¬ (videoFormatsText native 2 16 mask).length < minimalVideoFormatSize := by
    have hmin : minimalVideoFormatSize = 54 := rfl
    have hlast : lastText.length = 43 := by decide
    have hpad (width n : ℕ) : width ≤ (hexPadded width n).length := by
      rw [hexPadded, List.length_leftpad]
      exact Nat.le_max_left _ _
    have h2 := hpad 2 2
    have h16 := hpad 2 16
    have hm := hpad 8 mask
    rw [videoFormatsText_eq, List.length_append, hhead, codecText]
    simp only [List.length_append, List.length_cons]
    omega
  have hdrop : (videoFormatsText native 2 16 mask).drop 5 = ' ' :: codecText mask := by
    rw [videoFormatsText_eq, ← hhead, List.drop_left]
  have htexts (n : ℕ) : codecTexts (' ' :: codecText mask) (n + 1) 0 = .ok [codecText mask] := by
    have hnone : ((' ' :: codecText mask).drop (0 + 1)).idxOf? ',' = none :=
      List.idxOf?_eq_none_iff.mpr hnocomma
    rw [codecTexts, hnone]
    rfl
  rw [getVideoFormats, hvalue, if_neg hlength, hdrop]
  have hnative' : (numbers [hex16, hex16] ⟨(videoFormatsText native 2 16 mask).take 5, false⟩).1.getD 0 0 =
      native := by
    have htake : (videoFormatsText native 2 16 mask).take 5 = hexPadded 2 native ++ " 00".toList := by
      rw [videoFormatsText_eq, ← hhead, List.take_left]
    rw [htake]
    rcases hnative with rfl | rfl <;> decide
  obtain ⟨hfirst, hprofile, hlevel, hcea⟩ := readCodec_codecText native
    ((numbers [hex16, hex16] ⟨(videoFormatsText native 2 16 mask).take 5, false⟩).1.getD 1 0) hmask
  have hlowest : native &&& 7 = 0 ∧ getVideoFormatsByCea (native >>> 3) = .video640x480_60 := by
    rcases hnative with rfl | rfl <;> decide
  simp only [htexts, hfresh, bind, Except.bind, hnative', List.map_cons, List.map_nil, List.nil_append,
    hfirst, if_pos hlowest.1, hlowest.2]
  exact ⟨_, _, rfl, rfl, hprofile, hlevel, hcea⟩

theorem sinkValues_text {native mask : ℕ} (hnative : native = 0 ∨ native = 8) (hmask : mask < 2 ^ 32)
    (hfresh : r.vWfdVideoFormatsInfo = [])
    (hvalue : r.getCustomParam wfdParamVideoFormats = videoFormatsText native 2 16 mask) :
    ∃ v, r.sinkValues = .ok v ∧ v.Lowest ∧ v.wfdVideoFormatsInfo.ceaMask = mask := by
  obtain ⟨b, hports, -⟩ := r.getClientRtpPorts_failed
  obtain ⟨c, hcodecs, -⟩ := r.getClientRtpPorts.2.getAudioCodecs_failed
  obtain ⟨r', hr', hsame⟩ : ∃ r', r.getClientRtpPorts.2.getAudioCodecs.2 = r' ∧
      r' = { r with failed := r.failed || b || c } := by
    refine ⟨_, hcodecs, ?_⟩
    rw [hports]
  have hfresh' : r'.vWfdVideoFormatsInfo = [] := by
    rw [hsame]
    exact hfresh
  have hvalue' : r'.getCustomParam wfdParamVideoFormats = videoFormatsText native 2 16 mask := by
    rw [hsame]
    exact hvalue
  obtain ⟨read, info, hread, hinfo, hprofile, hlevel, hcea⟩ :=
    r'.getVideoFormats_text hnative hmask hfresh' hvalue'
  refine ⟨⟨BitVec.ofInt 16 r.getClientRtpPorts.1, r.getClientRtpPorts.2.getAudioCodecs.1,
    .video640x480_60, info, read.failed⟩, ?_, ⟨rfl, hprofile, hlevel⟩, hcea⟩
  have hvalues : r.sinkValues = (do
      let formats ← r'.getVideoFormats
      let wfdVideoFormatsInfo ← formats.2.getWfdVideoFormatsInfo
      pure ⟨BitVec.ofInt 16 r.getClientRtpPorts.1, r.getClientRtpPorts.2.getAudioCodecs.1, formats.1,
        wfdVideoFormatsInfo, formats.2.failed⟩) := by
    rw [← hr']
    rfl
  rw [hvalues, hread]
  simp only [bind, Except.bind, hinfo]
  rfl

end WfdRtspM3Response

theorem WfdRtspM4Request.getVideoTrack_lowest (r : WfdRtspM4Request) (track : VideoTrack)
    (h2 : r.getParameterValue wfdParamVideoFormats2 = [])
    (h : r.getParameterValue wfdParamVideoFormats =
      WfdRtspM3Response.videoFormatsText 0 2 16 1) :
    r.getVideoTrack track = { width := 640, height := 480, frameRate := 60, codecId := .h264 } := by
  have hne : WfdRtspM3Response.videoFormatsText 0 2 16 1 ≠ [] := by decide
  rw [getVideoTrack, h2, h]
  simp only [if_true, if_neg hne]
  rfl

/-- The setters of other parameters. -/
def WfdRtspM3Response.setParams (r : WfdRtspM3Response) (params : Tokens) : WfdRtspM3Response :=
  params.foldl (fun r p => r.setParam p.1 p.2) r

theorem WfdRtspM3Response.setParams_eq (r : WfdRtspM3Response) (params : Tokens) :
    r.setParams params = { r with params := r.params ++ params } := by
  rw [setParams]
  induction params generalizing r with
  | nil => simp
  | cons p params ih =>
    rw [List.foldl_cons, ih]
    simp [setParam]

/-- An answer to M3 with the video formats among other parameters. -/
structure SinkAnswer where
  cSeq : Int
  date : Text
  before : Tokens := []
  after : Tokens := []

namespace SinkAnswer

variable (a : SinkAnswer) (codecs : VideoCodecs) (format : VideoFormat)

/-- The calls of `SendM3Response`. -/
def response : WfdRtspM3Response :=
  let r : WfdRtspM3Response := { cSeq := a.cSeq, status := 200 }
  ((r.setParams a.before).setVideoFormats codecs format).setParams a.after

def text : Text := (a.response codecs format).stringify a.date

/-- The other parameters are lines, and a text that the source reads whole. -/
structure WellFormed : Prop where
  cSeq : ResponseFields.InInt a.cSeq
  date : LineText a.date
  before : ∀ p ∈ a.before, IsField p ∧ p.1 ≠ wfdParamVideoFormats
  after : ∀ p ∈ a.after, IsField p
  size : (bodyLines ((a.response codecs format).params.map fun p => field p.1 p.2)).length < 2 ^ 31

theorem response_eq : ∃ native, (native = 0 ∨ native = 8) ∧ a.response codecs format =
    { cSeq := a.cSeq, status := 200
      params := a.before ++ (wfdParamVideoFormats,
        WfdRtspM3Response.videoFormatsText native 2 16 (codecs.ceaMask format)) :: a.after } := by
  obtain ⟨native, hnative, heq⟩ := WfdRtspM3Response.setVideoFormats_eq
    { cSeq := a.cSeq, status := 200, params := a.before } codecs format
  refine ⟨native, hnative, ?_⟩
  simp only [response, WfdRtspM3Response.setParams_eq, heq, WfdRtspM3Response.setParam, List.nil_append,
    List.append_assoc, List.singleton_append]

/-- The answer as one that carries lines only. -/
def fields : ResponseFields :=
  { cSeq := a.cSeq, status := 200
    kind := .getParameter ((a.response codecs format).params.map fun p => field p.1 p.2) }

theorem text_eq : a.text codecs format = (a.fields codecs format).text a.date := by
  obtain ⟨native, -, heq⟩ := a.response_eq codecs format
  rw [text, fields, heq]
  rfl

variable {a codecs format}

theorem WellFormed.isField (h : a.WellFormed codecs format) :
    ∀ p ∈ (a.response codecs format).params, IsField p := by
  obtain ⟨native, hnative, heq⟩ := a.response_eq codecs format
  have hname : IsName wfdParamVideoFormats := by decide
  have hline := (WfdRtspM3Response.videoFormatsText_field native (codecs.ceaMask format)).1
  intro p hp
  simp only [heq, List.mem_append, List.mem_cons] at hp
  rcases hp with hp | rfl | hp
  · exact (h.before p hp).1
  · exact hname.isField hline
  · exact h.after p hp

theorem WellFormed.fields (h : a.WellFormed codecs format) : (a.fields codecs format).WellFormed where
  cSeq := h.cSeq
  status := (by decide : ResponseFields.InInt 200)
  session := (by decide : LineText [] ∧ Trimmed [] ∧ ';' ∉ [])
  timeout := (by decide : ResponseFields.InInt (-1))
  kind := by
    intro l hl
    obtain ⟨p, hp, rfl⟩ := List.mem_map.mp hl
    exact ⟨(h.isField p hp).line, IsField.line_ne_nil p⟩
  size := h.size.trans (by decide)

theorem find?_videoFormats {before after : Tokens} {value : Text}
    (hbefore : ∀ p ∈ before, p.1 ≠ wfdParamVideoFormats) (hvalue : Trimmed value) (hne : value ≠ []) :
    Tokens.find? ((before ++ (wfdParamVideoFormats, value) :: after).map readField) wfdParamVideoFormats =
      some value := by
  have hnone : (before.map readField).lookup wfdParamVideoFormats = none := by
    rw [List.lookup_eq_none_iff]
    intro p hp
    obtain ⟨q, hq, rfl⟩ := List.mem_map.mp hp
    simpa [readField] using (hbefore q hq).symm
  rw [List.map_append, List.map_cons, readField_of_trimmed hvalue hne, Tokens.find?, List.lookup_append,
    hnone, Option.none_or, List.lookup_cons_self]

theorem WellFormed.kept (h : a.WellFormed codecs format) : (a.fields codecs format).Kept where
  timeout := Or.inl rfl
  publicItems h0 := ResponseKind.noConfusion h0
  setup _ _ _ h0 := ResponseKind.noConfusion h0
  length := lengthKept_of_lt h.size

theorem parse_object (text : Text) :
    (RtspResponse.parse {} text).1.status = (RtspResponseObject.parse {} text).1.status := rfl

/-- What the source finds in the answer. -/
theorem WellFormed.read (h : a.WellFormed codecs format) :
    ∃ native, (native = 0 ∨ native = 8) ∧
      (RtspResponse.parse {} (a.text codecs format)).1.status = 200 ∧
      (WfdRtspM3Response.parse {} (a.text codecs format)).2.code = .ok ∧
      (WfdRtspM3Response.parse {} (a.text codecs format)).1.getCustomParam wfdParamVideoFormats =
        WfdRtspM3Response.videoFormatsText native 2 16 (codecs.ceaMask format) := by
  obtain ⟨native, hnative, heq⟩ := a.response_eq codecs format
  obtain ⟨hcode, -, hstatus, -, -, hbody, -⟩ := (h.fields.roundTrips_of_not_setup h.date
    fun _ _ _ h0 => ResponseKind.noConfusion h0).mpr h.kept
  rw [← a.text_eq] at hcode hstatus hbody
  obtain ⟨hok, -, hparams⟩ := ResponseFields.m3_parse hcode
  refine ⟨native, hnative, (parse_object _).trans hstatus, hok, ?_⟩
  have hlines : (a.fields codecs format).body =
      (a.response codecs format).params.map fun p => field p.1 p.2 := rfl
  rw [WfdRtspM3Response.getCustomParam, hparams, hbody, hlines,
    ResponseFields.splitParameter_fields h.isField, heq]
  obtain ⟨-, htrim, hne⟩ := WfdRtspM3Response.videoFormatsText_field native (codecs.ceaMask format)
  rw [find?_videoFormats (fun p hp => (h.before p hp).2) htrim hne, Option.getD_some]

/-- What the source keeps of the answer. -/
theorem WellFormed.handle (h : a.WellFormed codecs format) :
    ∃ v, handleM3Response (RtspResponse.parse {} (a.text codecs format)).1 (a.text codecs format) =
        .ok (some v) ∧
      v.Lowest ∧ v.wfdVideoFormatsInfo.ceaMask = codecs.ceaMask format := by
  obtain ⟨native, hnative, hstatus, hcode, hvalue⟩ := h.read
  obtain ⟨v, hv, hvalues⟩ := WfdRtspM3Response.sinkValues_text _ hnative (codecs.ceaMask_lt format)
    (parse_fresh _).1 hvalue
  refine ⟨v, ?_, hvalues⟩
  rw [handleM3Response, if_neg (not_not.mpr hstatus)]
  simp only [hcode, ne_eq, not_true_eq_false, if_false, hv]
  rfl

end SinkAnswer

/-- The parameters of an M4 request. -/
def m4Params (sourceIp : Text) (v : SinkValues) : Tokens :=
  [(wfdParamPresentationUrl, "rtsp://".toList ++ cStr sourceIp ++ "/wfd1.0/streamid=0 none".toList),
    (wfdParamVideoFormats, WfdRtspM3Response.videoFormatsText
      (WfdRtspM4Request.chosenResolution v.videoFormat <<< 3) v.wfdVideoFormatsInfo.profile
      v.wfdVideoFormatsInfo.level (1 <<< WfdRtspM4Request.chosenResolution v.videoFormat)),
    (wfdParamAudioCodecs, if v.audioCodec = .pcm then "LPCM 00000002 00".toList else "AAC 00000001 00".toList),
    (wfdParamRtpPorts, "RTP/AVP/UDP;unicast ".toList ++ decimal v.sinkRtpPort.toNat ++ " 0 mode=play".toList)]

def m4Fields (cSeq : Int) (sourceIp : Text) (v : SinkValues) : RequestFields :=
  { method := "SET_PARAMETER".toList, url := wfdRtspUrlDefault, cSeq
    body := (m4Params sourceIp v).map fun p => field p.1 p.2 }

theorem m4Fields_text (cSeq : Int) (sourceIp : Text) (v : SinkValues) :
    (m4Fields cSeq sourceIp v).build.stringify = (wfdRtspM4Request cSeq sourceIp v).stringify := by
  rw [RequestFields.build_eq]
  rfl

section M4

variable {cSeq : Int} {sourceIp : Text} {v : SinkValues}

theorem m4Params_lowest (h : v.Lowest) : m4Params sourceIp v =
    [(wfdParamPresentationUrl, "rtsp://".toList ++ cStr sourceIp ++ "/wfd1.0/streamid=0 none".toList),
      (wfdParamVideoFormats, WfdRtspM3Response.videoFormatsText 0 2 16 1),
      (wfdParamAudioCodecs, if v.audioCodec = .pcm then "LPCM 00000002 00".toList else "AAC 00000001 00".toList),
      (wfdParamRtpPorts, "RTP/AVP/UDP;unicast ".toList ++ decimal v.sinkRtpPort.toNat ++ " 0 mode=play".toList)] := by
  rw [m4Params, h.format, h.profile, h.level]
  rfl

theorem m4Params_isField (hip : LineText sourceIp) (h : v.Lowest) :
    ∀ p ∈ m4Params sourceIp v, IsField p := by
  have hname : ∀ name ∈ [wfdParamPresentationUrl, wfdParamVideoFormats, wfdParamAudioCodecs, wfdParamRtpPorts],
      IsName name := by decide
  have hsub : ∀ c ∈ cStr sourceIp, c ∈ sourceIp := (List.takeWhile_sublist _).subset
  have hcStr : LineText (cStr sourceIp) := ⟨fun h => hip.1 (hsub _ h), fun h => hip.2 (hsub _ h)⟩
  rw [m4Params_lowest h]
  intro p hp
  simp only [List.mem_cons, List.not_mem_nil, or_false] at hp
  rcases hp with rfl | rfl | rfl | rfl
  · exact (hname _ (by decide)).isField ((LineText.append (by decide) hcStr).append (by decide))
  · exact (hname _ (by decide)).isField (by decide)
  · apply (hname _ (by decide)).isField
    split <;> decide
  · exact (hname _ (by decide)).isField ((LineText.append (by decide) (lineText_decimal _)).append (by decide))

theorem m4Params_size (hip : sourceIp.length < 2 ^ 30) (h : v.Lowest) :
    (bodyLines ((m4Params sourceIp v).map fun p => field p.1 p.2)).length < 2 ^ 31 := by
  have hcStr : (cStr sourceIp).length ≤ sourceIp.length := (List.takeWhile_sublist _).length_le
  have hport : (decimal v.sinkRtpPort.toNat).length ≤ 5 := by
    have hlt := v.sinkRtpPort.isLt
    rw [decimal, if_neg (by omega), Int.natAbs_natCast, Nat.length_toDigits_le_iff (by decide) (by decide)]
    omega
  have haudio : (if v.audioCodec = .pcm then "LPCM 00000002 00".toList else "AAC 00000001 00".toList).length ≤
      16 := by
    split <;> decide
  have hvideo : (WfdRtspM3Response.videoFormatsText 0 2 16 1).length = 64 := by decide
  have hnames : wfdParamPresentationUrl.length = 20 ∧ wfdParamVideoFormats.length = 17 ∧
      wfdParamAudioCodecs.length = 16 ∧ wfdParamRtpPorts.length = 20 := by decide
  have htexts : "rtsp://".toList.length = 7 ∧ "/wfd1.0/streamid=0 none".toList.length = 23 ∧
      "RTP/AVP/UDP;unicast ".toList.length = 20 ∧ " 0 mode=play".toList.length = 12 := by decide
  obtain ⟨hurl, hformats, hcodecs, hports⟩ := hnames
  obtain ⟨hbefore, hafter, hbefore', hafter'⟩ := htexts
  have hsep : rtspSp.length = 1 ∧ rtspCrlf.length = 2 := by decide
  rw [m4Params_lowest h]
  simp only [List.map_cons, List.map_nil, bodyLines, ended_cons, ended_nil, field, List.length_append,
    List.length_cons, List.length_nil, hurl, hformats, hcodecs, hports, hbefore, hafter, hbefore', hafter',
    hvideo, hsep.1, hsep.2]
  omega

theorem m4Fields_wellFormed (hcSeq : 0 ≤ cSeq ∧ cSeq < 2 ^ 31) (hip : LineText sourceIp)
    (hlength : sourceIp.length < 2 ^ 30) (h : v.Lowest) : (m4Fields cSeq sourceIp v).WellFormed where
  method := (by decide : "SET_PARAMETER".toList ∈ rtspMethods)
  url := (by decide : ' ' ∉ wfdRtspUrlDefault ∧ LineText wfdRtspUrlDefault)
  cSeq := hcSeq
  userAgent := (by decide : LineText "KaihongOS".toList)
  session := (by decide : LineText [] ∧ Trimmed [])
  tokens t ht := absurd ht List.not_mem_nil
  nodup := List.nodup_nil
  body l hl := by
    obtain ⟨p, hp, rfl⟩ := List.mem_map.mp hl
    exact ⟨(m4Params_isField hip h p hp).line, IsField.line_ne_nil p⟩
  size := (m4Params_size hlength h).trans (by decide)

theorem m4_parse {text : Text} (hcode : (RtspRequestObject.parse {} text).2.code = .ok) :
    (WfdRtspM4Request.parse {} text).2.code = .ok ∧
      (WfdRtspM4Request.parse {} text).1.params = splitParameter (RtspRequestObject.parse {} text).1.body := by
  rw [WfdRtspM4Request.parse]
  simp only [hcode, ne_eq, not_true_eq_false, if_false]
  exact ⟨trivial, List.nil_append _⟩

theorem m4Params_find? (h : v.Lowest) :
    Tokens.find? ((m4Params sourceIp v).map readField) wfdParamVideoFormats2 = none ∧
      Tokens.find? ((m4Params sourceIp v).map readField) wfdParamVideoFormats =
        some (WfdRtspM3Response.videoFormatsText 0 2 16 1) := by
  have hnames : ((m4Params sourceIp v).map readField).map Prod.fst =
      [wfdParamPresentationUrl, wfdParamVideoFormats, wfdParamAudioCodecs, wfdParamRtpPorts] := rfl
  constructor
  · rw [← Option.not_isSome_iff_eq_none, Tokens.find?_isSome, hnames]
    decide
  · obtain ⟨-, htrim, hne⟩ := WfdRtspM3Response.videoFormatsText_field 0 1
    have hurl : ∀ p ∈ [(wfdParamPresentationUrl,
        "rtsp://".toList ++ cStr sourceIp ++ "/wfd1.0/streamid=0 none".toList)], p.1 ≠ wfdParamVideoFormats := by
      intro p hp
      rw [List.mem_singleton.mp hp]
      exact (by decide : wfdParamPresentationUrl ≠ wfdParamVideoFormats)
    rw [m4Params_lowest h]
    exact SinkAnswer.find?_videoFormats hurl htrim hne

theorem m4_read (hcSeq : 0 ≤ cSeq ∧ cSeq < 2 ^ 31) (hip : LineText sourceIp)
    (hlength : sourceIp.length < 2 ^ 30) (h : v.Lowest) (track : VideoTrack) :
    (WfdRtspM4Request.parse {} (wfdRtspM4Request cSeq sourceIp v).stringify).2.code = .ok ∧
      (WfdRtspM4Request.parse {} (wfdRtspM4Request cSeq sourceIp v).stringify).1.getVideoTrack track =
        { width := 640, height := 480, frameRate := 60, codecId := .h264 } := by
  have hwell := m4Fields_wellFormed hcSeq hip hlength h
  have hbody : (m4Fields cSeq sourceIp v).readBody = (m4Params sourceIp v).map fun p => field p.1 p.2 :=
    hwell.readBody.2.mpr (lengthKept_of_lt (m4Params_size hlength h))
  have hparse := hwell.parse_build
  rw [m4Fields_text, hbody] at hparse
  obtain ⟨hcode, hparams⟩ := @m4_parse (wfdRtspM4Request cSeq sourceIp v).stringify (by rw [hparse])
  rw [hparse, ResponseFields.splitParameter_fields (m4Params_isField hip h)] at hparams
  obtain ⟨hnone, hsome⟩ := @m4Params_find? sourceIp v h
  refine ⟨hcode, ?_⟩
  apply WfdRtspM4Request.getVideoTrack_lowest
  · rw [WfdRtspM4Request.getParameterValue, hparams, hnone, Option.getD_none]
  · rw [WfdRtspM4Request.getParameterValue, hparams, hsome, Option.getD_some]

end M4

/-- What M3 and M4 should settle: a resolution that the sink offers and then shows, and
when the sink is set to a supported one, that or a lower frame rate of it. -/
structure Settled (codecs : VideoCodecs) (format : VideoFormat) (v : SinkValues) (track : VideoTrack) :
    Prop where
  offered : v.wfdVideoFormatsInfo.ceaMask.testBit (WfdRtspM4Request.chosenResolution v.videoFormat)
  shown : (⟨track.width, track.height, track.frameRate, false⟩ : VideoConfig) =
    videoResolution typeCea (WfdRtspM4Request.chosenResolution v.videoFormat)
  kept : ∀ config ∈ format.config, codecs.Supports config →
    track.width = config.width ∧ track.height = config.height ∧ track.frameRate ≤ config.frameRate

/-- The source takes the answer, the sink takes the M4 request, and they settle. -/
def Negotiates (codecs : VideoCodecs) (format : VideoFormat) (a : SinkAnswer) (cSeq : Int) (sourceIp : Text)
    (track : VideoTrack) : Prop :=
  ∃ v, handleM3Response (RtspResponse.parse {} (a.text codecs format)).1 (a.text codecs format) =
      .ok (some v) ∧
    (WfdRtspM4Request.parse {} (wfdRtspM4Request cSeq sourceIp v).stringify).2.code = .ok ∧
    Settled codecs format v
      ((WfdRtspM4Request.parse {} (wfdRtspM4Request cSeq sourceIp v).stringify).1.getVideoTrack track)

/-- When the lowest resolution is the one to settle on. -/
def VideoCodecs.LowestSuffices (codecs : VideoCodecs) (format : VideoFormat) : Prop :=
  match format.config with
  | none => codecs.listed → codecs.Supports ⟨640, 480, 60, false⟩ ∨
      ∀ i < 17, ¬ codecs.isVideoResolutionSupport i
  | some config => config = ⟨640, 480, 60, false⟩ ∨
      (config.width = 640 ∨ codecs.listed) ∧ ¬ codecs.Supports config

theorem settled_lowest_iff {codecs : VideoCodecs} {format : VideoFormat} {v : SinkValues} (h : v.Lowest)
    (hmask : v.wfdVideoFormatsInfo.ceaMask = codecs.ceaMask format) :
    Settled codecs format v { width := 640, height := 480, frameRate := 60, codecId := .h264 } ↔
      codecs.LowestSuffices format := by
  have hchosen : WfdRtspM4Request.chosenResolution v.videoFormat = 0 := by
    rw [h.format]
    rfl
  have hoffered : v.wfdVideoFormatsInfo.ceaMask.testBit
      (WfdRtspM4Request.chosenResolution v.videoFormat) ↔ codecs.OffersLowest format := by
    rw [hchosen, hmask, codecs.ceaMask_lowest]
  have hshown : (⟨640, 480, 60, false⟩ : VideoConfig) =
      videoResolution typeCea (WfdRtspM4Request.chosenResolution v.videoFormat) := by
    rw [hchosen]
    rfl
  have hsplit : Settled codecs format v { width := 640, height := 480, frameRate := 60, codecId := .h264 } ↔
      codecs.OffersLowest format ∧ ∀ config ∈ format.config, codecs.Supports config →
        640 = config.width ∧ 480 = config.height ∧ 60 ≤ config.frameRate :=
    ⟨fun hs => ⟨hoffered.mp hs.offered, hs.kept⟩, fun hs => ⟨hoffered.mpr hs.1, hshown, hs.2⟩⟩
  rw [hsplit, VideoCodecs.OffersLowest, VideoCodecs.LowestSuffices]
  cases format <;> simp [VideoFormat.config]

/-- Sink and source settle on a resolution of both exactly when the lowest one is. -/
theorem negotiates_iff {codecs : VideoCodecs} {format : VideoFormat} {a : SinkAnswer} {cSeq : Int}
    {sourceIp : Text} (h : a.WellFormed codecs format) (hcSeq : 0 ≤ cSeq ∧ cSeq < 2 ^ 31)
    (hip : LineText sourceIp) (hlength : sourceIp.length < 2 ^ 30) (track : VideoTrack) :
    Negotiates codecs format a cSeq sourceIp track ↔ codecs.LowestSuffices format := by
  obtain ⟨v, hv, hlowest, hmask⟩ := h.handle
  obtain ⟨hcode, htrack⟩ := m4_read hcSeq hip hlength hlowest track
  rw [← settled_lowest_iff hlowest hmask, ← htrack]
  constructor
  · rintro ⟨v', hv', -, hsettled⟩
    rw [hv] at hv'
    obtain rfl : v = v' := Option.some.inj (Except.ok.inj hv')
    exact hsettled
  · intro hsettled
    exact ⟨v, hv, hcode, hsettled⟩

/-- A system whose codec takes everything. -/
def everyCodec : VideoCodecs := { listed := true, isSizeAndRateSupported := fun _ _ _ => true }

def portsAnswer : SinkAnswer :=
  { cSeq := 2, date := "Tue, Mar 04 2025 10:00:00 GMT".toList
    before := [(wfdParamRtpPorts, "RTP/AVP/UDP;unicast 19000 0 mode=play".toList)]
    after := [(wfdParamAudioCodecs, "AAC 00000001 00".toList)] }

theorem portsAnswer_wellFormed (format : VideoFormat) : portsAnswer.WellFormed everyCodec format where
  cSeq := by decide
  date := by decide
  before p hp := by
    rw [List.mem_singleton.mp hp]
    exact ⟨IsName.isField (by decide) (by decide), by decide⟩
  after p hp := by
    rw [List.mem_singleton.mp hp]
    exact IsName.isField (by decide) (by decide)
  size := by
    cases format <;> decide +kernel

theorem portsAnswer_negotiates :
    Negotiates everyCodec .video640x480_60 portsAnswer 3 "192.168.1.2".toList {} ↔
      everyCodec.LowestSuffices .video640x480_60 :=
  negotiates_iff (portsAnswer_wellFormed .video640x480_60) (by decide) (by decide) (by decide) {}

/-- The sink offers full HD, which it supports, and is asked for the lowest resolution. -/
theorem fullHd_not_negotiated :
    everyCodec.Supports ⟨1920, 1080, 30, false⟩ ∧
      ¬ Negotiates everyCodec .video1920x1080_30 portsAnswer 3 "192.168.1.2".toList {} := by
  refine ⟨rfl, ?_⟩
  rintro ⟨v, hv, -, hsettled⟩
  obtain ⟨v', hv', hlowest, hmask⟩ := (portsAnswer_wellFormed .video1920x1080_30).handle
  rw [hv'] at hv
  obtain rfl : v' = v := Option.some.inj (Except.ok.inj hv)
  have hoffered := hsettled.offered
  rw [hmask, hlowest.format] at hoffered
  exact absurd hoffered (by decide)

end WifiDisplay
