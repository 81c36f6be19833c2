import WifiDisplay.WfdMessages

/-! The tracks that an M4 request selects, and the entries of the format tables at which
`GetVideoTrack` and `GetAudioTrack` look. -/

namespace WifiDisplay

open InputStream

def wfdParamAudioCodecs2 : Text := "wfd2_audio_codecs".toList

/-- The sample formats of the table, and the zero of the entries that no row fills. -/
inductive AudioSampleFormat where
  | zero
  | s16le
  | s24le
  deriving DecidableEq, Repr

structure AudioConfig where
  sampleRate : ℕ := 0
  sampleFormat : AudioSampleFormat := .zero
  channels : ℕ := 0
  deriving DecidableEq, Repr

structure AudioTrack where
  channels : ℕ := 0
  sampleBit : ℕ := 0
  sampleRate : ℕ := 0
  sampleFormat : AudioSampleFormat := .zero
  codecId : CodecId := .none
  deriving DecidableEq, Repr

def typeLpcm : ℕ := 0
def typeAac : ℕ := 1
def typeAc3 : ℕ := 2

def lpcmTable : List AudioConfig :=
  [⟨44100, .s16le, 2⟩, ⟨48000, .s16le, 2⟩, ⟨48000, .s16le, 1⟩, ⟨48000, .s16le, 6⟩, ⟨48000, .s16le, 8⟩,
    ⟨48000, .s24le, 2⟩, ⟨96000, .s16le, 2⟩, ⟨96000, .s24le, 2⟩, ⟨96000, .s24le, 6⟩, ⟨96000, .s24le, 8⟩]

def aacTable : List AudioConfig :=
  [⟨48000, .s16le, 2⟩, ⟨48000, .s16le, 4⟩, ⟨48000, .s16le, 6⟩, ⟨48000, .s16le, 8⟩]

def ac3Table : List AudioConfig := [⟨48000, .s16le, 2⟩, ⟨48000, .s16le, 4⟩, ⟨48000, .s16le, 6⟩]

def audioModesTableLength : ℕ := 10

/-- The entries that the code gives for a row. -/
def audioRow (type : ℕ) : List AudioConfig :=
  if type = typeLpcm then lpcmTable else if type = typeAac then aacTable else ac3Table

def videoRow (type : ℕ) : List VideoConfig :=
  if type = typeCea then ceaTable else if type = typeVesa then vesaTable else hhTable

/-- The rows of the table are filled up with zeros; behind a row the read is out of its bounds. -/
def audioConfig (type index : ℕ) : Except Fault AudioConfig :=
  if index < audioModesTableLength then .ok ((audioRow type).getD index {}) else .error .outOfBounds

def VideoTrack.fill (videoTrack : VideoTrack) (config : VideoConfig) : VideoTrack :=
  { videoTrack with
    codecId := .h264, width := config.width, height := config.height, frameRate := config.frameRate }

def AudioTrack.fill (audioTrack : AudioTrack) (codecId : CodecId) (config : AudioConfig) : AudioTrack :=
  { audioTrack with
    codecId, sampleRate := config.sampleRate, sampleFormat := config.sampleFormat
    channels := config.channels }

/-- A `long` in an `int32_t`. -/
def toInt32 (n : Int) : Int := n.bmod (2 ^ 32)

namespace WfdRtspM4Request

variable (r : WfdRtspM4Request)

/-- Every other name is taken for AAC. -/
def audioType (format : Text) : ℕ :=
  if format = "LPCM".toList then typeLpcm
  else if format = "AAC".toList then typeAac
  else if format = "AC3".toList then typeAc3
  else typeAac

/-- The name of the codec and the text of the modes. -/
def audioFormat : Option (Text × Text) :=
  let param2 := r.getParameterValue wfdParamAudioCodecs2
  let param := if param2 = [] then r.getParameterValue wfdParamAudioCodecs else param2
  if param = [] then none
  else
    let audioFormats := splitBlanks param.length param
    if audioFormats.length ≤ 1 then none else some (audioFormats.getD 0 [], audioFormats.getD 1 [])

/-- The row and the place at which `GetAudioTrack` looks. -/
def audioEntry : Option (ℕ × ℕ) :=
  r.audioFormat.bind fun (format, mode) =>
    let result := toInt32 (strtolHex mode).1
    if result ≤ 0 then none else some (audioType format, Nat.log2 result.toNat)

def getAudioTrack (audioTrack : AudioTrack) : Except Fault AudioTrack :=
  match r.audioEntry with
  | none => .ok audioTrack
  | some (type, index) => do
    let config ← audioConfig type index
    pure (audioTrack.fill .aac config)

/-- The type and the text of its mask. -/
def videoFormat : Option (ℕ × Text) :=
  let param2 := r.getParameterValue wfdParamVideoFormats2
  let param := if param2 = [] then r.getParameterValue wfdParamVideoFormats else param2
  if param = [] then none
  else
    let videoFormats := splitBlanks param.length param
    if videoFormats.length ≤ 6 then none
    else
      let native := cStr (videoFormats.headD [])
      let (nativeValue, inRange, rest) := strtolHex native
      if ¬ inRange ∨ rest = native ∨ rest ≠ [] then none
      else
        let type := (nativeValue % 8).toNat
        if type = typeCea then some (type, videoFormats.getD 4 [])
        else if type = typeVesa then some (type, videoFormats.getD 5 [])
        else if type = typeHh then some (type, videoFormats.getD 6 [])
        else none

/-- The row and the place at which `GetVideoResolution` looks. -/
def videoEntry : Option (ℕ × ℕ) :=
  r.videoFormat.bind fun (type, resolution) =>
    let result := ((strtolHex resolution).1 % 2 ^ 32).toNat
    if result = 0 then none else some (type, Nat.log2 result)

theorem getVideoResolution_eq (videoTrack : VideoTrack) (resolution : Text) (type : ℕ) :
    getVideoResolution videoTrack resolution type =
      let result := ((strtolHex resolution).1 % 2 ^ 32).toNat
      if result = 0 then videoTrack else videoTrack.fill (videoResolution type (Nat.log2 result)) := rfl

theorem getVideoTrack_videoFormat (videoTrack : VideoTrack) :
    r.getVideoTrack videoTrack = match r.videoFormat with
      | none => videoTrack
      | some (type, resolution) => getVideoResolution videoTrack resolution type := by
  rw [getVideoTrack, videoFormat]
  dsimp only
  generalize (if r.getParameterValue wfdParamVideoFormats2 = [] then r.getParameterValue wfdParamVideoFormats
    else r.getParameterValue wfdParamVideoFormats2) = param
  by_cases hparam : param = []
  · rw [if_pos hparam, if_pos hparam]
  · rw [if_neg hparam, if_neg hparam]
    generalize splitBlanks param.length param = videoFormats
    by_cases hsize : videoFormats.length ≤ 6
    · rw [if_pos hsize, if_pos hsize]
    · rw [if_neg hsize, if_neg hsize]
      obtain ⟨nativeValue, inRange, rest⟩ := strtolHex (cStr (videoFormats.headD []))
      dsimp only
      split
      · rfl
      · by_cases hcea : (nativeValue % 8).toNat = typeCea
        · rw [if_pos hcea, if_pos hcea]
        · rw [if_neg hcea, if_neg hcea]
          by_cases hvesa : (nativeValue % 8).toNat = typeVesa
          · rw [if_pos hvesa, if_pos hvesa]
          · rw [if_neg hvesa, if_neg hvesa]
            by_cases hhh : (nativeValue % 8).toNat = typeHh
            · rw [if_pos hhh, if_pos hhh]
            · rw [if_neg hhh, if_neg hhh]

/-- `GetVideoTrack` fills the track from the entry at which it looks. -/
theorem getVideoTrack_eq (videoTrack : VideoTrack) :
    r.getVideoTrack videoTrack = match r.videoEntry with
      | none => videoTrack
      | some (type, index) => videoTrack.fill (videoResolution type index) := by
  rw [getVideoTrack_videoFormat, videoEntry]
  cases r.videoFormat with
  | none => rfl
  | some selected =>
    simp only [Option.bind_some, getVideoResolution_eq]
    by_cases hzero : ((strtolHex selected.2).1 % 2 ^ 32).toNat = 0
    · rw [if_pos hzero, if_pos hzero]
    · rw [if_neg hzero, if_neg hzero]

end WfdRtspM4Request

/-- The number at the start of a text, with any number of hex digits; zero without one. -/
def hexValue (s : Text) : Int :=
  let (negative, t) := sign (s.dropWhile isBlank)
  let u := afterPrefix 16 t
  let t := if u.takeWhile (isDigit 16) = [] then t else u
  let magnitude := magnitude 16 (t.takeWhile (isDigit 16))
  if negative then -(magnitude : Int) else magnitude

theorem magnitude_nil : magnitude 16 [] = 0 := rfl

/-- `strtol` gives the number, or the end of `long` on its side. -/
theorem strtolHex_value (s : Text) : (strtolHex s).1 = max (-2 ^ 63) (min (hexValue s) (2 ^ 63 - 1)) := by
  rw [strtolHex, hexValue]
  obtain ⟨negative, t⟩ := sign (s.dropWhile isBlank)
  dsimp only
  generalize (if (afterPrefix 16 t).takeWhile (isDigit 16) = [] then t else afterPrefix 16 t) = u
  by_cases hdigits : u.takeWhile (isDigit 16) = []
  · rw [if_pos hdigits, hdigits, magnitude_nil]
    cases negative <;> rfl
  · rw [if_neg hdigits]

/-- The entry of the highest bit of a mask, where the row gives one. -/
def maskEntry {α : Type} (row : List α) (mask : Int) : Option α :=
  if 0 < mask then row[Nat.log2 mask.toNat]? else none

theorem maskEntry_eq_none {α : Type} {row : List α} {mask : Int} :
    maskEntry row mask = none ↔ mask ≤ 0 ∨ 2 ^ row.length ≤ mask := by
  rw [maskEntry]
  by_cases hpos : 0 < mask
  · obtain ⟨n, rfl⟩ := Int.eq_ofNat_of_zero_le (Int.le_of_lt hpos)
    have hne : n ≠ 0 := by omega
    rw [if_pos hpos, Int.toNat_natCast, List.getElem?_eq_none_iff, Nat.le_log2 hne, or_iff_right (Int.not_le.mpr hpos)]
    norm_cast
  · rw [if_neg hpos]
    exact iff_of_true rfl (.inl (Int.not_lt.mp hpos))

/-- The codec that a name stands for, with the row of its modes. AC3 has a row but no number among
the codecs. -/
def namedCodec (format : Text) : Option (CodecId × List AudioConfig) :=
  if format = "LPCM".toList then some (.pcm, lpcmTable)
  else if format = "AAC".toList then some (.aac, aacTable)
  else none

namespace WfdRtspM4Request

variable (r : WfdRtspM4Request)

/-- The resolution of the highest bit in the row of the selected type. -/
def selectedVideo : Option VideoConfig :=
  r.videoFormat.bind fun (type, resolution) => maskEntry (videoRow type) (hexValue resolution)

/-- The named codec, and the mode of the highest bit in its row. -/
def selectedAudio : Option (CodecId × AudioConfig) :=
  r.audioFormat.bind fun (format, mode) =>
    (namedCodec format).bind fun (codecId, row) => (maskEntry row (hexValue mode)).map (codecId, ·)

/-- Both look only at entries that the tables give; they fill the track with what is selected, and
leave it as it was where nothing is. -/
structure SelectsInTables : Prop where
  videoEntry : ∀ type index, r.videoEntry = some (type, index) → index < (videoRow type).length
  video : ∀ videoTrack, r.getVideoTrack videoTrack = match r.selectedVideo with
    | none => videoTrack
    | some config => videoTrack.fill config
  audioEntry : ∀ type index, r.audioEntry = some (type, index) → index < (audioRow type).length
  audio : ∀ audioTrack, r.getAudioTrack audioTrack = .ok (match r.selectedAudio with
    | none => audioTrack
    | some (codecId, config) => audioTrack.fill codecId config)

/-- The masks that the 32 bits of the code tell right from the others: those of an entry; and those
of no entry whose 32 bits are zero. -/
def VideoMaskFits (type : ℕ) (mask : Int) : Prop :=
  0 ≤ mask ∧ mask < 2 ^ min 32 (videoRow type).length ∨
    (mask ≤ 0 ∨ 2 ^ (videoRow type).length ≤ mask) ∧ (mask ≤ -2 ^ 63 ∨ mask < 2 ^ 63 ∧ 2 ^ 32 ∣ mask)

/-- AAC with one of its modes, or a mask without a positive number in its 32 bits. -/
def AudioModeFits (format : Text) (mask : Int) : Prop :=
  format = "AAC".toList ∧ 0 < mask ∧ mask < 2 ^ aacTable.length ∨
    mask < -2 ^ 63 ∨ 2 ^ 63 ≤ mask ∨ toInt32 mask ≤ 0

def Fits : Prop :=
  (∀ type resolution, r.videoFormat = some (type, resolution) → VideoMaskFits type (hexValue resolution)) ∧
    ∀ format mode, r.audioFormat = some (format, mode) → AudioModeFits format (hexValue mode)

/-! The video track. -/

theorem VideoTrack_fill_ne (config : VideoConfig) : ({} : VideoTrack).fill config ≠ {} := by
  intro h
  cases congrArg VideoTrack.codecId h

theorem videoResolution_eq {type index : ℕ} {config : VideoConfig} (h : (videoRow type)[index]? = some config) :
    videoResolution type index = config := by
  change (videoRow type).getD index {} = config
  rw [List.getD_eq_getElem?_getD, h]
  rfl

/-- Only the entries past the 32 bits have the greatest resolution. -/
theorem videoResolution_height {type index : ℕ} (hindex : index < 32) {place : ℕ} (hplace : 32 ≤ place)
    {config : VideoConfig} (h : (videoRow type)[place]? = some config) :
    (videoResolution type index).height * (videoResolution type index).width ≠ config.height * config.width := by
  have hlt : place < (videoRow type).length := (List.getElem?_eq_some_iff.mp h).1
  have hvesa : videoRow type = vesaTable := by
    rw [videoRow] at hlt ⊢
    split at hlt
    · exact absurd hlt (Nat.not_lt.mpr (Nat.le_trans (by decide) hplace))
    · rename_i hcea
      split at hlt
      · rename_i hvesa
        rw [if_neg hcea, if_pos hvesa]
      · exact absurd hlt (Nat.not_lt.mpr (Nat.le_trans (by decide) hplace))
  have hgreatest : ∀ place < vesaTable.length, 32 ≤ place → ∀ config ∈ vesaTable[place]?,
      config.height * config.width = 1600 * 2560 := by decide
  have hsmaller : ∀ index < 32, (vesaTable.getD index {}).height * (vesaTable.getD index {}).width ≠ 1600 * 2560 := by
    decide
  rw [hvesa] at h hlt
  rw [hgreatest place hlt hplace config h]
  change ((videoRow type).getD index {}).height * ((videoRow type).getD index {}).width ≠ _
  rw [hvesa]
  exact hsmaller index hindex

/-- What `getVideoResolution` makes of the number. -/
def videoWord (mask : Int) : ℕ := (max (-2 ^ 63) (min mask (2 ^ 63 - 1)) % 2 ^ 32).toNat

theorem videoEntry_some {type : ℕ} {resolution : Text} (h : r.videoFormat = some (type, resolution)) :
    r.videoEntry = if videoWord (hexValue resolution) = 0 then none
      else some (type, Nat.log2 (videoWord (hexValue resolution))) := by
  rw [videoEntry, h, Option.bind_some, videoWord, ← strtolHex_value]

theorem selectedVideo_some {type : ℕ} {resolution : Text} (h : r.videoFormat = some (type, resolution)) :
    r.selectedVideo = maskEntry (videoRow type) (hexValue resolution) := by
  rw [selectedVideo, h, Option.bind_some]

theorem two_pow_min_le (n : ℕ) : (2 : Int) ^ min 32 n ≤ 2 ^ 32 := by
  exact_mod_cast Nat.pow_le_pow_right (by decide) (Nat.min_le_left 32 n)

/-- Without a bit in the word the track stays as it was. -/
theorem video_zero {type : ℕ} {mask : Int} (h : videoWord mask = 0) :
    maskEntry (videoRow type) mask = none ↔ VideoMaskFits type mask := by
  rw [maskEntry_eq_none, VideoMaskFits]
  have hrange : mask ≤ -2 ^ 63 ∨ mask < 2 ^ 63 ∧ 2 ^ 32 ∣ mask := by
    simp only [videoWord] at h
    omega
  rw [and_iff_left hrange]
  refine ⟨.inr, fun hfits => hfits.elim (fun ⟨hpos, hlt⟩ => .inl ?_) id⟩
  have hword := Int.lt_of_lt_of_le hlt (two_pow_min_le _)
  simp only [videoWord] at h
  omega

/-- With a bit in the word the track is filled from the entry of the highest one. -/
theorem video_nonzero {type : ℕ} {mask : Int} (h : videoWord mask ≠ 0) :
    (Nat.log2 (videoWord mask) < (videoRow type).length ∧
      ∀ videoTrack : VideoTrack, videoTrack.fill (videoResolution type (Nat.log2 (videoWord mask))) =
        match maskEntry (videoRow type) mask with
          | none => videoTrack
          | some config => videoTrack.fill config) ↔ VideoMaskFits type mask := by
  by_cases hword : 0 ≤ mask ∧ mask < 2 ^ 32
  · obtain ⟨n, rfl⟩ := Int.eq_ofNat_of_zero_le hword.1
    have hn : n < 2 ^ 32 := by exact_mod_cast hword.2
    have heq : videoWord n = n := by
      simp only [videoWord]
      omega
    rw [heq] at h ⊢
    have hpos : (0 : Int) < n := by omega
    have hfits : VideoMaskFits type n ↔ n < 2 ^ (videoRow type).length := by
      have hmin : n < 2 ^ min 32 (videoRow type).length ↔ n < 2 ^ (videoRow type).length := by
        rcases Nat.le_total 32 (videoRow type).length with hle | hle
        · rw [Nat.min_eq_left hle]
          exact iff_of_true hn (Nat.lt_of_lt_of_le hn (Nat.pow_le_pow_right (by decide) hle))
        · rw [Nat.min_eq_right hle]
      rw [VideoMaskFits, ← hmin]
      refine ⟨fun hfits => hfits.elim (fun hword => by exact_mod_cast hword.2) fun hzero => ?_, fun hlt =>
        .inl ⟨Int.natCast_nonneg n, by exact_mod_cast hlt⟩⟩
      omega
    rw [hfits, Nat.log2_lt h, and_iff_left_of_imp]
    intro hlt videoTrack
    have hget := List.getElem?_eq_getElem ((Nat.log2_lt h).mpr hlt)
    rw [maskEntry, if_pos hpos, Int.toNat_natCast, hget, videoResolution_eq hget]
  · have hlog : Nat.log2 (videoWord mask) < 32 := by
      rw [Nat.log2_lt h]
      simp only [videoWord]
      omega
    refine iff_of_false ?_ ?_
    · rintro ⟨-, htrack⟩
      cases hentry : maskEntry (videoRow type) mask with
      | none =>
        rw [hentry] at htrack
        exact VideoTrack_fill_ne _ (htrack {})
      | some config =>
        rw [hentry] at htrack
        have hpos : 0 < mask := by
          by_contra hneg
          rw [maskEntry, if_neg hneg] at hentry
          cases hentry
        obtain ⟨n, rfl⟩ := Int.eq_ofNat_of_zero_le (Int.le_of_lt hpos)
        rw [maskEntry, if_pos hpos, Int.toNat_natCast] at hentry
        have hplace : 32 ≤ Nat.log2 n := by
          rw [Nat.le_log2 (by omega)]
          omega
        have hheight : (videoResolution type (videoWord n).log2).height = config.height :=
          congrArg VideoTrack.height (htrack {})
        have hwidth : (videoResolution type (videoWord n).log2).width = config.width :=
          congrArg VideoTrack.width (htrack {})
        exact videoResolution_height hlog hplace hentry (by rw [hheight, hwidth])
    · rintro (⟨hpos, hlt⟩ | ⟨-, hrange⟩)
      · exact hword ⟨hpos, Int.lt_of_lt_of_le hlt (two_pow_min_le _)⟩
      · simp only [videoWord] at h
        omega

/-- The video of a request is selected in the table exactly when its mask fits. -/
theorem video_iff : ((∀ type index, r.videoEntry = some (type, index) → index < (videoRow type).length) ∧
    ∀ videoTrack, r.getVideoTrack videoTrack = match r.selectedVideo with
      | none => videoTrack
      | some config => videoTrack.fill config) ↔
    ∀ type resolution, r.videoFormat = some (type, resolution) → VideoMaskFits type (hexValue resolution) := by
  simp only [getVideoTrack_eq]
  cases hformat : r.videoFormat with
  | none =>
    have hentry : r.videoEntry = none := by rw [videoEntry, hformat, Option.bind_none]
    have hselected : r.selectedVideo = none := by rw [selectedVideo, hformat, Option.bind_none]
    simp [hentry, hselected]
  | some selected =>
    obtain ⟨type, resolution⟩ := selected
    have hall : (∀ t u, some (type, resolution) = some (t, u) → VideoMaskFits t (hexValue u)) ↔
        VideoMaskFits type (hexValue resolution) := by
      refine ⟨fun h => h _ _ rfl, fun h t u heq => ?_⟩
      cases heq
      exact h
    rw [hall, videoEntry_some r hformat, selectedVideo_some r hformat]
    by_cases hzero : videoWord (hexValue resolution) = 0
    · rw [if_pos hzero, ← video_zero hzero]
      cases maskEntry (videoRow type) (hexValue resolution) with
      | none => simp
      | some config =>
        refine iff_of_false (fun h => VideoTrack_fill_ne config (h.2 {}).symm) (by simp)
    · rw [if_neg hzero, ← video_nonzero hzero]
      refine and_congr ⟨fun h => h _ _ rfl, fun h t i heq => ?_⟩ Iff.rfl
      cases heq
      exact h

/-! The audio track. -/

/-- What `getAudioTrack` makes of the number. -/
def audioWord (mask : Int) : Int := toInt32 (max (-2 ^ 63) (min mask (2 ^ 63 - 1)))

theorem audioEntry_some {format mode : Text} (h : r.audioFormat = some (format, mode)) :
    r.audioEntry = if audioWord (hexValue mode) ≤ 0 then none
      else some (audioType format, Nat.log2 (audioWord (hexValue mode)).toNat) := by
  rw [audioEntry, h, Option.bind_some, audioWord, ← strtolHex_value]

theorem audioWord_nonpos {mask : Int} : audioWord mask ≤ 0 ↔ mask < -2 ^ 63 ∨ 2 ^ 63 ≤ mask ∨ toInt32 mask ≤ 0 := by
  simp only [audioWord, toInt32, Int.bmod]
  omega

theorem selectedAudio_some {format mode : Text} (h : r.audioFormat = some (format, mode)) :
    r.selectedAudio = (namedCodec format).bind fun (codecId, row) =>
      (maskEntry row (hexValue mode)).map (codecId, ·) := by
  rw [selectedAudio, h]
  rfl

theorem namedCodec_aac {format : Text} {row : List AudioConfig} (h : namedCodec format = some (.aac, row)) :
    format = "AAC".toList ∧ row = aacTable := by
  rw [namedCodec] at h
  split at h
  · cases h
  · split at h
    · rename_i haac
      cases h
      exact ⟨haac, rfl⟩
    · cases h

theorem namedCodec_length {format : Text} {codec : CodecId × List AudioConfig} (h : namedCodec format = some codec) :
    codec.2.length ≤ 10 := by
  rw [namedCodec] at h
  split at h
  · cases h
    decide
  · split at h
    · cases h
      decide
    · cases h

/-- Without a positive word the track stays as it was, and no row has the bit. -/
theorem selectedAudio_nonpos {format mode : Text} (h : r.audioFormat = some (format, mode))
    (hword : audioWord (hexValue mode) ≤ 0) : r.selectedAudio = none := by
  rw [selectedAudio_some r h]
  cases hcodec : namedCodec format with
  | none => rfl
  | some codec =>
    have hle : (2 : Int) ^ codec.2.length ≤ 2 ^ 10 := by
      exact_mod_cast Nat.pow_le_pow_right (by decide) (namedCodec_length hcodec)
    have hmask : hexValue mode ≤ 0 ∨ 2 ^ 10 ≤ hexValue mode := by
      simp only [audioWord, toInt32, Int.bmod] at hword
      omega
    have hnone : maskEntry codec.2 (hexValue mode) = none := maskEntry_eq_none.mpr (by omega)
    obtain ⟨codecId, row⟩ := codec
    rw [Option.bind_some]
    exact congrArg (Option.map (codecId, ·)) hnone

/-- A track that was filled is filled as AAC. -/
theorem selectedAudio_filled {config : Except Fault AudioConfig}
    (h : config.map (({} : AudioTrack).fill .aac) = .ok (match r.selectedAudio with
      | none => {}
      | some (codecId, config) => ({} : AudioTrack).fill codecId config)) :
    ∃ config, r.selectedAudio = some (.aac, config) := by
  cases config with
  | error fault => cases h
  | ok config =>
    have hcodec := congrArg AudioTrack.codecId (Except.ok.inj h)
    cases hselected : r.selectedAudio with
    | none =>
      rw [hselected] at hcodec
      cases hcodec
    | some selected =>
      rw [hselected] at hcodec
      obtain ⟨codecId, config⟩ := selected
      obtain rfl : CodecId.aac = codecId := hcodec
      exact ⟨config, rfl⟩

/-- A positive word is read as a mode of AAC. -/
theorem audio_pos {format mode : Text} (h : r.audioFormat = some (format, mode))
    (hpos : ¬ audioWord (hexValue mode) ≤ 0) :
    (Nat.log2 (audioWord (hexValue mode)).toNat < (audioRow (audioType format)).length ∧
      ∀ audioTrack : AudioTrack, r.getAudioTrack audioTrack = .ok (match r.selectedAudio with
        | none => audioTrack
        | some (codecId, config) => audioTrack.fill codecId config)) ↔
      AudioModeFits format (hexValue mode) := by
  have hget (audioTrack : AudioTrack) : r.getAudioTrack audioTrack =
      (audioConfig (audioType format) (Nat.log2 (audioWord (hexValue mode)).toNat)).map (audioTrack.fill .aac) := by
    rw [getAudioTrack, audioEntry_some r h, if_neg hpos]
    dsimp only
    cases audioConfig (audioType format) (Nat.log2 (audioWord (hexValue mode)).toNat) <;> rfl
  rw [AudioModeFits, ← audioWord_nonpos, or_iff_left hpos]
  constructor
  · rintro ⟨-, htrack⟩
    have hfilled := htrack {}
    rw [hget] at hfilled
    obtain ⟨config, hselected⟩ := selectedAudio_filled r hfilled
    rw [selectedAudio_some r h, Option.bind_eq_some_iff] at hselected
    obtain ⟨⟨codecId, row⟩, hcodec, hentry⟩ := hselected
    obtain ⟨config, hentry, heq⟩ := Option.map_eq_some_iff.mp hentry
    cases heq
    obtain ⟨haac, rfl⟩ := namedCodec_aac hcodec
    have hsome : ¬ (hexValue mode ≤ 0 ∨ 2 ^ aacTable.length ≤ hexValue mode) := by
      rw [← maskEntry_eq_none, hentry]
      exact Option.some_ne_none config
    exact ⟨haac, by omega, by omega⟩
  · rintro ⟨rfl, hmask, hlt⟩
    obtain ⟨n, hn⟩ := Int.eq_ofNat_of_zero_le (Int.le_of_lt hmask)
    rw [hn] at hmask hlt hget ⊢
    have hword : (audioWord n).toNat = n := by
      have hlt' : (n : Int) < 2 ^ 4 := hlt
      simp only [audioWord, toInt32, Int.bmod]
      omega
    have hlog : Nat.log2 n < aacTable.length := (Nat.log2_lt (by omega)).mpr (by exact_mod_cast hlt)
    rw [hword] at hget ⊢
    refine ⟨hlog, fun audioTrack => ?_⟩
    have hconfig : audioConfig (audioType "AAC".toList) (Nat.log2 n) = .ok (aacTable[Nat.log2 n]) := by
      have hbound : Nat.log2 n < audioModesTableLength := Nat.lt_of_lt_of_le hlog (by decide)
      rw [audioConfig, if_pos hbound]
      change Except.ok (aacTable.getD _ _) = _
      rw [List.getD_eq_getElem?_getD, List.getElem?_eq_getElem hlog]
      rfl
    have hselected : r.selectedAudio = some (.aac, aacTable[Nat.log2 n]) := by
      have hcodec : namedCodec "AAC".toList = some (.aac, aacTable) := rfl
      have hentry : maskEntry aacTable n = some aacTable[Nat.log2 n] := by
        rw [maskEntry, if_pos hmask, Int.toNat_natCast, List.getElem?_eq_getElem hlog]
      rw [selectedAudio_some r h, hcodec, Option.bind_some, hn]
      exact congrArg (Option.map (CodecId.aac, ·)) hentry
    rw [hget, hconfig, hselected]
    rfl

/-- The audio of a request is selected in the table exactly when its mode fits. -/
theorem audio_iff : ((∀ type index, r.audioEntry = some (type, index) → index < (audioRow type).length) ∧
    ∀ audioTrack, r.getAudioTrack audioTrack = .ok (match r.selectedAudio with
      | none => audioTrack
      | some (codecId, config) => audioTrack.fill codecId config)) ↔
    ∀ format mode, r.audioFormat = some (format, mode) → AudioModeFits format (hexValue mode) := by
  cases hformat : r.audioFormat with
  | none =>
    have hentry : r.audioEntry = none := by rw [audioEntry, hformat, Option.bind_none]
    have hselected : r.selectedAudio = none := by rw [selectedAudio, hformat, Option.bind_none]
    simp [getAudioTrack, hentry, hselected]
  | some selected =>
    obtain ⟨format, mode⟩ := selected
    have hall : (∀ f m, some (format, mode) = some (f, m) → AudioModeFits f (hexValue m)) ↔
        AudioModeFits format (hexValue mode) := by
      refine ⟨fun h => h _ _ rfl, fun h f m heq => ?_⟩
      cases heq
      exact h
    rw [hall, audioEntry_some r hformat]
    by_cases hword : audioWord (hexValue mode) ≤ 0
    · have hfits : AudioModeFits format (hexValue mode) := .inr (audioWord_nonpos.mp hword)
      have hentry : r.audioEntry = none := by rw [audioEntry_some r hformat, if_pos hword]
      refine iff_of_true ⟨fun t i heq => ?_, fun audioTrack => ?_⟩ hfits
      · rw [if_pos hword] at heq
        cases heq
      · rw [getAudioTrack, hentry, selectedAudio_nonpos r hformat hword]
    · rw [if_neg hword, ← audio_pos r hformat hword]
      refine and_congr ⟨fun h => h _ _ rfl, fun h t i heq => ?_⟩ Iff.rfl
      cases heq
      exact h

/-- A request is read within the tables exactly when its masks fit. -/
theorem selectsInTables_iff : r.SelectsInTables ↔ r.Fits := by
  rw [Fits, ← video_iff, ← audio_iff]
  exact ⟨fun h => ⟨⟨h.videoEntry, h.video⟩, h.audioEntry, h.audio⟩,
    fun ⟨⟨hvideoEntry, hvideo⟩, haudioEntry, haudio⟩ => ⟨hvideoEntry, hvideo, haudioEntry, haudio⟩⟩

/-- An M4 request with this line of video formats. -/
def videoFormatsRequest (first cea : String) : Text :=
  ("SET_PARAMETER rtsp://localhost/wfd1.0 RTSP/1.0\r\nCSeq: 4\r\nContent-Length: 85\r\n" ++
    "Content-Type: text/parameters\r\n\r\nwfd_video_formats: " ++ first ++ " 00 02 10 " ++ cea ++
    " 00000000 00000000 00 0000 0000 00 none none\r\n").toList

/-- The last bit of the CEA mask has no resolution. -/
theorem lastCeaBit_not_selectsInTables :
    (parse {} (videoFormatsRequest "00" "80000000")).2.code = .ok ∧
      ¬ (parse {} (videoFormatsRequest "00" "80000000")).1.SelectsInTables := by
  refine ⟨by decide +kernel, fun h => ?_⟩
  have hentry : (parse {} (videoFormatsRequest "00" "80000000")).1.videoEntry = some (typeCea, 31) := by
    decide +kernel
  exact absurd (h.videoEntry typeCea 31 hentry) (by decide)

end WfdRtspM4Request

end WifiDisplay
