import Mathlib.Data.Nat.Notation

/-! Video formats, and the tables of the resolutions that a WFD message names by
the number of a bit. -/

namespace WifiDisplay

inductive VideoFormat where
  | none
  | video640x480_25
  | video640x480_30
  | video640x480_60
  | video1280x720_25
  | video1280x720_30
  | video1280x720_60
  | video1920x1080_25
  | video1920x1080_30
  | video1920x1080_60
  deriving DecidableEq, Repr

/-- The CEA resolutions that the code names. -/
def cea640x480p60 : ℕ := 0
def cea1280x720p30 : ℕ := 5
def cea1280x720p60 : ℕ := 6
def cea1920x1080p30 : ℕ := 7
def cea1920x1080p60 : ℕ := 8
def cea1280x720p25 : ℕ := 10
def cea1920x1080p25 : ℕ := 12

structure VideoConfig where
  width : ℕ := 0
  height : ℕ := 0
  frameRate : ℕ := 0
  interlaced : Bool := false
  deriving DecidableEq, Repr

def typeCea : ℕ := 0
def typeVesa : ℕ := 1
def typeHh : ℕ := 2

def ceaTable : List VideoConfig :=
  [⟨640, 480, 60, false⟩, ⟨720, 480, 60, false⟩, ⟨720, 480, 60, true⟩, ⟨720, 576, 50, false⟩,
    ⟨720, 576, 50, true⟩, ⟨1280, 720, 30, false⟩, ⟨1280, 720, 60, false⟩, ⟨1920, 1080, 30, false⟩,
    ⟨1920, 1080, 60, false⟩, ⟨1920, 1080, 60, true⟩, ⟨1280, 720, 25, false⟩, ⟨1280, 720, 50, false⟩,
    ⟨1920, 1080, 25, false⟩, ⟨1920, 1080, 50, false⟩, ⟨1920, 1080, 50, true⟩, ⟨1280, 720, 24, false⟩,
    ⟨1920, 1080, 24, false⟩, ⟨3840, 2160, 24, false⟩, ⟨3840, 2160, 25, false⟩, ⟨3840, 2160, 30, false⟩,
    ⟨3840, 2160, 50, false⟩, ⟨3840, 2160, 60, false⟩, ⟨4096, 2160, 24, false⟩, ⟨4096, 2160, 25, false⟩,
    ⟨4096, 2160, 30, false⟩, ⟨4096, 2160, 50, false⟩, ⟨4096, 2160, 60, false⟩]

def vesaTable : List VideoConfig :=
  [⟨800, 600, 30, false⟩, ⟨800, 600, 60, false⟩, ⟨1024, 768, 30, false⟩, ⟨1024, 768, 60, false⟩,
    ⟨1152, 864, 30, false⟩, ⟨1152, 864, 60, false⟩, ⟨1280, 768, 30, false⟩, ⟨1280, 768, 60, false⟩,
    ⟨1280, 800, 30, false⟩, ⟨1280, 800, 60, false⟩, ⟨1360, 768, 30, false⟩, ⟨1360, 768, 60, false⟩,
    ⟨1366, 768, 30, false⟩, ⟨1366, 768, 60, false⟩, ⟨1280, 1024, 30, false⟩, ⟨1280, 1024, 60, false⟩,
    ⟨1440, 1050, 30, false⟩, ⟨1440, 1050, 60, false⟩, ⟨1440, 900, 30, false⟩, ⟨1440, 900, 60, false⟩,
    ⟨1600, 900, 30, false⟩, ⟨1600, 900, 60, false⟩, ⟨1600, 1200, 30, false⟩, ⟨1600, 1200, 60, false⟩,
    ⟨1680, 1024, 30, false⟩, ⟨1680, 1024, 60, false⟩, ⟨1680, 1050, 30, false⟩, ⟨1680, 1050, 60, false⟩,
    ⟨1920, 1200, 30, false⟩, ⟨1920, 1200, 60, false⟩, ⟨2560, 1440, 30, false⟩, ⟨2560, 1440, 60, false⟩,
    ⟨2560, 1600, 30, false⟩, ⟨2560, 1600, 60, false⟩]

def hhTable : List VideoConfig :=
  [⟨800, 480, 30, false⟩, ⟨800, 480, 60, false⟩, ⟨854, 480, 30, false⟩, ⟨854, 480, 60, false⟩,
    ⟨864, 480, 30, false⟩, ⟨864, 480, 60, false⟩, ⟨640, 360, 30, false⟩, ⟨640, 360, 60, false⟩,
    ⟨960, 540, 30, false⟩, ⟨960, 540, 60, false⟩, ⟨848, 480, 30, false⟩, ⟨848, 480, 60, false⟩]

def videoResolutionTableLength : ℕ := 34

/-- The rows of the table are filled up with zeros. -/
def videoResolution (type index : ℕ) : VideoConfig :=
  let row := if type = typeCea then ceaTable else if type = typeVesa then vesaTable else hhTable
  row.getD index {}

/-- What the codec list of the system answers; without one there is no list. -/
structure VideoCodecs where
  listed : Bool
  isSizeAndRateSupported : ℕ → ℕ → ℕ → Bool

namespace VideoCodecs

variable (codecs : VideoCodecs)

def isVideoResolutionSupport (index : ℕ) : Bool :=
  if index ≥ videoResolutionTableLength then false
  else
    let config := videoResolution typeCea index
    if config.width = 0 then false
    else codecs.isSizeAndRateSupported config.width config.height config.frameRate

/-- The mask of one resolution: that of the format, unless the system has a list
without it. -/
def getVideoFormatResolution (format : VideoFormat) : ℕ :=
  let ceaResolutionIndex := match format with
    | .video1920x1080_60 => cea1920x1080p60
    | .video1920x1080_30 => cea1920x1080p30
    | .video1920x1080_25 => cea1920x1080p25
    | .video1280x720_60 => cea1280x720p60
    | .video1280x720_30 => cea1280x720p30
    | .video1280x720_25 => cea1280x720p25
    | _ => cea640x480p60
  if codecs.listed then
    1 <<< if codecs.isVideoResolutionSupport ceaResolutionIndex then ceaResolutionIndex
      else cea640x480p60
  else 1 <<< ceaResolutionIndex

def getSupportVideoResolution (maxIndex : ℕ) : ℕ :=
  if codecs.listed then
    (List.range maxIndex).foldl (fun mask i =>
      if codecs.isVideoResolutionSupport i then mask ||| 1 <<< i else mask) 0
  else 1 <<< cea640x480p60

end VideoCodecs

end WifiDisplay
