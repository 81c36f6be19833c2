import WifiDisplay.Basic
import WifiDisplay.InputStream
import WifiDisplay.RtspMessages
import WifiDisplay.WfdVideoFormats

/-! The WFD messages M1 to M16: what they print, what they read. -/

namespace WifiDisplay

open InputStream

def rtspMethodWfd : Text := "org.wfa.wfd1.0".toList
def wfdRtspUrlDefault : Text := "rtsp://localhost/wfd1.0".toList
def wfdParamTrigger : Text := "wfd_trigger_method".toList
def wfdParamAudioCodecs : Text := "wfd_audio_codecs".toList
def wfdParamRtpPorts : Text := "wfd_client_rtp_ports".toList
def wfdParamVideoFormats : Text := "wfd_video_formats".toList
def wfdParamVideoFormats2 : Text := "wfd2_video_formats".toList
def wfdParamPresentationUrl : Text := "wfd_presentation_URL".toList
def wfdParamContentProtection : Text := "wfd_content_protection".toList

def minimalVideoFormatSize : Nat := 54

namespace RtspCommon

/-- A parameter line; without a colon the whole line is the name and the value. -/
def splitLine (line : Text) : Option (Text × Text) :=
  if line.length > 3 then
    let index := line.idxOf ':'
    if index = line.length then some (trim line, trim line)
    else if index ≠ 0 ∧ index + 1 ≠ line.length then
      some (trim (line.take index), trim (line.drop (index + 1)))
    else none
  else none

def splitParameter (lines : List Text) : Tokens := lines.filterMap splitLine

end RtspCommon

inductive CodecId where
  | none
  | default
  | h264
  | aac
  | pcm
  deriving DecidableEq, Repr

structure WfdVideoFormatsInfo where
  native : Nat := 0
  preferredDisplayMode : Nat := 0
  profile : Nat := 0
  level : Nat := 0
  ceaMask : Nat := 0
  veaMask : Nat := 0
  hhMask : Nat := 0
  latency : Nat := 0
  minSlice : Nat := 0
  sliceEncParam : Nat := 0
  frameRateCtlSupport : Nat := 0
  deriving DecidableEq, Repr

/-- Successive numbers from a stream into targets that are zero. -/
def numbers : List NumberFormat → InputStream → List Nat × InputStream
  | [], s => ([], s)
  | f :: fs, s =>
    let (v, s) := number f s 0
    let (vs, s) := numbers fs s
    (v.toNat :: vs, s)

/-- `failed` tells that a stream could not read a number or a word. No code looks
at it. -/
structure WfdRtspM3Response extends RtspResponseObject where
  params : Tokens := []
  vWfdVideoFormatsInfo : List WfdVideoFormatsInfo := []
  failed : Bool := false
  deriving DecidableEq, Repr

namespace WfdRtspM3Response

variable (r : WfdRtspM3Response)

/-- The value of `wfd_video_formats` with one native byte and one CEA mask. -/
def videoFormatsText (native h264Profile h264Level ceaResolution : Nat) : Text :=
  hexPadded 2 native ++ " 00 ".toList ++ hexPadded 2 h264Profile ++ ' ' :: hexPadded 2 h264Level ++
    ' ' :: hexPadded 8 ceaResolution ++ ' ' :: hexPadded 8 0 ++ ' ' :: hexPadded 8 0 ++
    " 00 0000 0000 00 none none".toList

def setParam (key value : Text) : WfdRtspM3Response := { r with params := r.params ++ [(key, value)] }

/-- The mask is shifted where the native byte wants the number of its bit. -/
def setVideoFormats (codecs : VideoCodecs) (format : VideoFormat) : WfdRtspM3Response :=
  let ceaResolutionIndex := match format with
    | .none => codecs.getSupportVideoResolution 17
    | format => codecs.getVideoFormatResolution format
  let native := match format with
    | .none => 0
    | _ => (ceaResolutionIndex <<< 3) % 2 ^ 8
  let ceaResolutionIndex :=
    if ceaResolutionIndex = 0 then 1 <<< cea640x480p60 else ceaResolutionIndex
  r.setParam wfdParamVideoFormats (videoFormatsText native (1 <<< 1) (1 <<< 4) ceaResolutionIndex)

def stringify (date : Text) : Text :=
  r.stringifyBody (field rtspTokenContentType "text/parameters".toList ++ rtspCrlf)
    (r.params.map fun p => field p.1 p.2) date

def parse (response : Text) : WfdRtspM3Response × RtspError :=
  let (parsed, res) := r.toRtspResponseObject.parse response
  if res.code ≠ .ok then ({ r with toRtspResponseObject := parsed }, res)
  else
    ({ r with
        toRtspResponseObject := parsed
        params := r.params ++ RtspCommon.splitParameter parsed.body }, {})

def getCustomParam (key : Text) : Text := (r.params.find? key).getD []

def getClientRtpPorts : Int × WfdRtspM3Response :=
  let s : InputStream := { rest := r.getCustomParam wfdParamRtpPorts }
  let (_, s) := s.word "RTP/AVP/UDP;unicast".toList
  let (port0, s) := number signed32 s (-1)
  let (_, s) := number signed32 s (-1)
  let (_, s) := s.word "mode=play".toList
  (port0, { r with failed := r.failed || s.failed })

/-- What the loop over the audio items keeps. -/
structure AudioScan where
  format : Text := []
  audioFormat0 : Int := -1
  audioFormat1 : Int := -1
  isSupportAac : Bool := false
  isSupportPcm : Bool := false
  failed : Bool := false

def AudioScan.item (a : AudioScan) (audioCap : Text) : AudioScan :=
  let s : InputStream := { rest := audioCap }
  let (format, s) := s.word a.format
  let (audioFormat0, s) := number signed32 s a.audioFormat0
  let (audioFormat1, s) := number signed32 s a.audioFormat1
  let a := { a with format, audioFormat0, audioFormat1, failed := a.failed || s.failed }
  if format = "LPCM".toList ∧ audioFormat0 > 1 then { a with isSupportPcm := true }
  else if format = "AAC".toList then { a with isSupportAac := true }
  else a

def getAudioCodecs : CodecId × WfdRtspM3Response :=
  let audioCaps := RtspCommon.split (r.getCustomParam wfdParamAudioCodecs) ", ".toList
  let a := audioCaps.foldl AudioScan.item {}
  (if a.isSupportPcm && !a.isSupportAac then .pcm else .aac,
    { r with failed := r.failed || a.failed })

def getVideoFormatsByCea (index : Nat) : VideoFormat :=
  if index = cea640x480p60 then .video640x480_60
  else if index = cea1280x720p30 then .video1280x720_30
  else if index = cea1280x720p60 then .video1280x720_60
  else if index = cea1920x1080p25 then .video1920x1080_25
  else if index = cea1920x1080p30 then .video1920x1080_30
  else if index = cea1920x1080p60 then .video1920x1080_60
  else .video640x480_60

/-- The texts the loop takes for the codecs: up to each comma from the start of the
value, then all behind the letter after the last comma. Texts are shorter than
`2 ^ 31`, and each comma lies behind the one before. -/
def codecTexts (value : Text) : Nat → Nat → Except Fault (List Text)
  | 0, _ => .ok []
  | n + 1, index =>
    match (value.drop (index + 1)).idxOf? ',' with
    | some i => do
      let texts ← codecTexts value n (index + 1 + i)
      pure (value.take (index + 1 + i) :: texts)
    | none => if index + 1 > value.length then .error .outOfBounds else .ok [value.drop (index + 1)]

def codecFormats : List NumberFormat := [hex16, hex16, hex32, hex32, hex32, hex16, hex16, hex16, hex16]

def readCodec (native preferredDisplayMode : Nat) (temp : Text) : WfdVideoFormatsInfo × Bool :=
  let (v, s) := numbers codecFormats { rest := temp }
  ({ native, preferredDisplayMode
     profile := v.getD 0 0, level := v.getD 1 0, ceaMask := v.getD 2 0, veaMask := v.getD 3 0
     hhMask := v.getD 4 0, latency := v.getD 5 0, minSlice := v.getD 6 0
     sliceEncParam := v.getD 7 0, frameRateCtlSupport := v.getD 8 0 }, s.failed)

def getVideoFormats : Except Fault (VideoFormat × WfdRtspM3Response) :=
  let value := r.getCustomParam wfdParamVideoFormats
  if value.length < minimalVideoFormatSize then .ok (.video640x480_60, r)
  else do
    let (head, s) := numbers [hex16, hex16] { rest := value.take 5 }
    let value := value.drop 5
    let texts ← codecTexts value (value.length + 1) 0
    let infos := texts.map (readCodec (head.getD 0 0) (head.getD 1 0))
    let r := { r with
      vWfdVideoFormatsInfo := r.vWfdVideoFormatsInfo ++ infos.map Prod.fst
      failed := r.failed || s.failed || infos.any Prod.snd }
    match r.vWfdVideoFormatsInfo with
    | [] => .error .emptyContainer
    | first :: _ =>
      if first.native &&& 7 = 0 then .ok (getVideoFormatsByCea (first.native >>> 3), r)
      else .ok (.video640x480_60, r)

def getWfdVideoFormatsInfo : Except Fault WfdVideoFormatsInfo :=
  match r.vWfdVideoFormatsInfo with
  | [] => .error .emptyContainer
  | first :: _ => .ok first

end WfdRtspM3Response

/-- What a C string sees of a text. -/
def cStr (s : Text) : Text := s.takeWhile (·.toNat ≠ 0)

structure WfdRtspM4Request extends RtspRequestParameter where
  params : Tokens := []

structure VideoTrack where
  width : Nat := 0
  height : Nat := 0
  frameRate : Nat := 0
  codecId : CodecId := .none
  deriving DecidableEq, Repr

/-- The pieces between the runs of white space. -/
def splitBlanks : Nat → Text → List Text
  | 0, s => [s]
  | n + 1, s =>
    let rest := s.dropWhile (!isBlank ·)
    s.takeWhile (!isBlank ·) ::
      if rest.dropWhile isBlank = [] then [] else splitBlanks n (rest.dropWhile isBlank)

/-- `strtol` with base 16: the value, whether it fits a `long`, and the rest of the
text, which is all of it without digits. -/
def strtolHex (s : Text) : Int × Bool × Text :=
  let (negative, t) := sign (s.dropWhile isBlank)
  let u := afterPrefix 16 t
  let t := if u.takeWhile (isDigit 16) = [] then t else u
  let digits := t.takeWhile (isDigit 16)
  if digits = [] then (0, true, s)
  else
    let v : Int := if negative then -(magnitude 16 digits : Int) else magnitude 16 digits
    (max (-2 ^ 63) (min v (2 ^ 63 - 1)), -2 ^ 63 ≤ v ∧ v ≤ 2 ^ 63 - 1, t.dropWhile (isDigit 16))

namespace WfdRtspM4Request

variable (r : WfdRtspM4Request)

def create (cSeq : Int) (url : Text) : WfdRtspM4Request :=
  { method := "SET_PARAMETER".toList, cSeq, url }

def addItem (line : Text) : WfdRtspM4Request :=
  { r with toRtspRequestParameter := r.toRtspRequestParameter.addBodyItem line }

def setClientRtpPorts (port : Int) : WfdRtspM4Request :=
  r.addItem (field wfdParamRtpPorts
    ("RTP/AVP/UDP;unicast ".toList ++ decimal port ++ " 0 mode=play".toList))

def setAudioCodecs (codecId : CodecId) : WfdRtspM4Request :=
  r.addItem (field wfdParamAudioCodecs
    (if codecId = .pcm then "LPCM 00000002 00".toList else "AAC 00000001 00".toList))

def setPresentationUrl (ip : Text) : WfdRtspM4Request :=
  r.addItem (field wfdParamPresentationUrl
    ("rtsp://".toList ++ cStr ip ++ "/wfd1.0/streamid=0 none".toList))

/-- The number of the resolution that the source asks for. -/
def chosenResolution (format : VideoFormat) : Nat :=
  match format with
  | .video1920x1080_60 => cea1920x1080p30
  | .video1920x1080_30 => cea1920x1080p30
  | .video1920x1080_25 => cea1920x1080p25
  | .video1280x720_30 => cea1280x720p30
  | .video1280x720_25 => cea1280x720p25
  | _ => cea640x480p60

def setVideoFormats (info : WfdVideoFormatsInfo) (format : VideoFormat) : WfdRtspM4Request :=
  r.addItem (field wfdParamVideoFormats
    (WfdRtspM3Response.videoFormatsText (chosenResolution format <<< 3) info.profile info.level
      (1 <<< chosenResolution format)))

def parse (request : Text) : WfdRtspM4Request × RtspError :=
  let (parsed, res) := r.toRtspRequestObject.parse request
  if res.code ≠ .ok then ({ r with toRtspRequestObject := parsed }, res)
  else
    ({ r with
        toRtspRequestObject := parsed
        params := r.params ++ RtspCommon.splitParameter parsed.body }, {})

def getParameterValue (param : Text) : Text := (r.params.find? param).getD []

/-- For a power of two the quotient of the logarithms is the number of its bit. -/
def getVideoResolution (videoTrack : VideoTrack) (resolutionStr : Text) (type : Nat) : VideoTrack :=
  let result := ((strtolHex resolutionStr).1 % 2 ^ 32).toNat
  if result = 0 then videoTrack
  else
    let config := videoResolution type (Nat.log2 result)
    { videoTrack with
      codecId := .h264, width := config.width, height := config.height
      frameRate := config.frameRate }

def getVideoTrack (videoTrack : VideoTrack) : VideoTrack :=
  let param2 := r.getParameterValue wfdParamVideoFormats2
  let param := if param2 = [] then r.getParameterValue wfdParamVideoFormats else param2
  if param = [] then videoTrack
  else
    let videoFormats := splitBlanks param.length param
    if videoFormats.length ≤ 6 then videoTrack
    else
      let native := cStr (videoFormats.headD [])
      let (nativeValue, inRange, rest) := strtolHex native
      if ¬ inRange ∨ rest = native ∨ rest ≠ [] then videoTrack
      else
        let type := (nativeValue % 8).toNat
        if type = typeCea then getVideoResolution videoTrack (videoFormats.getD 4 []) type
        else if type = typeVesa then getVideoResolution videoTrack (videoFormats.getD 5 []) type
        else if type = typeHh then getVideoResolution videoTrack (videoFormats.getD 6 []) type
        else videoTrack

end WfdRtspM4Request

def wfdRtspM1Request (cSeq : Int) : RtspRequestOptions :=
  { method := "OPTIONS".toList, cSeq, url := ['*'], require := rtspMethodWfd }

def wfdRtspM2Response (cSeq status : Int) : RtspResponseOptions :=
  { cSeq, status
    publicItems := rtspMethodWfd ++
      ", SETUP, TEARDOWN, PLAY, PAUSE, GET_PARAMETER, SET_PARAMETER".toList }

def wfdRtspM1Response (cSeq status : Int) : RtspResponseOptions :=
  { cSeq, status, publicItems := rtspMethodWfd ++ ", SET_PARAMETER, GET_PARAMETER".toList }

def wfdRtspM3Request (cSeq : Int) (url : Text) : RtspRequestParameter :=
  { method := "GET_PARAMETER".toList, cSeq, url
    body := [wfdParamContentProtection, wfdParamVideoFormats, wfdParamAudioCodecs, wfdParamRtpPorts] }

def wfdRtspM5Request (cSeq : Int) (method : Text) : RtspRequestParameter :=
  { method := "SET_PARAMETER".toList, cSeq, url := wfdRtspUrlDefault
    body := [field wfdParamTrigger method] }

def wfdRtspM16Request (cSeq : Int) (url sessionId : Text) : RtspRequestParameter :=
  { method := "GET_PARAMETER".toList, cSeq, url, session := sessionId }

/-- A response text with one more line in front of its empty line. -/
def stringifyEx (message line : Text) : Text :=
  message.take (message.length - rtspCrlf.length) ++ line ++ rtspCrlf ++ rtspCrlf

structure WfdRtspM6Response extends RtspResponseObject where
  clientPort : Int := 0
  serverPort : Int := 0

namespace WfdRtspM6Response

def create (cSeq status : Int) (sessionId : Text) (timeout : Int) : WfdRtspM6Response :=
  { cSeq, status, session := sessionId, timeout }

def stringifyEx (r : WfdRtspM6Response) (date : Text) : Text :=
  WifiDisplay.stringifyEx (r.stringify date)
    ("Transport: RTP/AVP/UDP;unicast;client_port=".toList ++ decimal r.clientPort ++
      ";server_port=".toList ++ decimal r.serverPort)

end WfdRtspM6Response

/-- The number in the first item of the transport with the given key. -/
def transportPort (r : RtspResponseObject) (key : Text) : Int :=
  let transport := r.getToken rtspTokenTransport
  if transport = [] then 0
  else
    match (RtspCommon.split transport [';']).find? fun item => (TextSplit.breakOn key item).isSome with
    | some item => atoi (item.drop (item.idxOf '=' + 1))
    | none => 0

def RtspResponseObject.getClientPort (r : RtspResponseObject) : Int :=
  transportPort r "client_port=".toList

def RtspResponseObject.getServerPort (r : RtspResponseObject) : Int :=
  transportPort r "server_port=".toList

structure WfdRtspM7Response extends RtspResponseObject

def WfdRtspM7Response.stringifyEx (r : WfdRtspM7Response) (date : Text) : Text :=
  WifiDisplay.stringifyEx (r.stringify date) "Range: npt=now-".toList

end WifiDisplay
