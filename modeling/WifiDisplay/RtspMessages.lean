import WifiDisplay.RtspNumbers
import WifiDisplay.TextSplit

/-! The texts of RTSP requests and responses: `Stringify` of the message classes. -/

namespace WifiDisplay

open TextSplit

def rtspTokenPublic : Text := "Public".toList
def rtspTokenContentBase : Text := "Content-Base".toList
def rtspTokenTransport : Text := "Transport".toList
def rtspTokenRequire : Text := "Require".toList

/-- A line of the header without its end. -/
def field (name value : Text) : Text := name ++ ':' :: rtspSp ++ value

/-- The lines of a body, as every class with a body prints them. -/
def bodyLines (body : List Text) : Text := ended rtspCrlf body

/-- The whole object of a request: `Stringify` also reads what `Parse` never
writes. -/
structure RtspRequestObject extends RtspRequest where
  timeout : Int := -1
  customHeaders : Text := []
  deriving DecidableEq, Repr

namespace RtspRequestObject

def addCustomHeader (r : RtspRequestObject) (header : Text) : RtspRequestObject :=
  { r with customHeaders := r.customHeaders ++ header }

def clearCustomHeader (r : RtspRequestObject) : RtspRequestObject := { r with customHeaders := [] }

def stringify (r : RtspRequestObject) : Text :=
  r.method ++ rtspSp ++ r.url ++ rtspSp ++ rtspVersionText ++ rtspCrlf ++
    (field rtspTokenCseq (decimal r.cSeq) ++ rtspCrlf) ++
    (field rtspTokenUa r.userAgent ++ rtspCrlf) ++
    (if r.session ≠ [] then
      field rtspTokenSession r.session ++
        (if r.timeout > 0 then ";timeout=".toList ++ decimal r.timeout else []) ++ rtspCrlf
    else []) ++
    r.customHeaders ++ rtspCrlf

def parse (r : RtspRequestObject) (request : Text) : RtspRequestObject × RtspError :=
  let (parsed, error) := r.toRtspRequest.parse request
  ({ r with toRtspRequest := parsed }, error)

end RtspRequestObject

structure RtspRequestOptions extends RtspRequestObject where
  require : Text := []

def RtspRequestOptions.stringify (r : RtspRequestOptions) : Text :=
  if r.require ≠ [] then
    (r.clearCustomHeader.addCustomHeader (field rtspTokenRequire r.require ++ rtspCrlf)).stringify
  else r.toRtspRequestObject.stringify

/-- Requests with a body. -/
structure RtspRequestParameter extends RtspRequestObject

namespace RtspRequestParameter

def addBodyItem (r : RtspRequestParameter) (line : Text) : RtspRequestParameter :=
  { r with body := r.body ++ [line] }

/-- With a body the custom header lines give way to those of the body. -/
def stringify (r : RtspRequestParameter) : Text :=
  let body := bodyLines r.body
  if body = [] then r.toRtspRequestObject.stringify
  else
    (r.clearCustomHeader.addCustomHeader
      (field rtspTokenContentType "text/parameters".toList ++ rtspCrlf ++
        (field rtspTokenContentLength (decimal body.length) ++ rtspCrlf))).stringify ++ body

end RtspRequestParameter

structure RtspResponseObject extends RtspResponse where
  customHeaders : Text := []
  deriving DecidableEq, Repr

def statusText (status : Int) : Text :=
  if status = 100 then "Continue".toList
  else if status = 400 then "Bad Request".toList
  else if status = 401 then "Unauthorized".toList
  else "OK".toList

namespace RtspResponseObject

def addCustomHeader (r : RtspResponseObject) (header : Text) : RtspResponseObject :=
  { r with customHeaders := r.customHeaders ++ header }

def clearCustomHeader (r : RtspResponseObject) : RtspResponseObject := { r with customHeaders := [] }

/-- `date` is what `GetRtspDate` returns at the call. -/
def stringify (r : RtspResponseObject) (date : Text) : Text :=
  rtspVersionText ++ rtspSp ++ decimal r.status ++ rtspSp ++ statusText r.status ++ rtspCrlf ++
    (field rtspTokenCseq (decimal r.cSeq) ++ rtspCrlf) ++
    (field rtspTokenDate date ++ rtspCrlf) ++
    (if r.customHeaders ≠ [] then r.customHeaders ++ rtspCrlf else []) ++
    (if r.session ≠ [] then
      field rtspTokenSession r.session ++
        (if r.timeout > 0 then ";timeout=".toList ++ decimal r.timeout else []) ++ rtspCrlf
    else []) ++ rtspCrlf

def parse (r : RtspResponseObject) (response : Text) : RtspResponseObject × RtspError :=
  let (parsed, error) := r.toRtspResponse.parse response
  ({ r with toRtspResponse := parsed }, error)

def getToken (r : RtspResponseObject) (token : Text) : Text := (r.tokens.find? token).getD []

end RtspResponseObject

structure RtspResponseOptions extends RtspResponseObject where
  publicItems : Text := []

def RtspResponseOptions.stringify (r : RtspResponseOptions) (date : Text) : Text :=
  (r.clearCustomHeader.addCustomHeader (field rtspTokenPublic r.publicItems)).stringify date

/-- The two classes whose text ends in the lines of a body differ in the lines
before the length and in the text of an empty body, which is the same either way. -/
def RtspResponseObject.stringifyBody (r : RtspResponseObject) (heading : Text) (body : List Text)
    (date : Text) : Text :=
  (r.clearCustomHeader.addCustomHeader
    (heading ++ field rtspTokenContentLength (decimal (bodyLines body).length))).stringify date ++
    bodyLines body

structure RtspResponseDescribe extends RtspResponseObject where
  url : Text := []

def RtspResponseDescribe.stringify (r : RtspResponseDescribe) (date : Text) : Text :=
  r.stringifyBody
    ((if r.url ≠ [] then field rtspTokenContentBase r.url ++ rtspCrlf else []) ++
      (field rtspTokenContentType "application/sdp".toList ++ rtspCrlf)) r.body date

/-- This class prints a list of lines of its own, not the one `Parse` fills. -/
structure RtspResponseGetParameter extends RtspResponseObject where
  ownBody : List Text := []

def RtspResponseGetParameter.stringify (r : RtspResponseGetParameter) (date : Text) : Text :=
  r.stringifyBody (field rtspTokenContentType "text/parameters".toList ++ rtspCrlf) r.ownBody date

structure RtspResponseSetup extends RtspResponseObject where
  minClientPort : Int := 0
  maxClientPort : Int := 0
  minServerPort : Int := 0
  maxServerPort : Int := 0
  source : Text := []
  destination : Text := []

namespace RtspResponseSetup

/-- The upper end goes to the server's range. -/
def setClientPort (r : RtspResponseSetup) (minClientPort maxClientPort : Int) : RtspResponseSetup :=
  let r := { r with minClientPort }
  if maxClientPort > minClientPort then { r with maxServerPort := maxClientPort } else r

def setServerPort (r : RtspResponseSetup) (minServerPort maxServerPort : Int) : RtspResponseSetup :=
  let r := { r with minServerPort }
  if maxServerPort > minServerPort then { r with maxServerPort } else r

/-- `minPort + 1` is computed in `int`. -/
def portRange (name : Text) (minPort maxPort : Int) : Text :=
  if minPort ≠ 0 then
    name ++ decimal minPort ++ '-' ::
      decimal (if maxPort > minPort then maxPort else int32 (minPort + 1)) ++ [';']
  else []

def transport (r : RtspResponseSetup) : Text :=
  "RTP/AVP;unicast;".toList ++
    (if r.destination ≠ [] then "destination=".toList ++ r.destination ++ [';'] else []) ++
    (if r.source ≠ [] then "source=".toList ++ r.source ++ [';'] else []) ++
    portRange "client_port=".toList r.minClientPort r.maxClientPort ++
    portRange "server_port=".toList r.minServerPort r.maxServerPort

/-- The custom header has a line end of its own. -/
def stringify (r : RtspResponseSetup) (date : Text) : Text :=
  (r.clearCustomHeader.addCustomHeader
    (field rtspTokenTransport r.transport ++ rtspCrlf)).stringify date

end RtspResponseSetup

end WifiDisplay
