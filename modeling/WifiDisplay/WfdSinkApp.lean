import Mathlib.Logic.Function.Basic
import WifiDisplay.EventLog
import WifiDisplay.RtspSession
import WifiDisplay.WfdSourceSession

/-! The sink of a wireless display: what its session sends, and what it does with the
messages of the source. -/

namespace WifiDisplay

def wfdKeepAliveTimeoutMin : Int := 10
def wfdKeepAliveTimeoutDefault : Int := 60

inductive WfdSinkState where
  | init | ready | playing | stopping
  deriving DecidableEq, Repr

inductive SessionRunningStatus where
  | start | stop | pause | destroy | resume | interrupt
  deriving DecidableEq, Repr

inductive SessionErrorCode where
  | connectionFailure | interactionFailure | networkError | protocolInteractionTimeout
  | sessionStart | intakeTimeout
  deriving DecidableEq, Repr

/-- The requests of a sink. The answer to a request for a key frame goes to
`HandleCommonResponse`. -/
inductive SinkRequest where
  | m2 | m6 | m7 | m8 | idr
  deriving DecidableEq, Repr

/-- The events that `NotifyAgentPrivateEvent` is called with. -/
inductive PrivateEvent where
  | rtspPlayed | rtspTeardown | isPcSource
  deriving DecidableEq, Repr

/-- What else a session tells its agent. -/
inductive SinkNotice where
  | error (code : SessionErrorCode)
  | prosumerCreate
  | mediaInit
  | started | stopped | paused | resumed | destroyed | interrupted
  deriving DecidableEq, Repr

/-- What a run of the session leaves behind. -/
inductive SinkEvent where
  | m1Answered
  | m3Answered
  | m4Accepted (url : Text)
  | m5Received
  | sent (request : SinkRequest) (cseq : Int) (url : Text)
  | answered (request : SinkRequest) (cseq status : Int)
  | entered (state : WfdSinkState)
  | privateEvent (type : PrivateEvent)
  | notified (notice : SinkNotice)
  deriving DecidableEq, Repr

/-- An ideal one-shot timer, and the seconds that it waits for. -/
structure TimeoutTimer where
  armed : Option Int := none
  deriving DecidableEq, Repr

inductive TimeoutCallback where
  | interaction | network
  deriving DecidableEq, Repr

/-- The members of the sink next to the ones that take the bytes. `network` holds the
outcomes of the sends to come, `unanswered` the requests that were sent and whose
answer was not read yet. -/
structure SinkApp where
  cseq : Int := 0
  wfdState : WfdSinkState := .init
  status : SessionRunningStatus := .start
  rtspUrl : Text := []
  rtspSession : Text := []
  keepAliveTimeout : Int := 0
  connected : Bool := false
  isFirstCast : Bool := true
  isFirstCreateProsumer : Bool := true
  isPcSource : Bool := false
  localRtpPort : BitVec 16 := 0
  capabilities : Tokens := []
  rtspClient : Bool := false
  timeoutTimer : Option TimeoutTimer := none
  timeoutCallback : TimeoutCallback := .interaction
  keepAliveTimer : Option TimeoutTimer := none
  responseHandlers : Int → Option SinkRequest := fun _ => none
  network : List Sending := []
  sent : List Text := []
  log : List SinkEvent := []
  unanswered : List (Int × SinkRequest) := []

/-- `++cseq_`, around at the last value of the type. -/
def nextCSeq (cseq : Int) : Int := if cseq = 2 ^ 31 - 1 then -2 ^ 31 else cseq + 1

def wfdRtspM2Request (cSeq : Int) : RtspRequestOptions := wfdRtspM1Request cSeq

def wfdRtspM6Request (cSeq : Int) (url : Text) (clientPort : BitVec 16) : RtspRequestObject :=
  { method := "SETUP".toList, cSeq, url
    customHeaders := field rtspTokenTransport
      ("RTP/AVP;unicast;client_port=".toList ++ decimal clientPort.toNat) ++ rtspCrlf }

def wfdRtspM7Request (cSeq : Int) (url session : Text) : RtspRequestObject :=
  { method := "PLAY".toList, cSeq, url, session }

def wfdRtspM8Request (cSeq : Int) (url session : Text) : RtspRequestObject :=
  { method := "TEARDOWN".toList, cSeq, url, session }

def wfdRtspIDRRequest (cSeq : Int) (url session : Text) : RtspRequestParameter :=
  { method := "SET_PARAMETER".toList, cSeq, url, session, body := [wfdParamIdrRequest] }

/-- The first word of the URLs. -/
def WfdRtspM4Request.getPresentationUrl (r : WfdRtspM4Request) : Text :=
  let urls := r.getParameterValue wfdParamPresentationUrl
  if urls = [] then [] else (RtspCommon.split urls [' ']).headD []

namespace SinkApp

variable (a : SinkApp)

def note (e : SinkEvent) : SinkApp := { a with log := a.log ++ [e] }

def notify (notice : SinkNotice) : SinkApp := a.note (.notified notice)

def notifyAgentPrivateEvent (type : PrivateEvent) : SinkApp := a.note (.privateEvent type)

def notifyServiceError (code : SessionErrorCode) : SinkApp := a.notify (.error code)

def enter (state : WfdSinkState) : SinkApp := { a with wfdState := state }.note (.entered state)

def stopTimer : SinkApp := { a with timeoutTimer := a.timeoutTimer.map fun _ => ⟨none⟩ }

def startTimer (seconds : Int) : SinkApp :=
  { a with timeoutTimer := a.timeoutTimer.map fun _ => ⟨some seconds⟩ }

def send (text : Text → Text) : Bool × SinkApp :=
  let sending := a.network.headD {}
  (sending.ok, { a with
    network := a.network.tail
    sent := if sending.ok then a.sent ++ [text sending.date] else a.sent })

/-- The next CSeq with the handler of its response. -/
def register (request : SinkRequest) : SinkApp :=
  let cseq := nextCSeq a.cseq
  { a with cseq, responseHandlers := Function.update a.responseHandlers cseq (some request) }

def unregister : SinkApp :=
  { a with responseHandlers := Function.update a.responseHandlers a.cseq none }

/-- Sends the request that has been registered last. -/
def sendRegistered (request : SinkRequest) (url text : Text) : Bool × SinkApp :=
  let (ret, a) := a.send fun _ => text
  (ret, if ret then
    { a with unanswered := a.unanswered ++ [(a.cseq, request)] }.note (.sent request a.cseq url)
  else a)

/-- M2, M6 and M7: five seconds for the answer. -/
def sendRequest (request : SinkRequest) (url : Text) (text : Int → Text) : Bool × SinkApp :=
  if ¬ a.rtspClient then (false, a)
  else
    let a := (a.register request).startTimer 5
    let (ret, a) := a.sendRegistered request url (text a.cseq)
    if ret then (true, a) else (false, a.unregister.stopTimer.notifyServiceError .interactionFailure)

def sendM2Request : Bool × SinkApp :=
  a.sendRequest .m2 ['*'] fun cseq => (wfdRtspM2Request cseq).stringify

def sendM6Request : Bool × SinkApp :=
  let (ret, a) := a.sendRequest .m6 a.rtspUrl fun cseq =>
    (wfdRtspM6Request cseq a.rtspUrl a.localRtpPort).stringify
  (ret, if ret then a.enter .ready else a)

def sendM7Request : Bool × SinkApp :=
  a.sendRequest .m7 a.rtspUrl fun cseq => (wfdRtspM7Request cseq a.rtspUrl a.rtspSession).stringify

/-- Stopping also when the request is not sent. -/
def sendM8Request : Bool × SinkApp :=
  if a.wfdState = .stopping then (true, a)
  else if ¬ a.rtspClient ∨ ¬ a.connected then (false, a)
  else
    let a := a.register .m8
    let (ret, a) := a.sendRegistered .m8 a.rtspUrl
      (wfdRtspM8Request a.cseq a.rtspUrl a.rtspSession).stringify
    (ret, (if ret then a else a.unregister).enter .stopping)

/-- What a failed send leaves is not taken back here. -/
def sendIDRRequest : Bool × SinkApp :=
  if a.wfdState ≠ .playing then (false, a)
  else if ¬ a.rtspClient then (false, a)
  else
    let a := (a.register .idr).startTimer 6
    a.sendRegistered .idr a.rtspUrl (wfdRtspIDRRequest a.cseq a.rtspUrl a.rtspSession).stringify

/-- The next CSeq of the sink follows the one of the source. -/
def sendM1Response (cseq : Int) : Bool × SinkApp :=
  if ¬ a.rtspClient then (false, a)
  else
    let (ret, a) := a.send (wfdRtspM1Response cseq rtspStatusOk).stringify
    (ret, { if ret then a.note .m1Answered else a with cseq })

/-- The answer to M3: of the parameters asked for, those that the sink has. -/
def m3Response (cseq : Int) (params : List Text) : WfdRtspM3Response :=
  { cSeq := cseq, status := rtspStatusOk
    params := params.filterMap fun param => (a.capabilities.find? param).map fun value => (param, value) }

def sendM3Response (cseq : Int) (params : List Text) : Bool × SinkApp :=
  if ¬ a.rtspClient ∨ params = [] then (false, a)
  else
    let m3Response := a.m3Response cseq params
    let (ret, a) := (a.startTimer 6).send m3Response.stringify
    if ret then (true, a.note .m3Answered)
    else (false, a.stopTimer.notifyServiceError .interactionFailure)

def sendCommonResponse (cseq : Int) : Bool × SinkApp :=
  if ¬ a.rtspClient then (false, a)
  else
    let response : RtspResponseObject := { cSeq := cseq, status := rtspStatusOk }
    a.send response.stringify

def answerM4Request (cseq : Int) : Bool × SinkApp :=
  let (ret, a) := a.sendCommonResponse cseq
  if ret then (true, { a with isFirstCast := false }.note (.m4Accepted a.rtspUrl))
  else (false, a.stopTimer.notifyServiceError .interactionFailure)

/-- The URL of the message is taken before it is answered. -/
def handleM4Request (message : Text) : Bool × SinkApp :=
  let m4Request := (WfdRtspM4Request.parse {} message).1
  let a := { a with rtspUrl := m4Request.getPresentationUrl }
  (if a.isFirstCast then a.startTimer 6 else a).answerM4Request m4Request.cSeq

def handleTriggerMethod (cseq : Int) (method : Text) : SinkApp :=
  if method = "SETUP".toList then
    let (ret, a) := (a.note .m5Received).stopTimer.sendCommonResponse cseq
    if ret then a.sendM6Request.2 else a.notifyServiceError .interactionFailure
  else if method = "TEARDOWN".toList then
    let (ret, a) := a.sendCommonResponse cseq
    if ret then a.sendM8Request.2 else a.notifyServiceError .interactionFailure
  else a

def handleSetParamRequest (request : RtspRequest) (message : Text) : SinkApp :=
  let paramMap := RtspCommon.splitParameter request.body
  if paramMap = [] then a
  else
    match paramMap.find? wfdParamTrigger with
    | some method => a.handleTriggerMethod request.cSeq method
    | none =>
      let (ret, a) := a.stopTimer.handleM4Request message
      if ret ∧ a.isFirstCreateProsumer then
        { a with isFirstCreateProsumer := false }.notify .prosumerCreate
      else a

def handleOptionsRequest (cseq : Int) : SinkApp :=
  let a := { a.stopTimer with isFirstCast := true, isFirstCreateProsumer := true }
  (a.sendM1Response cseq).2.sendM2Request.2

def handleGetParamRequest (cseq : Int) (params : List Text) : SinkApp :=
  if params ≠ [] then (a.stopTimer.sendM3Response cseq params).2
  else if a.keepAliveTimer = none then a
  else
    { (a.sendCommonResponse cseq).2 with keepAliveTimer := some ⟨some a.keepAliveTimeout⟩ }

def handleRequest (request : RtspRequest) (message : Text) : SinkApp :=
  if request.method = "OPTIONS".toList then a.handleOptionsRequest request.cSeq
  else if request.method = "GET_PARAMETER".toList then
    a.handleGetParamRequest request.cSeq request.body
  else if request.method = "SET_PARAMETER".toList then a.handleSetParamRequest request message
  else a

/-- The methods that the source has to have. -/
def sinkSupportsMethods (publics : Text) : Bool :=
  publics ≠ [] && [rtspMethodWfd, "SET_PARAMETER".toList, "GET_PARAMETER".toList, "SETUP".toList,
    "PLAY".toList, "TEARDOWN".toList].all fun method => (TextSplit.breakOn method publics).isSome

def handleM2Response (response : RtspResponse) : SinkApp :=
  let a := a.startTimer 6
  if response.status ≠ rtspStatusOk then a.notifyServiceError .interactionFailure
  else
    let publics := (response.tokens.find? rtspTokenPublic).getD []
    let a := if sinkSupportsMethods publics then a else a.notifyServiceError .interactionFailure
    if (TextSplit.breakOn "MSMiracastSource".toList response.server).isSome then
      { a with isPcSource := true }.notifyAgentPrivateEvent .isPcSource
    else a

def handleM6Response (response : RtspResponse) : SinkApp :=
  let a := a.stopTimer
  if response.status ≠ rtspStatusOk then a.notifyServiceError .interactionFailure
  else
    let keepAliveTimeout :=
      if response.timeout < wfdKeepAliveTimeoutMin then wfdKeepAliveTimeoutDefault
      else response.timeout
    { a with rtspSession := response.session, keepAliveTimeout }.sendM7Request.2

def handleM7Response (response : RtspResponse) : SinkApp :=
  let a := a.stopTimer
  if response.status ≠ rtspStatusOk then a.notifyServiceError .interactionFailure
  else
    { (a.notifyAgentPrivateEvent .rtspPlayed).enter .playing with
      timeoutCallback := if a.timeoutTimer.isSome then .network else a.timeoutCallback
      keepAliveTimer := some ⟨some a.keepAliveTimeout⟩ }

def handleM8Response (response : RtspResponse) : SinkApp :=
  if response.status ≠ rtspStatusOk then a.notifyServiceError .interactionFailure
  else a.notifyAgentPrivateEvent .rtspTeardown

def handleCommonResponse (response : RtspResponse) : SinkApp :=
  let a := a.stopTimer
  if response.status ≠ rtspStatusOk then a.notifyServiceError .interactionFailure else a

/-- The handler of a response, which is called before it is erased. -/
def handle (request : SinkRequest) (response : RtspResponse) : SinkApp :=
  match request with
  | .m2 => a.handleM2Response response
  | .m6 => a.handleM6Response response
  | .m7 => a.handleM7Response response
  | .m8 => a.handleM8Response response
  | .idr => a.handleCommonResponse response

def handleResponse (response : RtspResponse) : SinkApp :=
  match a.responseHandlers response.cSeq with
  | none => a
  | some request =>
    let a := { a with unanswered := a.unanswered.filter (·.1 ≠ response.cSeq) }
    let a := (a.note (.answered request response.cSeq response.status)).handle request response
    { a with responseHandlers := Function.update a.responseHandlers response.cSeq none }

end SinkApp

end WifiDisplay
