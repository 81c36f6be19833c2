import WifiDisplay.EventLog
import WifiDisplay.RtspSession
import WifiDisplay.SinkCapabilities

/-! The source of a wireless display: the handshake M1 to M7 on the RTSP
connection, from both ends of its state machine. -/

namespace WifiDisplay

def rtspStatusOk : Int := 200
def rtspSessionTimeout : Int := 30
def maxRtspTimeoutCounts : Nat := 3
def wfdParamIdrRequest : Text := "wfd_idr_request".toList

inductive WfdSessionState where
  | m0 | m1 | m2 | m3 | m4 | m5 | m6 | m6Sent | m6Done | m7 | m7Wait | m7Sent | m7Done | m8
  deriving DecidableEq, Repr

inductive ProsumerState where
  | init | start | pause | resume | stop
  deriving DecidableEq, Repr

/-- What a run of the source leaves behind: the requests it handled with the state
each met, the steps of the handshake, and what it tells the agent. -/
inductive SourceEvent where
  | request (method : Text) (state : WfdSessionState)
  | m1Accepted
  | m2Answered
  | m3Accepted
  | m4Accepted
  | m5Sent
  | m6Answered
  | m6Unsent
  | played
  | enteredM7
  | prosumerCreate
  | prosumerPause
  | prosumerDestroy
  | teardown
  | serviceError
  deriving DecidableEq, Repr

/-- How one call of `Send` ends, and the date of the moment. -/
structure Sending where
  ok : Bool := true
  date : Text := []

/-- The members of the source next to the ones that take the bytes. `network` holds
the outcomes of the sends to come; behind its end they succeed. -/
structure SourceApp where
  cseq : BitVec 16 := 0
  wfdState : WfdSessionState := .m0
  rtspTimeoutCounts : Nat := maxRtspTimeoutCounts
  prosumerState : ProsumerState := .init
  sink : SinkValues := {}
  sourceRtpPort : BitVec 16 := 0
  sourceIp : Text := []
  sessionId : Text := []
  rtspServer : Bool := false
  network : List Sending := []
  sent : List Text := []
  log : List SourceEvent := []

namespace SourceApp

variable (a : SourceApp)

def note (e : SourceEvent) : SourceApp := { a with log := a.log ++ [e] }

def enter (state : WfdSessionState) : SourceApp := { a with wfdState := state }

def send (text : Text → Text) : Bool × SourceApp :=
  let sending := a.network.headD {}
  (sending.ok, { a with
    network := a.network.tail
    sent := if sending.ok then a.sent ++ [text sending.date] else a.sent })

/-- A request with the next CSeq; the state moves on when it is sent. -/
def sendRequest (request : Int → Text) (state : WfdSessionState) : Bool × SourceApp :=
  if ¬ a.rtspServer then (false, a)
  else
    let a := { a with cseq := a.cseq + 1 }
    let (ret, a) := a.send fun _ => request a.cseq.toNat
    if ret then (true, a.enter state) else (false, a)

def sendM1Request : Bool × SourceApp :=
  a.sendRequest (fun cseq => (wfdRtspM1Request cseq).stringify) .m1

def sendM3Request : Bool × SourceApp :=
  a.sendRequest (fun cseq => (wfdRtspM3Request cseq wfdRtspUrlDefault).stringify) .m3

def sendM4Request : Bool × SourceApp :=
  a.sendRequest (fun cseq => (wfdRtspM4Request cseq a.sourceIp a.sink).stringify) .m4

def sendM5Request : Bool × SourceApp :=
  let (ret, a) := a.sendRequest (fun cseq => (wfdRtspM5Request cseq "SETUP".toList).stringify) .m5
  (ret, if ret then a.note .m5Sent else a)

def sendM2Response (cseq : Int) : Bool × SourceApp :=
  if ¬ a.rtspServer then (false, a)
  else
    let (ret, a) := a.send (wfdRtspM2Response cseq rtspStatusOk).stringify
    if ret then (true, (a.enter .m2).note .m2Answered) else (false, a)

/-- The state moves on also when the answer is not sent. -/
def sendM6Response (cseq : Int) : Bool × SourceApp :=
  if ¬ a.rtspServer then (false, a)
  else
    let m6Response := { WfdRtspM6Response.create cseq rtspStatusOk a.sessionId rtspSessionTimeout with
      clientPort := a.sink.sinkRtpPort.toNat, serverPort := a.sourceRtpPort.toNat }
    let (ret, a) := a.send m6Response.stringifyEx
    (ret, (a.enter .m7Wait).note (if ret then .m6Answered else .m6Unsent))

def sendM7Response (cseq : Int) : Bool × SourceApp :=
  if ¬ a.rtspServer then (false, a)
  else
    let m7Response : WfdRtspM7Response :=
      { cSeq := cseq, status := rtspStatusOk, session := a.sessionId, timeout := rtspSessionTimeout }
    let (ret, a) := a.send m7Response.stringifyEx
    (ret, (a.enter .m7).note .enteredM7)

def sendCommonResponse (cseq : Int) : Bool × SourceApp :=
  if ¬ a.rtspServer then (false, a)
  else
    let response : RtspResponseObject := { cSeq := cseq, status := rtspStatusOk, session := a.sessionId }
    a.send response.stringify

def sendM16Request : SourceApp :=
  if a.rtspTimeoutCounts = 0 then a.note .serviceError
  else if ¬ a.rtspServer then a
  else
    let a := { a with cseq := a.cseq + 1 }
    let (_, a) := a.send fun _ =>
      (wfdRtspM16Request a.cseq.toNat wfdRtspUrlDefault a.sessionId).stringify
    { a with rtspTimeoutCounts := a.rtspTimeoutCounts - 1 }

def handleOptionRequest (cseq : Int) : SourceApp :=
  let (ret, a) := a.sendM2Response cseq
  if ret then a.sendM3Request.2 else a

def handleSetupRequest (cseq : Int) : SourceApp := (a.sendM6Response cseq).2

def handlePlayRequest (cseq : Int) : SourceApp :=
  let prosumerState : ProsumerState := if a.prosumerState = .pause then .resume else .start
  let a := { a with prosumerState }
  ((a.note .played).sendM7Response cseq).2

def handlePauseRequest (cseq : Int) : SourceApp :=
  (({ a with prosumerState := .start }.note .prosumerPause).sendCommonResponse cseq).2

def handleTeardownRequest (cseq : Int) : SourceApp :=
  ({ a.note .prosumerDestroy with prosumerState := .stop }.sendCommonResponse cseq).2

def handleIDRRequest (request : RtspRequest) (cseq : Int) : SourceApp :=
  if request.session = a.sessionId ∧ wfdParamIdrRequest ∈ request.body then
    (a.sendCommonResponse cseq).2
  else a

def handleRequest (request : RtspRequest) : SourceApp :=
  let a := a.note (.request request.method a.wfdState)
  let incomingCSeq := request.cSeq
  if request.method = "OPTIONS".toList then a.handleOptionRequest incomingCSeq
  else if request.method = "SETUP".toList then a.handleSetupRequest incomingCSeq
  else if request.method = "PLAY".toList then a.handlePlayRequest incomingCSeq
  else if request.method = "PAUSE".toList then a.handlePauseRequest incomingCSeq
  else if request.method = "TEARDOWN".toList then a.handleTeardownRequest incomingCSeq
  else if request.method = "SET_PARAMETER".toList then a.handleIDRRequest request incomingCSeq
  else a

def supportsMethods (publics : Text) : Bool :=
  publics ≠ [] && [rtspMethodWfd, "SET_PARAMETER".toList, "GET_PARAMETER".toList].all
    fun method => (TextSplit.breakOn method publics).isSome

def handleM1Response (response : RtspResponse) : SourceApp :=
  if response.status ≠ rtspStatusOk then a
  else if supportsMethods ((response.tokens.find? rtspTokenPublic).getD []) then a.note .m1Accepted
  else a

/-- The answer to M3 that has the parsed lines of a response. -/
def m3Response (response : RtspResponse) : WfdRtspM3Response :=
  { toRtspResponse := response, params := RtspCommon.splitParameter response.body }

def handleM3Response (response : RtspResponse) : Except Fault SourceApp :=
  if response.status ≠ rtspStatusOk then pure a
  else do
    let sink ← (m3Response response).sinkValues
    pure ({ a.note .m3Accepted with sink }.sendM4Request).2

def handleM4Response (response : RtspResponse) : SourceApp :=
  if response.status ≠ rtspStatusOk then a
  else
    let (ret, a) := (a.note .m4Accepted).sendM5Request
    if ret then a.note .prosumerCreate else a

def handleM7Response (response : RtspResponse) : SourceApp :=
  if response.status ≠ rtspStatusOk then a.enter .m6 else (a.enter .m7).note .enteredM7

def handleM8Response (response : RtspResponse) : SourceApp :=
  if response.status ≠ rtspStatusOk then a else a.note .teardown

def handleResponse (response : RtspResponse) : Except Fault SourceApp :=
  if response.cSeq ≠ a.cseq.toNat then pure a
  else
    let a := if WfdSessionState.m7.ctorIdx ≤ a.wfdState.ctorIdx
      then { a with rtspTimeoutCounts := maxRtspTimeoutCounts } else a
    match a.wfdState with
    | .m1 => pure (a.handleM1Response response)
    | .m3 => a.handleM3Response response
    | .m4 => pure (a.handleM4Response response)
    | .m7Wait => pure (a.handleM7Response response)
    | .m8 => pure (a.handleM8Response response)
    -- the answer to M5 is checked, and nothing follows from it
    | _ => pure a

end SourceApp

/-- A fault ends the run. The handlers of M3 to M5 parse the text of the response again, which
gives `response` once more. -/
def sourceHandlers : SourceHandlers (Except Fault SourceApp) where
  onResponse app response _ := app >>= (·.handleResponse response)
  onRequest app request := app.map (·.handleRequest request)
  onResponse_congr _ _ _ _ _ _ := rfl

abbrev SourceSession := WfdSourceSession (Except Fault SourceApp)

/-- What happens to a source: it is told its address and ports, its server starts or
stops, a connection is accepted, bytes arrive, the timer that keeps the connection
alive fires. -/
inductive SourceInput where
  | sessionInit (ip : Text) (localPort : BitVec 16) (videoFormat : VideoFormat)
  | start (created : Bool)
  | stop
  | accept (fd : Int) (localIp : Text) (started : Bool)
  | read (fd : Int) (text : Text)
  | keepAlive

namespace SourceSession

variable (s : SourceSession)

def update (f : SourceApp → SourceApp) : SourceSession := { s with app := s.app.map f }

def onAccept (fd : Int) (localIp : Text) (started : Bool) : SourceSession :=
  match s.app with
  | .ok a =>
    if a.wfdState ≠ .m0 then s
    else
      let a := { a with sourceIp := localIp }
      { s with rtspServerFd := fd, app := .ok (if started then a.sendM1Request.2 else a) }
  | .error _ => s

def step : SourceInput → SourceSession
  | .sessionInit ip localPort videoFormat => s.update fun a => { a with
      sourceIp := ip, sourceRtpPort := localPort, sink := { a.sink with videoFormat } }
  | .start created => s.update fun a => { a with rtspServer := a.rtspServer || created }
  | .stop => s.update fun a => { a with rtspServer := false }
  | .accept fd localIp started => s.onAccept fd localIp started
  | .read fd text => s.onServerReadData sourceHandlers fd text
  | .keepAlive => s.update fun a => a.sendM16Request

def run (inputs : List SourceInput) : SourceSession := inputs.foldl step s

end SourceSession

end WifiDisplay
