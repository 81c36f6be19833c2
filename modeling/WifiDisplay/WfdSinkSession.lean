import WifiDisplay.GuardedRuns
import WifiDisplay.WfdSinkApp

/-! The session of the sink as a machine: the bytes of the connection, the orders of the
agent and the timers, and the actions that each of them comes down to. -/

namespace WifiDisplay

/-- An M4 is parsed again from its text; no other request is. -/
def readsText (request : RtspRequest) : Bool :=
  let paramMap := RtspCommon.splitParameter request.body
  request.method = "SET_PARAMETER".toList && paramMap ≠ [] && (paramMap.find? wfdParamTrigger).isNone

namespace SinkApp

theorem handleM4Request_congr (a : SinkApp) {message message' : Text}
    (h : RtspRequest.parse {} message = RtspRequest.parse {} message') :
    a.handleM4Request message = a.handleM4Request message' := by
  have hparse : RtspRequestObject.parse {} message = RtspRequestObject.parse {} message' := by
    rw [RtspRequestObject.parse, RtspRequestObject.parse, h]
  rw [handleM4Request, handleM4Request, WfdRtspM4Request.parse, WfdRtspM4Request.parse, hparse]

theorem handleRequest_congr (a : SinkApp) (r : RtspRequest) {message message' : Text}
    (h : RtspRequest.parse {} message = RtspRequest.parse {} message') :
    a.handleRequest r message = a.handleRequest r message' := by
  simp only [handleRequest, handleSetParamRequest, handleM4Request_congr _ h]

theorem handleRequest_textless (a : SinkApp) {r : RtspRequest} (h : readsText r = false)
    (message message' : Text) : a.handleRequest r message = a.handleRequest r message' := by
  rw [handleRequest, handleRequest]
  by_cases hset : r.method = "SET_PARAMETER".toList
  · simp only [readsText, hset, decide_true, Bool.true_and, Bool.and_eq_false_iff,
      decide_eq_false_iff_not, not_not] at h
    simp only [hset, handleSetParamRequest]
    rcases h with hnone | htrigger
    · simp only [hnone, if_true]
    · obtain ⟨method, hmethod⟩ : ∃ method,
          (RtspCommon.splitParameter r.body).find? wfdParamTrigger = some method :=
        Option.isSome_iff_exists.mp (by simpa using htrigger)
      simp only [hmethod]
  · simp only [if_neg hset]

end SinkApp

/-- No handler of a response looks at its text. -/
def sinkHandlers : RtspHandlers SinkApp where
  handles a cseq := (a.responseHandlers cseq).isSome
  onResponse a response _ := a.handleResponse response
  onRequest a request message := a.handleRequest request message
  readsText := readsText
  onResponse_congr _ _ _ _ _ _ := rfl
  onRequest_congr a r _ _ h := a.handleRequest_congr r h
  onRequest_textless a _ h message message' := a.handleRequest_textless h message message'

namespace RtspSession

variable {σ : Type} (H : RtspHandlers σ) (s : RtspSession σ)

def dispatch (a : σ) : Dispatched × Text → σ
  | (.request r, message) => H.onRequest a r message
  | (.response r, message) => H.onResponse a r message

/-- The message that a parse gives. -/
def parsed (result : RtspRequest × RtspError) (message : Text) : List (Dispatched × Text) :=
  if result.2.code = .ok then [(.request result.1, message)] else []

/-- The messages that a read dispatches, which its handlers have no part in, with their texts. -/
def messages (message : Text) : List (Dispatched × Text) :=
  let (response, ret) := RtspResponse.parse {} message
  if ret.code = .ok then
    if H.handles s.app response.cSeq then
      (.response response, message) ::
        if ret.info.length > 2 ∧ ret.info.getLast? = some '$' then
          let result := RtspRequest.parse {} ret.info.dropLast
          parsed result result.2.info
        else []
    else []
  else
    let (request, ret) := RtspRequest.parse {} message
    if ret.code = .ok then [(.request request, message)]
    else if ret.code = .incompleteMessage then []
    else parsed (request.parse (s.lastMessage ++ message)) (s.lastMessage ++ message)

theorem app_readSplicing (info : Text) :
    (s.readSplicing H info).app = (if info.length > 2 ∧ info.getLast? = some '$' then
      parsed (RtspRequest.parse {} info.dropLast) (RtspRequest.parse {} info.dropLast).2.info
      else []).foldl (dispatch H) s.app := by
  rw [readSplicing]
  split
  · simp only [parsed]
    split <;> rfl
  · rfl

theorem app_readData_eq (message : Text) :
    (s.readData H message).app = (s.messages H message).foldl (dispatch H) s.app := by
  rw [readData, messages]
  simp only
  split
  · split
    · rw [app_readSplicing]
      rfl
    · rfl
  · rw [readRequest]
    simp only
    split
    · rfl
    · split
      · rfl
      · simp only [parsed]
        split <;> rfl

end RtspSession

/-- How the connection to the source comes about: at once, later or not at all. -/
inductive ClientCreation where
  | created | reconnected | unreachable
  deriving DecidableEq, Repr

/-- What happens to a sink: its agent tells it to start, stop, pause and so on, gives it
its ports, asks for a key frame or a teardown; bytes arrive, the connection closes; a
timer runs out. -/
inductive SinkInput where
  | operation (status : SessionRunningStatus) (creation : ClientCreation)
  | sessionInit (localRtpPort : BitVec 16) (capabilities : Tokens)
  | prosumerInitState (ok : Bool)
  | prosumerCreated
  | prosumerResumed
  | requestIdr
  | teardown
  | writeWarning
  | read (message : Text)
  | close
  | timeout
  | keepAliveTimeout

/-- What one of them does to the members behind the connection. -/
inductive SinkAction where
  | request (request : RtspRequest) (message : Text)
  | response (response : RtspResponse)
  | idr
  | teardown
  | setStatus (status : SessionRunningStatus)
  | setPort (localRtpPort : BitVec 16) (capabilities : Tokens)
  | setConnected (connected : Bool)
  | setClient (rtspClient : Bool)
  | armTimer
  | expire
  | expireKeepAlive
  | notify (notice : SinkNotice)

namespace SinkApp

variable (a : SinkApp)

def armTimer : SinkApp :=
  { a with timeoutTimer := some ⟨some 6⟩, timeoutCallback := .interaction }

def act (a : SinkApp) : SinkAction → SinkApp
  | .request request message => a.handleRequest request message
  | .response response => a.handleResponse response
  | .idr => a.sendIDRRequest.2
  | .teardown => a.sendM8Request.2
  | .setStatus status => { a with status }
  | .setPort localRtpPort capabilities => { a with localRtpPort, capabilities }
  | .setConnected connected => { a with connected }
  | .setClient rtspClient => { a with rtspClient }
  | .armTimer => a.armTimer
  | .expire => a.stopTimer
  | .expireKeepAlive => { a with keepAliveTimer := some ⟨none⟩ }
  | .notify notice => a.notify notice

end SinkApp

abbrev SinkSession := WfdSinkSession SinkApp

namespace SinkSession

variable (s : SinkSession)

def act (action : SinkAction) : SinkSession := { s with app := s.app.act action }

def isInterrupted : Bool := s.interrupting && s.app.status = .interrupt

def notifyInterrupted : SinkSession := if s.isInterrupted then s.act (.notify .interrupted) else s

def startWfdSession (creation : ClientCreation) : Bool × SinkSession :=
  let s := s.act (.setClient true)
  if creation = .created then (true, s.act .armTimer)
  else if s.interrupting then (false, s.notifyInterrupted)
  else if creation = .unreachable then (false, s)
  else (true, s.act .armTimer)

def stopWfdSession : SinkSession := (s.act .teardown).act (.setConnected false)

/-- The end of `UpdateOperation`: an interrupted session tells of nothing but its end. -/
def notifyOperation (notice : SinkNotice) : SinkSession :=
  if s.interrupting ∧ s.app.status ≠ .stop ∧ s.app.status ≠ .destroy then s
  else s.act (.notify notice)

def updateOperation (status : SessionRunningStatus) (creation : ClientCreation) : SinkSession :=
  let s := s.act (.setStatus status)
  if s.isInterrupted then s.notifyInterrupted
  else
    match status with
    | .start =>
      let (ret, s) := s.startWfdSession creation
      if ret then s.act (.setConnected true) else s.notifyOperation (.error .connectionFailure)
    | .stop => s.stopWfdSession.notifyOperation .stopped
    | .pause => s.notifyOperation .paused
    | .resume => s.notifyOperation .resumed
    | .destroy => s.notifyOperation .destroyed
    | .interrupt => { s with interrupting := true }

/-- `HandleEvent` and `UpdateMediaStatus` around what they do. -/
def handleEvent (action : SinkAction) : SinkSession :=
  if s.isInterrupted then s.notifyInterrupted else (s.act action).notifyInterrupted

def onClientClose : SinkSession :=
  let s := s.act (.setClient false)
  if s.interrupting then s.notifyInterrupted
  else if s.app.wfdState ≠ .stopping then s.act (.notify (.error .networkError))
  else s

def onTimeout : SinkSession :=
  if ((s.app.timeoutTimer.bind (·.armed)).isNone) then s
  else
    let s := s.act .expire
    match s.app.timeoutCallback with
    | .interaction =>
      if s.interrupting then s.notifyInterrupted
      else s.act (.notify (.error .protocolInteractionTimeout))
    | .network => s.act (.notify (.error .networkError))

def onKeepAliveTimeout : SinkSession :=
  if ((s.app.keepAliveTimer.bind (·.armed)).isNone) then s
  else (s.act .expireKeepAlive).act (.notify (.error .networkError))

def step : SinkInput → SinkSession
  | .operation status creation => s.updateOperation status creation
  | .sessionInit localRtpPort capabilities => s.handleEvent (.setPort localRtpPort capabilities)
  | .prosumerInitState ok => s.handleEvent (.notify (if ok then .started else .error .sessionStart))
  | .prosumerCreated => s.handleEvent (.notify .mediaInit)
  | .prosumerResumed => s.handleEvent .idr
  | .requestIdr => s.handleEvent .idr
  | .teardown => s.handleEvent .teardown
  | .writeWarning => s.handleEvent (.notify (.error .intakeTimeout))
  | .read message =>
    if s.interrupting then s.notifyInterrupted
    else s.onClientReadData sinkHandlers message
  | .close => s.onClientClose
  | .timeout => s.onTimeout
  | .keepAliveTimeout => s.onKeepAliveTimeout

/-- What the end of an operation tells. -/
def operationEnd (status : SessionRunningStatus) (notice : SinkNotice) : List SinkAction :=
  if s.interrupting ∧ status ≠ .stop ∧ status ≠ .destroy then [] else [.notify notice]

def interruption : List SinkAction := if s.isInterrupted then [.notify .interrupted] else []

def eventActions (action : SinkAction) : List SinkAction :=
  if s.isInterrupted then [.notify .interrupted] else [action]

def operationActions (status : SessionRunningStatus) (creation : ClientCreation) : List SinkAction :=
  .setStatus status ::
    if s.interrupting ∧ status = .interrupt then [.notify .interrupted]
    else
      match status with
      | .start =>
        .setClient true ::
          if creation = .created ∨ ¬ s.interrupting ∧ creation = .reconnected then
            [.armTimer, .setConnected true]
          else s.operationEnd status (.error .connectionFailure)
      | .stop => [.teardown, .setConnected false, .notify .stopped]
      | .pause => s.operationEnd status .paused
      | .resume => s.operationEnd status .resumed
      | .destroy => s.operationEnd status .destroyed
      | .interrupt => []

def readActions (message : Text) : List SinkAction :=
  (s.messages sinkHandlers message).map fun
    | (.request request, text) => .request request text
    | (.response response, _) => .response response

/-- The actions that an input comes down to. -/
def actions : SinkInput → List SinkAction
  | .operation status creation => s.operationActions status creation
  | .sessionInit localRtpPort capabilities => s.eventActions (.setPort localRtpPort capabilities)
  | .prosumerInitState ok => s.eventActions (.notify (if ok then .started else .error .sessionStart))
  | .prosumerCreated => s.eventActions (.notify .mediaInit)
  | .prosumerResumed => s.eventActions .idr
  | .requestIdr => s.eventActions .idr
  | .teardown => s.eventActions .teardown
  | .writeWarning => s.eventActions (.notify (.error .intakeTimeout))
  | .read message => if s.interrupting then s.interruption else s.readActions message
  | .close =>
    .setClient false ::
      if s.interrupting then s.interruption
      else if s.app.wfdState ≠ .stopping then [.notify (.error .networkError)] else []
  | .timeout =>
    if (s.app.timeoutTimer.bind (·.armed)).isNone then []
    else
      .expire :: match s.app.timeoutCallback with
        | .interaction =>
          if s.interrupting then s.interruption else [.notify (.error .protocolInteractionTimeout)]
        | .network => [.notify (.error .networkError)]
  | .keepAliveTimeout =>
    if (s.app.keepAliveTimer.bind (·.armed)).isNone then []
    else [.expireKeepAlive, .notify (.error .networkError)]

theorem app_notifyInterrupted : s.notifyInterrupted.app = s.interruption.foldl SinkApp.act s.app := by
  rw [notifyInterrupted, interruption]
  split <;> rfl

theorem app_notifyOperation (notice : SinkNotice) : (s.notifyOperation notice).app =
    (s.operationEnd s.app.status notice).foldl SinkApp.act s.app := by
  rw [notifyOperation, operationEnd]
  split <;> rfl

theorem sendRegistered_status (a : SinkApp) (request : SinkRequest) (url text : Text) :
    (a.sendRegistered request url text).2.status = a.status := by
  rw [SinkApp.sendRegistered]
  simp only
  split <;> rfl

theorem sendM8Request_status (a : SinkApp) : a.sendM8Request.2.status = a.status := by
  rw [SinkApp.sendM8Request]
  split
  · rfl
  · split
    · rfl
    · simp only
      split <;> exact sendRegistered_status _ _ _ _

theorem sendIDRRequest_status (a : SinkApp) : a.sendIDRRequest.2.status = a.status := by
  rw [SinkApp.sendIDRRequest]
  split
  · rfl
  · split
    · rfl
    · exact sendRegistered_status _ _ _ _

theorem app_handleEvent {action : SinkAction} (hstatus : (s.app.act action).status = s.app.status) :
    (s.handleEvent action).app = (s.eventActions action).foldl SinkApp.act s.app := by
  rw [handleEvent, eventActions]
  split
  · rename_i hinterrupted
    rw [app_notifyInterrupted, interruption, if_pos hinterrupted]
  · rename_i hinterrupted
    have hsame : (s.act action).isInterrupted = s.isInterrupted := by
      rw [isInterrupted, isInterrupted]
      change (s.interrupting && decide ((s.app.act action).status = .interrupt)) = _
      rw [hstatus]
    rw [notifyInterrupted, hsame, if_neg hinterrupted]
    rfl

theorem app_operation (status : SessionRunningStatus) (creation : ClientCreation) :
    (s.updateOperation status creation).app =
      (s.operationActions status creation).foldl SinkApp.act s.app := by
  have hinterrupted : (s.act (.setStatus status)).isInterrupted =
      (s.interrupting && decide (status = .interrupt)) := rfl
  unfold updateOperation operationActions
  simp only [hinterrupted, Bool.and_eq_true, decide_eq_true_eq, List.foldl_cons]
  by_cases hend : s.interrupting = true ∧ status = .interrupt
  · rw [if_pos hend, if_pos hend, app_notifyInterrupted, interruption, hinterrupted,
      if_pos (by simpa using hend)]
    rfl
  · rw [if_neg hend, if_neg hend]
    cases status with
    | start =>
      simp only [startWfdSession]
      cases creation <;> cases hi : s.interrupting <;>
        simp [act, hi, notifyInterrupted, isInterrupted, notifyOperation, operationEnd, SinkApp.act]
    | stop =>
      have hstop : ((s.act (.setStatus .stop)).stopWfdSession).app.status = .stop :=
        sendM8Request_status _
      rw [app_notifyOperation, hstop, operationEnd, if_neg (by simp)]
      rfl
    | pause => exact app_notifyOperation _ _
    | resume => exact app_notifyOperation _ _
    | destroy => exact app_notifyOperation _ _
    | interrupt => rfl

theorem app_read (message : Text) :
    (s.onClientReadData sinkHandlers message).app =
      if s.interrupting then s.app else (s.readActions message).foldl SinkApp.act s.app := by
  rw [WfdSinkSession.onClientReadData]
  split
  · rfl
  · change (s.readData _ message).app = _
    rw [RtspSession.app_readData_eq, readActions, List.foldl_map]
    congr 1
    funext a d
    obtain ⟨d, text⟩ := d
    cases d <;> rfl

/-- A step of the session is the actions of its input, one after the other. -/
theorem app_step (input : SinkInput) :
    (s.step input).app = (s.actions input).foldl SinkApp.act s.app := by
  cases input with
  | operation status creation => exact s.app_operation status creation
  | sessionInit localRtpPort capabilities => exact s.app_handleEvent rfl
  | prosumerInitState ok => exact s.app_handleEvent rfl
  | prosumerCreated => exact s.app_handleEvent rfl
  | prosumerResumed => exact s.app_handleEvent (sendIDRRequest_status _)
  | requestIdr => exact s.app_handleEvent (sendIDRRequest_status _)
  | teardown => exact s.app_handleEvent (sendM8Request_status _)
  | writeWarning => exact s.app_handleEvent rfl
  | read message =>
    rw [step, actions]
    split
    · exact s.app_notifyInterrupted
    · rename_i hreads
      rw [app_read, if_neg hreads]
  | close =>
    rw [step, onClientClose, actions, List.foldl_cons]
    have hinterrupting : (s.act (.setClient false)).interrupting = s.interrupting := rfl
    have hstate : (s.act (.setClient false)).app.wfdState = s.app.wfdState := rfl
    rw [hinterrupting, hstate]
    by_cases hi : s.interrupting
    · rw [if_pos hi, if_pos hi]
      exact app_notifyInterrupted _
    · rw [if_neg hi, if_neg hi]
      split <;> rfl
  | timeout =>
    rw [step, onTimeout, actions]
    split
    · rfl
    · rw [List.foldl_cons]
      have hcallback : (s.act .expire).app.timeoutCallback = s.app.timeoutCallback := rfl
      have hinterrupting : (s.act .expire).interrupting = s.interrupting := rfl
      simp only [hcallback, hinterrupting]
      cases s.app.timeoutCallback with
      | interaction =>
        by_cases hi : s.interrupting
        · simp only [if_pos hi]
          exact app_notifyInterrupted _
        · simp only [if_neg hi]
          rfl
      | network => rfl
  | keepAliveTimeout =>
    rw [step, onKeepAliveTimeout, actions]
    split <;> rfl

end SinkSession

/-- The runs of a sink whose actions all meet a condition on the state before them. -/
abbrev SinkRun (ok : SinkApp → SinkAction → Prop) (init : SinkSession) (inputs : List SinkInput)
    (s : SinkSession) : Prop :=
  GuardedRun (fun s input => (.ok (SinkSession.step s input) : Except Fault SinkSession))
    (fun s input => AllMeet SinkApp.act ok s.app (SinkSession.actions s input)) init inputs s

/-- What the actions keep, the runs keep. -/
theorem SinkRun.invariant {ok : SinkApp → SinkAction → Prop} {I : SinkApp → Prop}
    (hact : ∀ a action, I a → ok a action → I (a.act action)) {init s : SinkSession}
    (hinit : I init.app) {inputs : List SinkInput} (run : SinkRun ok init inputs s) : I s.app := by
  refine GuardedRun.invariant (I := fun s => I s.app) hinit ?_ run
  intro t input t' hI hok hstep
  cases hstep
  rw [SinkSession.app_step]
  exact AllMeet.invariant hact hI hok

/-- A session that nothing has happened to. -/
def SinkSession.new (network : List Sending) : SinkSession := { app := { network } }

namespace SinkRun

def check (ok : SinkApp → SinkAction → Prop) [∀ a action, Decidable (ok a action)]
    (init : SinkSession) (inputs : List SinkInput) : Option SinkSession :=
  GuardedRun.check (fun s input => (.ok (SinkSession.step s input) : Except Fault SinkSession))
    (fun s input => AllMeet SinkApp.act ok s.app (SinkSession.actions s input)) init inputs

theorem of_check {ok : SinkApp → SinkAction → Prop} [∀ a action, Decidable (ok a action)]
    {init s : SinkSession} {inputs : List SinkInput} (h : check ok init inputs = some s) :
    SinkRun ok init inputs s := GuardedRun.of_check h

theorem exists_of_check (ok : SinkApp → SinkAction → Prop) [∀ a action, Decidable (ok a action)]
    (init : SinkSession) (inputs : List SinkInput) (p : SinkSession → Prop) [DecidablePred p]
    (h : (check ok init inputs).any fun s => decide (p s)) : ∃ s, SinkRun ok init inputs s ∧ p s := by
  obtain ⟨s, hs, hp⟩ := (Option.any_eq_true _ _).mp h
  exact ⟨s, of_check hs, of_decide_eq_true hp⟩

end SinkRun

/-! The messages of a source that goes through the handshake. -/

def sourceOptions : Text := "OPTIONS * RTSP/1.0\r\nCSeq: 1\r\n\r\n".toList

def optionsAnswer : Text :=
  ("RTSP/1.0 200 OK\r\nCSeq: 2\r\n" ++
    "Public: org.wfa.wfd1.0, SETUP, TEARDOWN, PLAY, GET_PARAMETER, SET_PARAMETER\r\n\r\n").toList

def sourceGetParameter : Text :=
  ("GET_PARAMETER * RTSP/1.0\r\nCSeq: 2\r\nContent-Type: text/parameters\r\n" ++
    "Content-Length: 22\r\n\r\nwfd_client_rtp_ports\r\n").toList

def sourceSetParameter : Text :=
  ("SET_PARAMETER * RTSP/1.0\r\nCSeq: 3\r\nContent-Type: text/parameters\r\n" ++
    "Content-Length: 40\r\n\r\nwfd_presentation_URL: rtsp://a/wfd none\r\n").toList

def setupTrigger : Text :=
  ("SET_PARAMETER * RTSP/1.0\r\nCSeq: 4\r\nContent-Type: text/parameters\r\n" ++
    "Content-Length: 27\r\n\r\nwfd_trigger_method: SETUP\r\n").toList

/-- An answer to the request with that CSeq. -/
def plainAnswer (cseq : String) : Text := ("RTSP/1.0 200 OK\r\nCSeq: " ++ cseq ++ "\r\n\r\n").toList

def sinkHandshake : List SinkInput :=
  [.operation .start .created, .read sourceOptions, .read optionsAnswer, .read sourceGetParameter,
    .read sourceSetParameter, .read setupTrigger, .read (plainAnswer "3"), .read (plainAnswer "4")]

end WifiDisplay
