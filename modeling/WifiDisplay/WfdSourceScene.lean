import WifiDisplay.Agent
import WifiDisplay.WfdSinkScene

/-! `WfdSourceScene`: the device that is cast to, and the agents that are made for it. -/

namespace WifiDisplay

inductive P2pState where
  | none
  | idle
  | starting
  | started
  | closing
  | closed
  deriving DecidableEq, Repr

/-- What `OnP2pConnectionChanged` learns of the group and of its owner. -/
structure GroupOwner where
  ip : Text := []
  mac : Text
  deviceName : Text := []
  primaryDeviceType : Text := []
  secondaryDeviceType : Text := []
  ctrlPort : Int := 7236
  deriving DecidableEq, Repr

def GroupOwner.connectionInfo (owner : GroupOwner) : ConnectionInfo where
  ip := owner.ip
  mac := owner.mac
  deviceName := owner.deviceName
  primaryDeviceType := owner.primaryDeviceType
  secondaryDeviceType := owner.secondaryDeviceType
  ctrlPort := owner.ctrlPort
  state := .connected

/-- How a request for an agent ends: with the agent, with none in the context that the message
then holds, or with no answer in time, where the agent may still be made. -/
inductive AgentAnswer where
  | created (contextId agentId : Nat)
  | refused (contextId : Nat)
  | timedOut (late : Option (Nat × Nat))
  deriving DecidableEq, Repr

/-- The context and the id of the agent that is made. -/
def AgentAnswer.made : AgentAnswer → Option (Nat × Nat)
  | created contextId agentId => some (contextId, agentId)
  | refused _ => none
  | timedOut late => late

def AgentAnswer.inTime : AgentAnswer → Bool
  | timedOut _ => false
  | _ => true

/-- `Interaction::CreateAgent`: what it leaves in its two references. -/
def createAgent (contextId agentId : Nat) : AgentAnswer → Nat × Nat
  | .created contextId' agentId' =>
    (contextId', if agentId = agentId' ∨ agentId' = invalidId then invalidId else agentId')
  | .refused contextId' => (contextId', invalidId)
  | .timedOut _ => (contextId, agentId)

/-- The answers for the two agents, and the port from `GetAvailableUdpPortPair`. -/
structure CastAnswers where
  sink : AgentAnswer
  port : Nat
  source : AgentAnswer
  deriving DecidableEq, Repr

inductive SourceSceneError where
  | badParameter
  | generalError
  | networkError
  | stateException
  deriving DecidableEq, Repr

/-- What the scene asks of its adapters and of the P2P service. -/
inductive SourceAction where
  | createAgent (agentType : AgentType) (contextId agentId : Nat) (answer : AgentAnswer)
  | initCapture (contextId agentId : Nat) (screenId : BitVec 64)
  | initCast (contextId agentId sinkAgentId : Nat) (ip mac : Text) (remotePort : Int)
      (localPort : Nat)
  | start (contextId agentId : Nat)
  | teardown (contextId agentId : Nat)
  | destroyAgent (contextId agentId : Nat)
  | connectionChanged (connectionInfo : ConnectionInfo)
  | error (code : SourceSceneError) (message : String)
  | p2pConnect (deviceId : Text)
  | enableP2p
  | discoverDevices
  | removeGroup
  deriving DecidableEq, Repr

/-- The flags of the first three fields say that the pointers can be locked, or are set. -/
structure WfdSourceScene where
  sharingAdapter : Bool := true
  ipcAdapter : Bool := true
  p2pInstance : Bool := true
  isSourceRunning : Bool := false
  agentId : Nat := invalidId
  contextId : Nat := invalidId
  screenId : BitVec 64 := 0
  connDev : Option ConnectionInfo := none
  deriving DecidableEq, Repr

structure SourceResult (ρ : Type) where
  scene : WfdSourceScene
  actions : List SourceAction := []
  reply : ρ

namespace WfdSourceScene

variable (s : WfdSourceScene)

def isConnected (mac : Text) : Bool := s.connDev.any fun dev => dev.mac = mac

def ipc (action : SourceAction) : List SourceAction := if s.ipcAdapter then [action] else []

def p2p (action : SourceAction) : List SourceAction := if s.p2pInstance then [action] else []

def onInnerError (code : SourceSceneError) (message : String) : List SourceAction :=
  s.ipc (.error code message)

def createScreenCapture (answer : AgentAnswer) : SourceResult Bool :=
  if !s.sharingAdapter then ⟨s, [], true⟩
  else
    let ids := createAgent s.contextId s.agentId answer
    let s' := { s with contextId := ids.1, agentId := ids.2 }
    let create := .createAgent .sink s.contextId s.agentId answer
    if ids.1 = invalidId ∨ ids.2 = invalidId then ⟨s', [create], false⟩
    else ⟨s', [create, .initCapture ids.1 ids.2 s.screenId, .start ids.1 ids.2], true⟩

def appendCast (deviceId : Text) (port : Nat) (answer : AgentAnswer) : SourceResult Bool :=
  if !s.sharingAdapter then ⟨s, [], false⟩
  else match s.connDev with
  | none => ⟨s, s.onInnerError .badParameter "AppendCast can't find the dev", false⟩
  | some dev =>
    if dev.mac ≠ deviceId then
      ⟨s, s.onInnerError .badParameter "AppendCast can't find the dev", false⟩
    else if port = 0 then ⟨s, [], false⟩
    else
      let ids := createAgent s.contextId s.agentId answer
      let create := .createAgent .src s.contextId s.agentId answer
      if ids.1 = invalidId ∨ ids.2 = invalidId then ⟨s, [create], false⟩
      else
        let dev := { dev with contextId := ids.1, agentId := ids.2 }
        if dev.isRunning then ⟨{ s with connDev := some dev }, [create], true⟩
        else
          ⟨{ s with connDev := some { dev with isRunning := true } },
            [create, .initCast ids.1 ids.2 s.agentId dev.ip dev.mac dev.ctrlPort port,
              .start ids.1 ids.2], true⟩

/-- What `OnConnectionChanged` does for a device that is `CONNECTED`, behind its report. -/
def startCast (mac : Text) (answers : CastAnswers) : SourceResult Unit :=
  let capture := s.createScreenCapture answers.sink
  if capture.reply then
    let cast := capture.scene.appendCast mac answers.port answers.source
    ⟨cast.scene, capture.actions ++ cast.actions ++
      if cast.reply then [] else s.onInnerError .generalError "wfd connection timeout", ()⟩
  else
    ⟨capture.scene, capture.actions ++ s.onInnerError .generalError "wfd connection timeout", ()⟩

def onConnectionChanged (connectionInfo : ConnectionInfo) (answers : CastAnswers) :
    SourceResult Unit :=
  if !s.ipcAdapter then ⟨s, [], ()⟩
  else if connectionInfo.state = .connected then
    let cast := s.startCast connectionInfo.mac answers
    ⟨cast.scene, .connectionChanged connectionInfo :: cast.actions, ()⟩
  else ⟨s, [.connectionChanged connectionInfo], ()⟩

def onP2pPeerConnected (connectionInfo : ConnectionInfo) (answers : CastAnswers) :
    SourceResult Unit :=
  if !s.isSourceRunning then ⟨s, [], ()⟩
  else if !s.sharingAdapter then s.onConnectionChanged connectionInfo answers
  else if s.isConnected connectionInfo.mac then ⟨s, [], ()⟩
  else
    { s with connDev := some connectionInfo }.onConnectionChanged connectionInfo answers

def onP2pConnectionChanged (connected : Bool) (owner : GroupOwner) (answers : CastAnswers) :
    SourceResult Unit :=
  if !s.p2pInstance ∨ !connected ∨ owner.ip = [] then ⟨s, [], ()⟩
  else s.onP2pPeerConnected owner.connectionInfo answers

def onP2pPeerDisconnected (mac : Text) : SourceResult Unit :=
  match s.connDev with
  | none => ⟨s, [], ()⟩
  | some dev =>
    if dev.mac ≠ mac then ⟨s, [], ()⟩
    else
      let s' := { s with connDev := none }
      let changed := s.ipc (.connectionChanged { dev with state := .disconnected })
      if s.contextId = invalidId ∨ s.agentId = invalidId then ⟨s', changed, ()⟩
      else
        ⟨s', changed ++
          (if s.sharingAdapter then [.destroyAgent s.contextId s.agentId] else []) ++
          s.p2p .removeGroup, ()⟩

/-- `OnP2pThisDeviceChanged`; `disconnected` is the state of the link that it asks for. -/
def onP2pThisDeviceChanged (disconnected : Bool) : SourceResult Unit :=
  if !s.p2pInstance ∨ !disconnected then ⟨s, [], ()⟩
  else match s.connDev with
  | none => ⟨s, [], ()⟩
  | some dev => s.onP2pPeerDisconnected dev.mac

def handleRemoveDevice (deviceId : Text) : SourceResult SceneReply :=
  if !s.sharingAdapter then ⟨s, [], .value (-1)⟩
  else match s.connDev with
  | none => ⟨s, [], .value (-1)⟩
  | some dev =>
    if dev.mac ≠ deviceId ∨ dev.state ≠ .connected then ⟨s, [], .value (-1)⟩
    else
      ⟨{ s with connDev := none },
        [.teardown dev.contextId dev.agentId, .destroyAgent s.contextId s.agentId] ++
          s.p2p .removeGroup, .ofCall⟩

def handleDestroyScreenCapture : SourceResult SceneReply :=
  ⟨s, if s.sharingAdapter then [.destroyAgent s.contextId s.agentId] else [], .value 0⟩

def wfdP2pStop : SourceResult Unit :=
  let teardown := match s.connDev with
    | some dev =>
      if dev.contextId ≠ invalidId ∧ dev.agentId ≠ invalidId then
        [.teardown dev.contextId dev.agentId]
      else []
    | none => []
  let destroy :=
    if s.contextId ≠ invalidId ∧ s.agentId ≠ invalidId then
      [.destroyAgent s.contextId s.agentId]
    else []
  ⟨s, (if s.sharingAdapter then teardown ++ destroy else []) ++ s.p2p .removeGroup, ()⟩

def wfdP2pStart : List SourceAction := s.p2p .removeGroup ++ s.p2p .discoverDevices

def onP2pStateChanged (state : P2pState) : SourceResult Unit :=
  if !s.isSourceRunning then ⟨s, [], ()⟩
  else match state with
  | .started => ⟨s, s.wfdP2pStart, ()⟩
  | .closed =>
    let stopped := { s with isSourceRunning := false }.wfdP2pStop
    ⟨stopped.scene, stopped.actions ++
      s.onInnerError .networkError "NETWORK ERROR, P2P MODULE STOPPED", ()⟩
  | _ => ⟨s, [], ()⟩

/-- `status` is what `GetP2pEnableStatus` finds. -/
def handleStartDiscovery (status : P2pState) : SourceResult SceneReply :=
  if !s.p2pInstance then ⟨s, [], .value (-1)⟩
  else if s.isSourceRunning then ⟨s, [.discoverDevices], .ofCall⟩
  else match status with
  | .none | .idle | .starting | .closing =>
    ⟨s, s.onInnerError .stateException "HandleStart current p2p state: CLOSING", .value (-1)⟩
  | .started =>
    ⟨{ s with isSourceRunning := true }, s.wfdP2pStart ++ [.discoverDevices], .ofCall⟩
  | .closed => ⟨{ s with isSourceRunning := true }, [.enableP2p, .discoverDevices], .ofCall⟩

/-- `displayIds` is what `GetAllDisplayIds` finds. -/
def handleAddDevice (deviceId : Text) (screenId : BitVec 64) (displayIds : List (BitVec 64)) :
    SourceResult SceneReply :=
  if !s.isSourceRunning ∨ !s.p2pInstance then ⟨s, [], .value (-1)⟩
  else if screenId ∈ displayIds then
    ⟨{ s with screenId := screenId }, [.p2pConnect deviceId], .ofCall⟩
  else ⟨s, [], .value SharingErrorCode.badParameter.value⟩

def onInnerDestroy (contextId agentId : Nat) : SourceResult Unit :=
  match s.connDev with
  | none => ⟨s, [], ()⟩
  | some dev =>
    if contextId = dev.contextId ∧ (agentId = dev.agentId ∨ agentId = s.agentId) then
      let dev := { dev with state := .disconnected }
      ⟨{ s with connDev := some dev }, s.ipc (.connectionChanged dev), ()⟩
    else ⟨s, [], ()⟩

/-- `EVENT_WFD_NOTIFY_RTSP_PLAYED`. -/
def onRtspPlayed (mac : Text) : SourceResult Unit :=
  match s.connDev with
  | none => ⟨s, [], ()⟩
  | some dev =>
    if dev.mac ≠ mac then ⟨s, [], ()⟩
    else
      let dev := { dev with state := .playing }
      ⟨{ s with connDev := some dev }, s.ipc (.connectionChanged dev), ()⟩

end WfdSourceScene

/-- A callback, a request or a notification that the scene handles. -/
inductive SourceCall where
  | startDiscovery (status : P2pState)
  | addDevice (deviceId : Text) (screenId : BitVec 64) (displayIds : List (BitVec 64))
  | removeDevice (deviceId : Text)
  | destroyScreenCapture
  | p2pStateChanged (state : P2pState)
  | p2pConnectionChanged (connected : Bool) (owner : GroupOwner) (answers : CastAnswers)
  | p2pThisDeviceChanged (disconnected : Bool)
  | rtspPlayed (mac : Text)
  | rtspTeardown (mac : Text)
  | agentDestroyed (contextId agentId : Nat)
  deriving DecidableEq, Repr

/-- An agent that was made for the scene; `mac` is the device that a source was told to cast
to, and `asked` says that its destruction was asked for. -/
structure SceneAgent where
  agentType : AgentType
  contextId : Nat
  agentId : Nat
  sinkAgentId : Nat
  mac : Option Text := none
  asked : Bool := false
  deriving DecidableEq, Repr

namespace SceneAgent

def hasIds (contextId agentId : Nat) (a : SceneAgent) : Bool :=
  a.contextId = contextId && a.agentId = agentId

/-- `EVENT_CONTEXT_AGENT_DESTROY`: a sink with sources waits until all sources of its context,
which are asked first, are gone. -/
def destroy (contextId agentId : Nat) (agents : List SceneAgent) : List SceneAgent :=
  let isSource (a : SceneAgent) : Bool := a.agentType = .src && a.contextId = contextId
  let sources := agents.any (fun a => a.hasIds contextId agentId && a.agentType = .sink) &&
    agents.any fun a => isSource a && a.sinkAgentId = agentId
  agents.map fun a =>
    { a with asked := a.asked || a.hasIds contextId agentId || (sources && isSource a) }

end SceneAgent

/-- A scene with the agents made for it that are not gone, the agents that `DestroyAgent` was
called for, and the last identifier that was given to an agent. -/
structure SourceHistory where
  scene : WfdSourceScene := {}
  agents : List SceneAgent := []
  destroyed : List Nat := []
  key : Nat := 0
  deriving DecidableEq, Repr

namespace SourceHistory

def perform (h : SourceHistory) : SourceAction → SourceHistory
  | .createAgent agentType _ sinkAgentId answer =>
    match answer.made with
    | none => h
    | some (contextId, agentId) =>
      { h with agents := h.agents ++ [{ agentType, contextId, agentId, sinkAgentId }]
               key := agentId }
  | .initCast contextId agentId _ _ mac _ _ =>
    { h with agents := h.agents.map fun a =>
        if a.hasIds contextId agentId then { a with mac := some mac } else a }
  | .destroyAgent contextId agentId =>
    { h with agents := SceneAgent.destroy contextId agentId h.agents
             destroyed := h.destroyed ++ [agentId] }
  | _ => h

def after {ρ : Type} (h : SourceHistory) (result : SourceResult ρ) : SourceHistory :=
  result.actions.foldl perform { h with scene := result.scene }

def step (h : SourceHistory) : SourceCall → SourceHistory
  | .startDiscovery status => h.after (h.scene.handleStartDiscovery status)
  | .addDevice deviceId screenId displayIds =>
    h.after (h.scene.handleAddDevice deviceId screenId displayIds)
  | .removeDevice deviceId => h.after (h.scene.handleRemoveDevice deviceId)
  | .destroyScreenCapture => h.after h.scene.handleDestroyScreenCapture
  | .p2pStateChanged state => h.after (h.scene.onP2pStateChanged state)
  | .p2pConnectionChanged connected owner answers =>
    h.after (h.scene.onP2pConnectionChanged connected owner answers)
  | .p2pThisDeviceChanged disconnected => h.after (h.scene.onP2pThisDeviceChanged disconnected)
  | .rtspPlayed mac => h.after (h.scene.onRtspPlayed mac)
  | .rtspTeardown mac => h.after (h.scene.onP2pPeerDisconnected mac)
  | .agentDestroyed contextId agentId =>
    { h with agents := h.agents.filter fun a => !a.hasIds contextId agentId }.after
      (h.scene.onInnerDestroy contextId agentId)

end SourceHistory

end WifiDisplay
