import WifiDisplay.OrderedMap
import WifiDisplay.RtspCommon
import Mathlib.Data.List.AList

/-! `WfdSinkScene`: the connections and surfaces of a sink, and the handlers that change
them. A handler is its section under `mutex_` together with the calls it makes afterwards. -/

namespace WifiDisplay

inductive SceneType where
  | foreground
  | background
  deriving DecidableEq, Repr

inductive ConnectionState where
  | connected
  | disconnected
  | init
  | ready
  | playing
  deriving DecidableEq, Repr

inductive SharingErrorCode where
  | badParameter
  | serviceLimit
  | stateException
  | receivingLimit
  deriving DecidableEq, Repr

def SharingErrorCode.value : SharingErrorCode → Int
  | badParameter => 18800002
  | serviceLimit => 18800004
  | stateException => 18800005
  | receivingLimit => 18802101

def invalidId : Nat := 0

/-- `uint32_t` identifiers are kept as their values. -/
structure ConnectionInfo where
  isRunning : Bool := false
  ctrlPort : Int := 0
  agentId : Nat := invalidId
  contextId : Nat := invalidId
  surfaceId : BitVec 64 := 0
  ip : Text := []
  mac : Text := []
  deviceName : Text := []
  primaryDeviceType : Text := []
  secondaryDeviceType : Text := []
  state : ConnectionState
  deriving DecidableEq, Repr

structure DevSurfaceItem where
  deleting : Bool := false
  agentId : Nat := invalidId
  contextId : Nat := invalidId
  deviceId : Text
  sceneType : SceneType
  deriving DecidableEq, Repr

/-- The limits that `Initialize` reads from the configuration. -/
structure SinkLimits where
  surfaceMaximum : BitVec 32 := 5
  accessDevMaximum : BitVec 32 := 4
  foregroundMaximum : BitVec 32 := 2
  deriving DecidableEq, Repr

inductive SessionEvent where
  | requestIdr
  | teardown
  deriving DecidableEq, Repr

/-- What the scene asks of its adapters and of the P2P service. `innerDestroyErased` is not a
call: it records the entry that `OnInnerDestroy`, told of an agent, took out of the map. -/
inductive SceneAction where
  | createAgent (contextId agentId : Nat)
  | destroyAgent (contextId agentId : Nat)
  | forwardEvent (event : SessionEvent) (contextId agentId : Nat)
  | resume (contextId agentId : Nat)
  | appendSurface (contextId agentId : Nat) (surfaceId : BitVec 64) (sceneType : SceneType)
  | removeSurface (contextId agentId : Nat) (surfaceId : BitVec 64)
  | setKeyPlay (contextId agentId : Nat) (surfaceId : BitVec 64) (keyFrame : Bool)
  | setKeyRedirect (contextId agentId : Nat) (surfaceId : BitVec 64) (keyRedirect : Bool)
  | p2pRemoveClient (connectionInfo : ConnectionInfo)
  | setWifiScene (scene : Nat)
  | connectionChanged (connectionInfo : ConnectionInfo)
  | error (code : SharingErrorCode) (message : String)
  | accelerationDone (surfaceId : BitVec 64)
  | startSession (connectionInfo : ConnectionInfo)
  | agentDestroyed (contextId agentId : Nat)
  | innerDestroyErased (contextId agentId : Nat) (entry : Option ConnectionInfo)
  deriving DecidableEq, Repr

/-- The result of a handler: a number, or what its last call returned. -/
inductive SceneReply where
  | value (n : Int)
  | ofCall
  deriving DecidableEq, Repr

inductive SceneFault where
  | danglingReference
  deriving DecidableEq, Repr

/-- `OnInnerDestroy` while it has released `mutex_`: `item` is the key of the entry that its
loop variable refers to, and the reference dangles once that entry is gone. -/
structure InnerDestroyGap where
  contextId : Nat
  agentId : Nat
  item : Text
  dangling : Bool := false
  connectionInfo : ConnectionInfo
  deriving DecidableEq, Repr

def InnerDestroyGap.entryErased (mac : Text) (gap : InnerDestroyGap) : InnerDestroyGap :=
  { gap with dangling := gap.dangling || decide (gap.item = mac) }

/-- `sharingAdapter` says that the weak pointer can still be locked. -/
structure WfdSinkScene where
  isSinkRunning : Bool := false
  sharingAdapter : Bool := true
  devSurfaceItemMap : OrderedMap (BitVec 64) DevSurfaceItem := OrderedMap.empty
  devConnectionMap : AList fun _ : Text => ConnectionInfo := ∅
  gaps : List InnerDestroyGap := []

structure SceneResult (ρ : Type) where
  scene : WfdSinkScene
  actions : List SceneAction := []
  reply : ρ

namespace WfdSinkScene

def countSurfaces (s : WfdSinkScene) (p : DevSurfaceItem → Bool) : Nat :=
  s.devSurfaceItemMap.toList.countP fun e => p e.2

def isLive (item : DevSurfaceItem) : Bool := !item.deleting

def isForeground (item : DevSurfaceItem) : Bool := item.sceneType = .foreground

def isLiveOf (deviceId : Text) (item : DevSurfaceItem) : Bool :=
  item.deviceId = deviceId && !item.deleting

def updateConnection (s : WfdSinkScene) (deviceId : Text) (itemDev : ConnectionInfo) :
    WfdSinkScene :=
  { s with devConnectionMap := s.devConnectionMap.insert deviceId itemDev }

/-- `devConnectionMap_.erase`, which invalidates the references to the entry. -/
def eraseConnection (s : WfdSinkScene) (mac : Text) : WfdSinkScene :=
  { s with
    devConnectionMap := s.devConnectionMap.erase mac
    gaps := s.gaps.map (InnerDestroyGap.entryErased mac) }

def markDeleting (s : WfdSinkScene) (mac : Text) : WfdSinkScene :=
  { s with
    devSurfaceItemMap := s.devSurfaceItemMap.mapValues fun item =>
      if item.deviceId = mac then { item with deleting := true } else item }

/-- What the handlers that lose a device do under `mutex_`. -/
def releaseDevice (s : WfdSinkScene) (mac : Text) : WfdSinkScene :=
  (s.markDeleting mac).eraseConnection mac

/-- The item for a new surface. Surfaces marked deleting still count as foreground. -/
def newSurfaceItem (limits : SinkLimits) (s : WfdSinkScene) (itemDev : ConnectionInfo) :
    DevSurfaceItem :=
  { contextId := itemDev.contextId, agentId := itemDev.agentId, deviceId := itemDev.mac,
    sceneType :=
      if limits.foregroundMaximum.toInt ≤ s.countSurfaces isForeground then .background
      else .foreground }

/-- `surface` is the `GetUniqueId` of the surface made from the request, if one could be made. -/
def handleAppendSurface (limits : SinkLimits) (s : WfdSinkScene) (deviceId : Text)
    (surface : Option (BitVec 64)) : SceneResult SceneReply :=
  if !s.sharingAdapter then ⟨s, [], .value (-1)⟩
  else match s.devConnectionMap.lookup deviceId with
  | none =>
    ⟨s, [.error .badParameter "HandleAppendSurface can't find the dev"], .value (-1)⟩
  | some itemDev =>
    if limits.surfaceMaximum.toInt ≤ s.countSurfaces isLive then
      ⟨s, [.error .serviceLimit "HandleAppendSurface surface is too much"], .value (-1)⟩
    else match surface with
    | none => ⟨s, [], .value (-1)⟩
    | some surfaceId =>
      if (s.devSurfaceItemMap.find? surfaceId).isSome then
        ⟨s, [.error .stateException "HandleAppendSurface this surface is using"],
          .value SharingErrorCode.stateException.value⟩
      else if s.devSurfaceItemMap.toList.any fun e => isLiveOf deviceId e.2 then
        ⟨s, [.error .stateException "Only one surface can be set."],
          .value SharingErrorCode.stateException.value⟩
      else
        let devSurfaceItem := s.newSurfaceItem limits itemDev
        let s' := { s with
          devSurfaceItemMap := s.devSurfaceItemMap.emplace surfaceId devSurfaceItem }
        if itemDev.isRunning then
          let connectionInfo := { itemDev with state := .playing }
          ⟨s'.updateConnection deviceId connectionInfo,
            [.forwardEvent .requestIdr itemDev.contextId itemDev.agentId,
              .appendSurface itemDev.contextId itemDev.agentId surfaceId devSurfaceItem.sceneType,
              .connectionChanged connectionInfo], .value 0⟩
        else ⟨s', [], .value 0⟩

def handleRemoveSurface (s : WfdSinkScene) (deviceId : Text) (surfaceId : BitVec 64) :
    SceneResult SceneReply :=
  if !s.sharingAdapter then ⟨s, [], .value (-1)⟩
  else match s.devConnectionMap.lookup deviceId with
  | none =>
    ⟨s, [.error .badParameter "HandleRemoveSurface can't find the dev"], .value (-1)⟩
  | some itemDev =>
    match s.devSurfaceItemMap.find? surfaceId with
    | none =>
      ⟨s, [.error .badParameter "HandleRemoveSurface can't find the surface"], .value (-1)⟩
    | some item =>
      if item.deviceId ≠ deviceId then
        ⟨s, [.error .badParameter "HandleRemoveSurface surface does not belong to device"],
          .value (-1)⟩
      else
        ⟨s, [.removeSurface itemDev.contextId itemDev.agentId surfaceId], .value 0⟩

/-- The ids are those of the device, on success. -/
def updateSurfaceSceneType (limits : SinkLimits) (s : WfdSinkScene) (deviceId : Text)
    (surfaceId : BitVec 64) (sceneType : SceneType) : SceneResult (Option (Nat × Nat)) :=
  match s.devConnectionMap.lookup deviceId with
  | none => ⟨s, [.error .badParameter "HandleSetSceneType can not find dev"], none⟩
  | some itemDev =>
    match s.devSurfaceItemMap.find? surfaceId with
    | none =>
      ⟨s, [.error .badParameter "HandleSetSceneType can't find the surfaceId"], none⟩
    | some item =>
      if item.deleting then
        ⟨s, [.error .badParameter "HandleSetSceneType can't find the surfaceId"], none⟩
      else if item.deviceId ≠ deviceId then
        ⟨s, [.error .badParameter "HandleSetSceneType surface does not belong to device"], none⟩
      else
        let updated := { s with
          devSurfaceItemMap :=
            s.devSurfaceItemMap.assign surfaceId { item with sceneType := sceneType } }
        match sceneType with
        | .background => ⟨updated, [], some (itemDev.contextId, itemDev.agentId)⟩
        | .foreground =>
          let others := s.devSurfaceItemMap.toList.countP fun e =>
            !(e.1 = surfaceId && !e.2.deleting) && isForeground e.2
          if limits.foregroundMaximum.toNat < 1 + others then
            ⟨s, [.error .serviceLimit "foreground surfaces is too much"], none⟩
          else ⟨updated, [], some (itemDev.contextId, itemDev.agentId)⟩

def handleSetSceneType (limits : SinkLimits) (s : WfdSinkScene) (deviceId : Text)
    (surfaceId : BitVec 64) (sceneType : SceneType) : SceneResult SceneReply :=
  if !s.sharingAdapter then ⟨s, [], .value (-1)⟩
  else
    let updated := s.updateSurfaceSceneType limits deviceId surfaceId sceneType
    match updated.reply with
    | none => ⟨updated.scene, updated.actions, .value (-1)⟩
    | some (contextId, agentId) =>
      if contextId = invalidId ∨ agentId = invalidId then ⟨updated.scene, [], .value 0⟩
      else
        match sceneType with
        | .background =>
          ⟨updated.scene, [.setKeyPlay contextId agentId surfaceId true], .ofCall⟩
        | .foreground =>
          ⟨updated.scene, [.setKeyPlay contextId agentId surfaceId false,
            .setKeyRedirect contextId agentId surfaceId true], .ofCall⟩

/-- `startSession` stands for the start of the session behind the section. -/
def handlePlay (s : WfdSinkScene) (deviceId : Text) : SceneResult SceneReply :=
  if !s.sharingAdapter then ⟨s, [], .value (-1)⟩
  else match s.devConnectionMap.lookup deviceId with
  | none => ⟨s, [.error .badParameter "HandlePlay can not find dev"], .value (-1)⟩
  | some itemDev =>
    if itemDev.contextId = invalidId ∨ itemDev.agentId = invalidId then ⟨s, [], .value (-1)⟩
    else if itemDev.isRunning then
      ⟨s, [.resume itemDev.contextId itemDev.agentId], .ofCall⟩
    else
      let itemDev := { itemDev with isRunning := true }
      ⟨s.updateConnection deviceId itemDev, [.startSession itemDev], .value 0⟩

def handleClose (s : WfdSinkScene) (deviceId : Text) : SceneResult SceneReply :=
  if !s.sharingAdapter then ⟨s, [], .value (-1)⟩
  else match s.devConnectionMap.lookup deviceId with
  | none => ⟨s, [.error .badParameter "HandleClose can not find dev"], .value (-1)⟩
  | some itemDev =>
    let connectionInfo : ConnectionInfo :=
      { ip := itemDev.ip, mac := itemDev.mac, state := .disconnected,
        surfaceId := itemDev.surfaceId, deviceName := itemDev.deviceName,
        primaryDeviceType := itemDev.primaryDeviceType,
        secondaryDeviceType := itemDev.secondaryDeviceType }
    let s' := s.releaseDevice deviceId
    if itemDev.contextId = invalidId ∨ itemDev.agentId = invalidId then
      ⟨s', [.p2pRemoveClient connectionInfo], .value (-1)⟩
    else
      ⟨s', [.p2pRemoveClient connectionInfo, .connectionChanged connectionInfo,
        .forwardEvent .teardown itemDev.contextId itemDev.agentId,
        .destroyAgent itemDev.contextId itemDev.agentId], .ofCall⟩

/-- The calls of `WfdP2pStop` for one entry. -/
def stopEntry (item : ConnectionInfo) : List SceneAction :=
  if item.contextId ≠ invalidId ∧ item.agentId ≠ invalidId then
    [.forwardEvent .teardown item.contextId item.agentId, .p2pRemoveClient item,
      .destroyAgent item.contextId item.agentId]
  else []

def wfdP2pStop (s : WfdSinkScene) : SceneResult Unit :=
  ⟨{ s with
      devSurfaceItemMap := OrderedMap.empty
      devConnectionMap := ∅
      gaps := s.gaps.map fun gap => { gap with dangling := true } },
    if s.sharingAdapter then s.devConnectionMap.entries.flatMap fun e => stopEntry e.2 else [], ()⟩

/-- `created` holds the ids that `CreateAgent` returned. -/
def createSinkAgentLocked (s : WfdSinkScene) (connectionInfo : ConnectionInfo)
    (created : Nat × Nat) : SceneResult Bool :=
  if created.1 = invalidId ∨ created.2 = invalidId then ⟨s, [], false⟩
  else
    let connectionInfo := { connectionInfo with contextId := created.1, agentId := created.2 }
    ⟨s.updateConnection connectionInfo.mac connectionInfo, [.createAgent created.1 created.2], true⟩

def notifyPeerRejected (connectionInfo : ConnectionInfo) : List SceneAction :=
  [.p2pRemoveClient connectionInfo, .error .receivingLimit "Maximum number of devices reached"]

def onP2pPeerConnected (limits : SinkLimits) (s : WfdSinkScene) (connectionInfo : ConnectionInfo)
    (created : Nat × Nat) : SceneResult Bool :=
  if !s.isSinkRunning then ⟨s, [], false⟩
  else if !s.sharingAdapter then ⟨s, [], false⟩
  else if connectionInfo.mac = [] then ⟨s, [], false⟩
  else if limits.accessDevMaximum.toNat ≤ s.devConnectionMap.keys.length then
    ⟨s, notifyPeerRejected connectionInfo, false⟩
  else if connectionInfo.mac ∈ s.devConnectionMap then ⟨s, [], false⟩
  else
    let result := s.createSinkAgentLocked connectionInfo created
    if !result.reply then result
    else
      let connectionInfo := { connectionInfo with contextId := created.1, agentId := created.2 }
      ⟨result.scene, result.actions ++ [.setWifiScene 1, .connectionChanged connectionInfo], true⟩

/-- The callback for a peer that is available again. -/
def onP2pPeerDisconnected (s : WfdSinkScene) (connectionInfo : ConnectionInfo) :
    SceneResult Unit :=
  if !s.sharingAdapter then ⟨s, [], ()⟩
  else match s.devConnectionMap.lookup connectionInfo.mac with
  | none => ⟨s, [], ()⟩
  | some itemDev =>
    let connectionInfo := { connectionInfo with surfaceId := itemDev.surfaceId }
    let s' := s.releaseDevice connectionInfo.mac
    let actions := [.p2pRemoveClient connectionInfo, .connectionChanged connectionInfo]
    if itemDev.contextId = invalidId ∨ itemDev.agentId = invalidId then ⟨s', actions, ()⟩
    else
      ⟨s', actions ++ [.forwardEvent .teardown itemDev.contextId itemDev.agentId,
        .destroyAgent itemDev.contextId itemDev.agentId], ()⟩

/-- The overload for a device known by its address: a teardown, a lost group, a dead service.
It looks for the adapter only after the section. -/
def onP2pPeerDisconnectedMac (s : WfdSinkScene) (mac : Text) : SceneResult Unit :=
  match s.devConnectionMap.lookup mac with
  | none => ⟨s, [], ()⟩
  | some itemDev =>
    let s' := s.releaseDevice mac
    let destroy : List SceneAction :=
      if s.sharingAdapter then [.destroyAgent itemDev.contextId itemDev.agentId] else []
    if itemDev.contextId = invalidId ∨ itemDev.agentId = invalidId then
      ⟨s', [.p2pRemoveClient itemDev], ()⟩
    else
      ⟨s', [.p2pRemoveClient itemDev] ++ destroy ++
        [.connectionChanged { itemDev with state := .disconnected }], ()⟩

def isEntryOf (contextId agentId : Nat) (info : ConnectionInfo) : Bool :=
  contextId = info.contextId && agentId = info.agentId

def isSurfaceOf (contextId agentId : Nat) (item : DevSurfaceItem) : Bool :=
  contextId = item.contextId && agentId = item.agentId

/-- `OnInnerDestroy` up to `lock.unlock()`, with the report that it makes then. -/
def onInnerDestroy (s : WfdSinkScene) (contextId agentId : Nat) : SceneResult Unit :=
  let s' := { s with
    devSurfaceItemMap := s.devSurfaceItemMap.filter fun e => !isSurfaceOf contextId agentId e.2 }
  match s.devConnectionMap.entries.find? fun e => isEntryOf contextId agentId e.2 with
  | none => ⟨s', [.agentDestroyed contextId agentId], ()⟩
  | some item =>
    let connectionInfo : ConnectionInfo :=
      { ip := item.2.ip, mac := item.2.mac, deviceName := item.2.deviceName,
        primaryDeviceType := item.2.primaryDeviceType,
        secondaryDeviceType := item.2.secondaryDeviceType, ctrlPort := item.2.ctrlPort,
        state := .disconnected }
    ⟨{ s' with
        gaps := s.gaps ++ [{ contextId := contextId, agentId := agentId, item := item.1,
                             connectionInfo := connectionInfo }] },
      [.agentDestroyed contextId agentId, .connectionChanged connectionInfo], ()⟩

/-- `OnInnerDestroy` from `lock.lock()` on, for the `n`th of the handlers in the gap. If its
`item` dangles, `item.second->mac` reads `freed`: what the freed memory holds, or a fault. -/
def onInnerDestroyLocked (s : WfdSinkScene) (n : Nat) (freed : Option Text) :
    Except SceneFault (SceneResult Unit) :=
  match s.gaps[n]? with
  | none => .ok ⟨s, [], ()⟩
  | some gap =>
    let mac? :=
      if gap.dangling then freed
      else (s.devConnectionMap.lookup gap.item).map ConnectionInfo.mac
    match mac? with
    | none => .error .danglingReference
    | some mac =>
      let s' := { s with gaps := s.gaps.eraseIdx n }
      .ok ⟨s'.eraseConnection mac,
        [.p2pRemoveClient gap.connectionInfo,
          .innerDestroyErased gap.contextId gap.agentId (s.devConnectionMap.lookup mac)], ()⟩

/-- `EVENT_WFD_NOTIFY_RTSP_PLAYED`. -/
def onRtspPlayed (s : WfdSinkScene) (mac : Text) : SceneResult Unit :=
  match s.devConnectionMap.lookup mac with
  | none => ⟨s, [], ()⟩
  | some itemDev =>
    let connectionInfo := { itemDev with state := .playing }
    ⟨s.updateConnection mac connectionInfo, [.connectionChanged connectionInfo], ()⟩

/-- `EVENT_INTERACTION_ACCELERATION_DONE`. -/
def onAccelerationDone (s : WfdSinkScene) (contextId agentId : Nat) (surfaceId : BitVec 64) :
    SceneResult Unit :=
  match s.devConnectionMap.entries.find? fun e => isEntryOf contextId agentId e.2 with
  | none => ⟨s, [], ()⟩
  | some item =>
    ⟨s.updateConnection item.1 { item.2 with surfaceId := surfaceId }, [.accelerationDone surfaceId],
      ()⟩

/-- `EVENT_INTERACTION_STATE_REMOVE_SURFACE`. -/
def onStateRemoveSurface (s : WfdSinkScene) (surfaceId : BitVec 64) : SceneResult Unit :=
  ⟨{ s with devSurfaceItemMap := s.devSurfaceItemMap.erase surfaceId }, [], ()⟩

end WfdSinkScene

/-- One section of a handler, or a change of the scene from outside. In `peerConnected`,
`created` is the context of the agent that `CreateAgent` makes and how many identifiers were
taken since the last agent; `none` if it makes no agent. -/
inductive SceneCall where
  | appendSurface (deviceId : Text) (surface : Option (BitVec 64))
  | removeSurface (deviceId : Text) (surfaceId : BitVec 64)
  | setSceneType (deviceId : Text) (surfaceId : BitVec 64) (sceneType : SceneType)
  | play (deviceId : Text)
  | close (deviceId : Text)
  | peerConnected (connectionInfo : ConnectionInfo) (created : Option (Nat × Nat))
  | peerDisconnected (connectionInfo : ConnectionInfo)
  | peerDisconnectedMac (mac : Text)
  | setSinkRunning (running : Bool)
  | p2pStop
  | rtspPlayed (mac : Text)
  | accelerationDone (contextId agentId : Nat) (surfaceId : BitVec 64)
  | stateRemoveSurface (surfaceId : BitVec 64)
  | innerDestroy (contextId agentId : Nat)
  | innerDestroyLocked (n : Nat) (freed : Option Text)
  | adapterExpired
  deriving DecidableEq, Repr

def SceneCall.created : SceneCall → Option (Nat × Nat)
  | .peerConnected _ created => created
  | _ => none

/-- `key` is that of `Identifier`, which counts the identifiers of the process. `trace` is a
history that the code does not keep. -/
structure SceneState where
  scene : WfdSinkScene := {}
  key : Nat := 0
  trace : List SceneAction := []

namespace SceneState

def after {ρ : Type} (s : SceneState) (result : SceneResult ρ) : SceneState :=
  { s with scene := result.scene, trace := s.trace ++ result.actions }

/-- The ids that `CreateAgent` returns. -/
def createdIds (s : SceneState) : Option (Nat × Nat) → Nat × Nat
  | none => (invalidId, invalidId)
  | some (contextId, others) => (contextId, (s.key + others + 1) % 2 ^ 32)

def nextKey (s : SceneState) : Option (Nat × Nat) → Nat
  | none => s.key
  | some (_, others) => s.key + others + 1

def step (limits : SinkLimits) (s : SceneState) : SceneCall → Except SceneFault SceneState
  | .appendSurface deviceId surface =>
    .ok (s.after (s.scene.handleAppendSurface limits deviceId surface))
  | .removeSurface deviceId surfaceId =>
    .ok (s.after (s.scene.handleRemoveSurface deviceId surfaceId))
  | .setSceneType deviceId surfaceId sceneType =>
    .ok (s.after (s.scene.handleSetSceneType limits deviceId surfaceId sceneType))
  | .play deviceId => .ok (s.after (s.scene.handlePlay deviceId))
  | .close deviceId => .ok (s.after (s.scene.handleClose deviceId))
  | .peerConnected connectionInfo created =>
    .ok { s.after (s.scene.onP2pPeerConnected limits connectionInfo (s.createdIds created)) with
      key := s.nextKey created }
  | .peerDisconnected connectionInfo => .ok (s.after (s.scene.onP2pPeerDisconnected connectionInfo))
  | .peerDisconnectedMac mac => .ok (s.after (s.scene.onP2pPeerDisconnectedMac mac))
  | .setSinkRunning running => .ok { s with scene := { s.scene with isSinkRunning := running } }
  | .p2pStop => .ok (s.after s.scene.wfdP2pStop)
  | .rtspPlayed mac => .ok (s.after (s.scene.onRtspPlayed mac))
  | .accelerationDone contextId agentId surfaceId =>
    .ok (s.after (s.scene.onAccelerationDone contextId agentId surfaceId))
  | .stateRemoveSurface surfaceId => .ok (s.after (s.scene.onStateRemoveSurface surfaceId))
  | .innerDestroy contextId agentId => .ok (s.after (s.scene.onInnerDestroy contextId agentId))
  | .innerDestroyLocked n freed => do
    let result ← s.scene.onInnerDestroyLocked n freed
    return s.after result
  | .adapterExpired => .ok { s with scene := { s.scene with sharingAdapter := false } }

end SceneState

end WifiDisplay
