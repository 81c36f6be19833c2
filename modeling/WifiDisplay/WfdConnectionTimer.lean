import WifiDisplay.GuardedRuns
import WifiDisplay.WfdSourceScene

/-! The timer of `WfdSourceScene` that reports an added device which does not connect. -/

namespace WifiDisplay

/-- The scene behind a call, and what the call asks of others. -/
def WfdSourceScene.onCall (s : WfdSourceScene) : SourceCall → SourceResult Unit
  | .startDiscovery status => let r := s.handleStartDiscovery status; ⟨r.scene, r.actions, ()⟩
  | .addDevice deviceId screenId displayIds =>
    let r := s.handleAddDevice deviceId screenId displayIds; ⟨r.scene, r.actions, ()⟩
  | .removeDevice deviceId => let r := s.handleRemoveDevice deviceId; ⟨r.scene, r.actions, ()⟩
  | .destroyScreenCapture => let r := s.handleDestroyScreenCapture; ⟨r.scene, r.actions, ()⟩
  | .p2pStateChanged state => s.onP2pStateChanged state
  | .p2pConnectionChanged connected owner answers => s.onP2pConnectionChanged connected owner answers
  | .p2pThisDeviceChanged disconnected => s.onP2pThisDeviceChanged disconnected
  | .rtspPlayed mac => s.onRtspPlayed mac
  | .rtspTeardown mac => s.onP2pPeerDisconnected mac
  | .agentDestroyed contextId agentId => s.onInnerDestroy contextId agentId

/-- `OnConnectionChanged` resets the timer behind its report of a connected device. -/
def SourceAction.resetsTimer : SourceAction → Bool
  | .connectionChanged connectionInfo => connectionInfo.state = .connected
  | _ => false

def SourceCall.answers (deviceId : Text) : SourceCall → Bool
  | .p2pConnectionChanged connected owner _ => connected ∧ owner.ip ≠ [] ∧ owner.mac = deviceId
  | .removeDevice deviceId' => deviceId' = deviceId
  | _ => false

/-- A request to add a device; `timer` is what `Register` gave for it. -/
structure AddRequest where
  deviceId : Text
  accepted : Bool
  answered : Bool := false
  timer : Option Nat := none
  deriving DecidableEq

/-- `timers` holds the registered timers with the requests that they were set for, and `reports`
the requests at whose deadlines `ERR_CONNECTION_TIMEOUT` was sent. -/
structure TimedScene where
  scene : WfdSourceScene := {}
  timerId : Nat := 0
  timers : List (Nat × Nat) := []
  requests : Nat → Option AddRequest := fun _ => none
  reports : List Nat := []

/-- A request for a device comes in two parts, with a call of `SetCheckWfdConnectionTimer` as the
second one; `ret` is what `P2pConnect` returns. At its deadline a timer that is still registered
runs its callback. -/
inductive TimedCall where
  | addDevice (k : Nat) (deviceId : Text) (screenId : BitVec 64) (displayIds : List (BitVec 64))
      (ret : Int32)
  | setTimer (k timerId : Nat)
  | deadline (k : Nat)
  | other (call : SourceCall)

namespace TimedScene

variable (s : TimedScene)

def resetCheckWfdConnectionTimer : TimedScene :=
  if s.timerId ≠ 0 then
    { s with timers := s.timers.filter (·.1 ≠ s.timerId), timerId := 0 }
  else s

def onCheckWfdConnection (k : Nat) : TimedScene :=
  let s' := s.resetCheckWfdConnectionTimer
  if s.scene.ipcAdapter then { s' with reports := s'.reports ++ [k] } else s'

def addDevice (k : Nat) (deviceId : Text) (screenId : BitVec 64) (displayIds : List (BitVec 64))
    (ret : Int32) : TimedScene :=
  let s := s.resetCheckWfdConnectionTimer
  let result := s.scene.handleAddDevice deviceId screenId displayIds
  let accepted := match result.reply with
    | .value value => value = 0
    | .ofCall => ret = 0
  { s with
    scene := result.scene
    requests := Function.update s.requests k (some { deviceId, accepted }) }

/-- `Register` gives an id that is not zero and not that of another timer. -/
def setCheckWfdConnectionTimer (k : Nat) (r : AddRequest) (timerId : Nat) : TimedScene :=
  { s with
    timers := s.timers ++ [(timerId, k)], timerId
    requests := Function.update s.requests k (some { r with timer := some timerId }) }

def onCall (call : SourceCall) : TimedScene :=
  let result := s.scene.onCall call
  let s := if result.actions.any (·.resetsTimer) then s.resetCheckWfdConnectionTimer else s
  { s with
    scene := result.scene
    requests := fun k => (s.requests k).map fun r => { r with answered := r.answered || call.answers r.deviceId } }

def step : TimedCall → TimedScene
  | .addDevice k deviceId screenId displayIds ret =>
    if s.requests k = none then s.addDevice k deviceId screenId displayIds ret else s
  | .setTimer k timerId =>
    match s.requests k with
    | some r =>
      if r.timer = none ∧ timerId ≠ 0 ∧ timerId ∉ s.timers.map (·.1) then
        s.setCheckWfdConnectionTimer k r timerId
      else s
    | none => s
  | .deadline k =>
    if s.timers.any (·.2 = k) then s.onCheckWfdConnection k else s
  | .other call =>
    match call with
    | .addDevice _ _ _ => s
    | call => s.onCall call

def Waiting (k : Nat) : Prop :=
  ∃ r, s.requests k = some r ∧ r.accepted = true ∧ r.answered = false ∧ k ∉ s.reports

/-- A report is sent at the deadline of a request that waits, and at no other time. -/
def Timely (call : TimedCall) : Prop :=
  match call with
  | .deadline k => ∀ r, s.requests k = some r → r.timer ≠ none →
    (s.Waiting k → (s.step call).reports = s.reports ++ [k]) ∧
      (¬ s.Waiting k → (s.step call).reports = s.reports)
  | _ => (s.step call).reports = s.reports

def Accepts (screenId : BitVec 64) (displayIds : List (BitVec 64)) (ret : Int32) : Prop :=
  s.scene.isSourceRunning = true ∧ s.scene.p2pInstance = true ∧ screenId ∈ displayIds ∧ ret = 0

def Undisturbed : TimedCall → Prop
  | .addDevice _ _ screenId displayIds ret => s.Accepts screenId displayIds ret ∧ ∀ j, ¬ s.Waiting j
  | .setTimer _ _ => True
  | .deadline k => s.Waiting k → s.scene.ipcAdapter = true
  | .other (.p2pConnectionChanged connected owner _) => connected = true → owner.ip ≠ [] →
    ∀ j r, s.Waiting j → s.requests j = some r →
      r.deviceId = owner.mac ∧ r.timer ≠ none ∧ s.scene.p2pInstance = true ∧
      s.scene.ipcAdapter = true ∧ s.scene.isSourceRunning = true ∧
      (s.scene.sharingAdapter = true → ¬ s.scene.isConnected owner.mac)
  | .other (.removeDevice deviceId) => ∀ j r, s.Waiting j → s.requests j = some r → r.deviceId ≠ deviceId
  | .other _ => True

end TimedScene

end WifiDisplay
