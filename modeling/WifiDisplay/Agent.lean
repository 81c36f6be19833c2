import WifiDisplay.OrderedMap
import WifiDisplay.WfdSinkScene

/-! `Agent`: the steps it runs, the requests it keeps for later, and what it hands on to its
session, the media channel, the interaction and the context. -/

namespace WifiDisplay

inductive AgentType where
  | src
  | sink
  deriving DecidableEq, Repr

inductive AgentRunStep where
  | idle
  | create
  | start
  | pause
  | resume
  | appendSurface
  | removeSurface
  | play
  | playStop
  | destroy
  deriving DecidableEq, Repr

inductive AgentRunStepWeight where
  | idle
  | reusable
  | start
  | destroy
  deriving DecidableEq, Repr

inductive AgentRunningStatus where
  | idle
  | running
  | done
  | error
  | interrupt
  deriving DecidableEq, Repr

namespace AgentRunStep

def value : AgentRunStep → Nat
  | idle => 0
  | create => 1
  | start => 2
  | pause => 3
  | resume => 4
  | appendSurface => 5
  | removeSurface => 6
  | play => 7
  | playStop => 8
  | destroy => 9

theorem value_lt (s : AgentRunStep) : s.value < 10 := by cases s <;> decide

theorem value_injective {s t : AgentRunStep} (h : s.value = t.value) : s = t := by
  cases s <;> cases t <;> first | rfl | cases h

end AgentRunStep

namespace AgentRunStepWeight

def value : AgentRunStepWeight → Nat
  | idle => 0
  | reusable => 1
  | start => 2
  | destroy => 3

theorem value_le (s : AgentRunStepWeight) : s.value ≤ 3 := by cases s <;> decide

theorem value_injective {s t : AgentRunStepWeight} (h : s.value = t.value) : s = t := by
  cases s <;> cases t <;> first | rfl | cases h

end AgentRunStepWeight

@[ext]
structure AgentRunStepKey where
  requestId : BitVec 32
  stepType : AgentRunStep
  weight : AgentRunStepWeight
  deriving DecidableEq, Repr

namespace AgentRunStepKey

variable {k l : AgentRunStepKey}

/-- `operator<`: the heavier step first. -/
def less (k l : AgentRunStepKey) : Bool :=
  if k.weight = l.weight then
    if k.stepType = l.stepType then k.requestId.toNat < l.requestId.toNat
    else k.stepType.value < l.stepType.value
  else l.weight.value < k.weight.value

instance : LT AgentRunStepKey := ⟨fun k l => k.less l = true⟩

instance : LE AgentRunStepKey := ⟨fun k l => ¬ l < k⟩

instance : DecidableLT AgentRunStepKey := fun k l => inferInstanceAs (Decidable (k.less l = true))

/-- The place of a key in the order. -/
def rank (k : AgentRunStepKey) : Nat :=
  ((3 - k.weight.value) * 10 + k.stepType.value) * 2 ^ 32 + k.requestId.toNat

theorem lt_iff_rank : k < l ↔ k.rank < l.rank := by
  have hk := k.requestId.isLt
  have hl := l.requestId.isLt
  have hks := k.stepType.value_lt
  have hls := l.stepType.value_lt
  have hkw := k.weight.value_le
  have hlw := l.weight.value_le
  show k.less l = true ↔ _
  rw [less, rank, rank]
  by_cases hw : k.weight = l.weight
  · by_cases hs : k.stepType = l.stepType
    · simp [hw, hs]
    · have hne : k.stepType.value ≠ l.stepType.value := fun h => hs (AgentRunStep.value_injective h)
      simp only [hw, hs, if_true, if_false, decide_eq_true_eq]
      omega
  · have hne : k.weight.value ≠ l.weight.value := fun h => hw (AgentRunStepWeight.value_injective h)
    simp only [hw, if_false, decide_eq_true_eq]
    omega

theorem rank_injective (h : k.rank = l.rank) : k = l := by
  have hk := k.requestId.isLt
  have hl := l.requestId.isLt
  have hks := k.stepType.value_lt
  have hls := l.stepType.value_lt
  have hkw := k.weight.value_le
  have hlw := l.weight.value_le
  rw [rank, rank] at h
  apply AgentRunStepKey.ext
  · exact BitVec.eq_of_toNat_eq (by omega)
  · exact AgentRunStep.value_injective (by omega)
  · exact AgentRunStepWeight.value_injective (by omega)

theorem le_iff_rank : k ≤ l ↔ k.rank ≤ l.rank := by
  show ¬ l < k ↔ _
  rw [lt_iff_rank]
  omega

instance : Std.IsLinearOrder AgentRunStepKey where
  le_refl k := le_iff_rank.mpr (Nat.le_refl _)
  le_trans k l m hkl hlm := le_iff_rank.mpr (Nat.le_trans (le_iff_rank.mp hkl) (le_iff_rank.mp hlm))
  le_antisymm k l hkl hlk :=
    rank_injective (Nat.le_antisymm (le_iff_rank.mp hkl) (le_iff_rank.mp hlk))
  le_total k l := by
    rw [le_iff_rank, le_iff_rank]
    exact Nat.le_total _ _

instance : Std.LawfulOrderLT AgentRunStepKey where
  lt_iff k l := by
    rw [lt_iff_rank, le_iff_rank, le_iff_rank]
    omega

end AgentRunStepKey

namespace Agent

/-- The codes that the agent tells apart. -/
inductive ErrorCode where
  | ok
  | generalError
  | connectionFailure
  | interactionFailure
  | networkError
  | unauthorized
  | invalidUrl
  | protocolInteractionTimeout
  | sessionCreate
  | sessionStart
  | intakeTimeout
  | prosumerInit
  | prosumerCreate
  | prosumerStart
  | prosumerTimeout
  | prosumerStop
  | prosumerDestroy
  | prosumerVideoCapture
  | decodeFormat
  | other (code : Int)
  deriving DecidableEq, Repr

inductive MediaType where
  | av
  | audio
  | video
  deriving DecidableEq, Repr

inductive ProsumerState where
  | create
  | start
  | pause
  | resume
  | stop
  | destroy
  deriving DecidableEq, Repr

/-- The event types with the fields of the message that the agent reads for them. A surface
stands for its unique id, a volume for its bits. -/
inductive EventType where
  | start
  | destroy
  | pause (mediaType : MediaType)
  | resume (mediaType : MediaType)
  | stateProsumer (state : ProsumerState) (prosumerId : BitVec 32)
  | prosumerError (prosumerId : BitVec 32)
  | playStart
  | playStop
  | statePlayStart
  | statePlayStop
  | channelAppendSurface (surface : BitVec 64) (sceneType : SceneType)
  | channelRemoveSurface (surfaceId : BitVec 64)
  | stateChannelAppendSurface
  | stateChannelRemoveSurface (surfaceId : BitVec 64)
  | channelSetSceneType (surfaceId : BitVec 64) (sceneType : SceneType)
  | channelSetVolume (volume : BitVec 32)
  | channelSetKeyRedirect (surfaceId : BitVec 64) (keyRedirect : Bool)
  | accelerationDone (surfaceId : BitVec 64)
  | decoderDied (surfaceId : BitVec 64)
  | other (type : Nat)
  deriving DecidableEq, Repr

structure Event where
  type : EventType
  requestId : BitVec 32 := 0
  errorCode : ErrorCode := .ok
  deriving DecidableEq, Repr

inductive SessionStatus where
  | start
  | stop
  | pause (mediaType : MediaType)
  | destroy
  | resume (mediaType : MediaType)
  | interrupt
  deriving DecidableEq, Repr

inductive ChannelRequest where
  | playStart
  | playStop
  | destroy
  | appendSurface (surface : BitVec 64) (sceneType : SceneType)
  | removeSurface (surfaceId : BitVec 64)
  | setSceneType (surfaceId : BitVec 64) (sceneType : SceneType)
  | setVolume (volume : BitVec 32)
  | keyRedirect (surfaceId : BitVec 64) (keyRedirect : Bool)
  deriving DecidableEq, Repr

inductive InteractionNotice where
  | msgError
  | stateRemoveSurface (surfaceId : BitVec 64)
  | accelerationDone (surfaceId : BitVec 64)
  | decoderDied (surfaceId : BitVec 64)
  deriving DecidableEq, Repr

/-- What the agent hands on, with the message it comes from. -/
inductive Output where
  | updateOperation (status : SessionStatus) (e : Event)
  | updateMediaStatus (state : ProsumerState) (prosumerId : BitVec 32) (e : Event)
  | sessionEvent (e : Event)
  | channel (mediaChannelId prosumerId : BitVec 32) (request : ChannelRequest) (e : Event)
  | interaction (notice : InteractionNotice) (requestId : BitVec 32) (errorCode : ErrorCode)
  | contextAgentDestroyed (e : Event)
  | prosumer (state : ProsumerState)
  | privateEvent
  deriving DecidableEq, Repr

def getRunStep : EventType → AgentRunStep
  | .start => .start
  | .channelAppendSurface _ _ => .appendSurface
  | .channelRemoveSurface _ => .removeSurface
  | .playStart => .play
  | .playStop => .playStop
  | .prosumerError _ => .destroy
  | .destroy => .destroy
  | _ => .idle

def getRunStepWeight : AgentRunStep → AgentRunStepWeight
  | .start => .start
  | .appendSurface | .removeSurface | .play | .playStop => .reusable
  | .destroy => .destroy
  | _ => .idle

/-- An event that asks for a step: only these are kept for later. -/
abbrev StepEvent := { e : Event // getRunStep e.type ≠ .idle }

def runStepKey (e : Event) : AgentRunStepKey where
  requestId := e.requestId
  stepType := getRunStep e.type
  weight := getRunStepWeight (getRunStep e.type)

end Agent

open Agent in
structure Agent where
  agentType : AgentType
  session : Bool := false
  prosumerId : BitVec 32 := 0
  mediaChannelId : BitVec 32 := 0
  runEvents : OrderedMap AgentRunStepKey StepEvent := .empty
  runStep : AgentRunStep := .idle
  runningStatus : AgentRunningStatus := .idle

namespace Agent

variable (a : Agent)

def setRunningStatus (step : AgentRunStep) (status : AgentRunningStatus) : Agent :=
  { a with runStep := step, runningStatus := status }

/-- `created`: there is a session for the class name. -/
def createSession (created : Bool) : Agent × ErrorCode :=
  if created then ({ a with session := true }.setRunningStatus .create .done, .ok)
  else ({ a with session := false }.setRunningStatus .create .error, .sessionCreate)

def cache (e : StepEvent) : Agent := { a with runEvents := a.runEvents.emplace (runStepKey e.1) e }

/-- The agent behind the check, the code it returns and whether the event was cached. -/
def checkRunStep (e : Event) : Agent × ErrorCode × Bool :=
  if h : getRunStep e.type = .idle then (a, .ok, false)
  else
    let step := getRunStep e.type
    match a.runningStatus with
    | .done =>
      if a.runStep = .destroy then (a, .generalError, false)
      else if a.runStep.value < AgentRunStep.start.value ∧ AgentRunStep.start.value < step.value ∧
          step.value < AgentRunStep.destroy.value then (a.cache ⟨e, h⟩, .ok, true)
      else (a.setRunningStatus step .running, .ok, false)
    | .running =>
      if step = a.runStep ∨ AgentRunStep.destroy.value ≤ a.runStep.value ∨
          (a.runEvents.find? (runStepKey e)).isSome then (a, .generalError, false)
      else if step = .destroy ∧ a.runStep.value < step.value then
        ((a.setRunningStatus a.runStep .interrupt).cache ⟨e, h⟩, .ok, true)
      else (a.cache ⟨e, h⟩, .ok, true)
    | .error =>
      if step = .destroy then (a.setRunningStatus step .running, .ok, false)
      else (a, .generalError, false)
    | _ => (a, .ok, false)

def updateSessionStatus (status : SessionStatus) (e : Event) : List Output :=
  if a.session then [.updateOperation status e] else []

def sendChannelEvent (request : ChannelRequest) (e : Event) : List Output :=
  [.channel a.mediaChannelId a.prosumerId request e]

def sendInteractionEvent (notice : InteractionNotice) (e : Event) : List Output :=
  [.interaction notice e.requestId e.errorCode]

/-- The channel of a sink, the context of a source. -/
def sendDestroyed (e : Event) : List Output :=
  match a.agentType with
  | .sink => a.sendChannelEvent .destroy e
  | .src => [.contextAgentDestroyed e]

def handleProsumerError (e : Event) : List Output :=
  sendInteractionEvent .msgError e ++
    match e.errorCode with
    | .prosumerInit | .prosumerCreate | .prosumerStart | .prosumerVideoCapture | .prosumerTimeout =>
      a.updateSessionStatus .stop e
    | .prosumerStop => a.updateSessionStatus .destroy e
    | .prosumerDestroy => a.sendDestroyed e
    | _ => []

/-- `HandleEvent` up to its switch over the event types. -/
def handleEventWith (e : Event) (switch : Agent → Event → Agent × List Output) : Agent × ErrorCode × List Output :=
  let a := match e.type with
    | .prosumerError _ => a.setRunningStatus a.runStep .error
    | _ => a
  let (a, retCode, isCached) := a.checkRunStep e
  if (retCode ≠ .ok ∨ isCached) ∧ a.runningStatus ≠ .interrupt then (a, retCode, [])
  else if a.runningStatus = .interrupt then (a, retCode, a.updateSessionStatus .interrupt e)
  else
    let (a, outputs) := switch a e
    (a, .ok, outputs)

/-- The branches for the events that ask for a step. -/
def switchStep (e : Event) : Agent × List Output :=
  match e.type with
  | .start => (a, a.updateSessionStatus .start e)
  | .destroy => (a, a.updateSessionStatus .stop e)
  | .prosumerError _ => (a, a.handleProsumerError e)
  | .playStart => (a, a.sendChannelEvent .playStart e)
  | .playStop => (a, a.sendChannelEvent .playStop e)
  | .channelAppendSurface surface sceneType =>
    (a, a.sendChannelEvent (.appendSurface surface sceneType) e)
  | .channelRemoveSurface surfaceId => (a, a.sendChannelEvent (.removeSurface surfaceId) e)
  | _ => (a, [])

/-- `PopNextStep`, which hands the first event that is kept to `HandleEvent`. -/
def popNextStep (step : AgentRunStep) (status : AgentRunningStatus) : Agent × List Output :=
  if step ≠ a.runStep then (a, [])
  else
    let a := a.setRunningStatus step status
    match a.runEvents.begin? with
    | none => (a, [])
    | some (key, e) =>
      let (a, _, outputs) := { a with runEvents := a.runEvents.erase key }.handleEventWith e.1 switchStep
      (a, outputs)

def pushNextStep (e : Event) : Agent × List Output :=
  match e.type with
  | .stateProsumer .start _ => a.popNextStep .start .done
  | .stateProsumer .stop _ => (a, a.updateSessionStatus .destroy e)
  | .stateProsumer .destroy _ =>
    let (a, outputs) := a.popNextStep .destroy .done
    (a, outputs ++ a.sendDestroyed e)
  | .statePlayStart => a.popNextStep .play .done
  | .statePlayStop => a.popNextStep .playStop .done
  | .stateChannelAppendSurface => a.popNextStep .appendSurface .done
  | .stateChannelRemoveSurface _ => a.popNextStep .removeSurface .done
  | _ => (a, [])

def handleProsumerState (state : ProsumerState) (prosumerId : BitVec 32) (e : Event) :
    Agent × List Output :=
  if a.session then
    let (a, outputs) := a.pushNextStep e
    (a, .updateMediaStatus state prosumerId e :: outputs)
  else (a, [])

/-- An answer of the media channel. -/
def handleAnswer (e : Event) : Agent × List Output :=
  if e.errorCode = .ok then a.pushNextStep e else (a.setRunningStatus a.runStep .error, [])

def switch (e : Event) : Agent × List Output :=
  match e.type with
  | .pause mediaType => (a, a.updateSessionStatus (.pause mediaType) e)
  | .resume mediaType => (a, a.updateSessionStatus (.resume mediaType) e)
  | .stateProsumer .create prosumerId =>
    { a with prosumerId }.handleProsumerState .create prosumerId e
  | .stateProsumer state prosumerId => a.handleProsumerState state prosumerId e
  | .statePlayStart | .statePlayStop | .stateChannelAppendSurface => a.handleAnswer e
  | .stateChannelRemoveSurface surfaceId =>
    let (a, outputs) := a.pushNextStep e
    (a, outputs ++ sendInteractionEvent (.stateRemoveSurface surfaceId) e)
  | .channelSetSceneType surfaceId sceneType =>
    (a, a.sendChannelEvent (.setSceneType surfaceId sceneType) e)
  | .channelSetVolume volume => (a, a.sendChannelEvent (.setVolume volume) e)
  | .channelSetKeyRedirect surfaceId keyRedirect =>
    (a, a.sendChannelEvent (.keyRedirect surfaceId keyRedirect) e)
  | .accelerationDone surfaceId => (a, sendInteractionEvent (.accelerationDone surfaceId) e)
  | .decoderDied surfaceId => (a, sendInteractionEvent (.decoderDied surfaceId) e)
  | .other _ => (a, if a.session then [.sessionEvent e] else [])
  | _ => a.switchStep e

def handleEvent (e : Event) : Agent × ErrorCode × List Output := a.handleEventWith e switch

/-- An event that was kept is handled as one that arrives. -/
theorem handleEvent_stepEvent (e : StepEvent) : a.handleEvent e.1 = a.handleEventWith e.1 switchStep := by
  obtain ⟨⟨type, requestId, errorCode⟩, hstep⟩ := e
  cases type <;> first | rfl | exact absurd rfl hstep

/-- The notifications of the session. -/
inductive Notification where
  | error (requestId : BitVec 32) (code : ErrorCode)
  | prosumer (state : ProsumerState)
  | interrupted
  | privateEvent
  | other
  deriving DecidableEq, Repr

def handleSessionError (requestId : BitVec 32) (code : ErrorCode) : Agent × List Output :=
  let notice : List Output := [.interaction .msgError requestId code]
  match code with
  | .sessionStart | .connectionFailure | .invalidUrl | .decodeFormat | .unauthorized
  | .interactionFailure | .protocolInteractionTimeout | .networkError | .intakeTimeout =>
    let (a, outputs) := a.popNextStep a.runStep .error
    (a, notice ++ outputs)
  | _ => (a, notice)

/-- `OnSessionNotify` of a sink, and of a source, which differ in the names of the events. -/
def onSessionNotify : Notification → Agent × List Output
  | .error requestId code => a.handleSessionError requestId code
  | .prosumer state => (a, [.prosumer state])
  | .interrupted => a.popNextStep a.runStep .done
  | .privateEvent => (a, [.privateEvent])
  | .other => (a, [])

end Agent

end WifiDisplay
