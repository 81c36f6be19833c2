import WifiDisplay.Agent

/-! `ChannelManager` and `MediaChannel`: the requests of the agents to a channel, and what it
sends back. -/

namespace WifiDisplay

inductive ConsumerClass where
  | wfdRtpConsumer
  | screenCaptureConsumer
  deriving DecidableEq, Repr

structure BaseConsumer where
  className : ConsumerClass
  id : BitVec 32
  sinkAgentId : BitVec 32 := 0
  isRunning : Bool := false
  deriving DecidableEq, Repr

/-- A `WfdRtpProducer`. -/
structure BaseProducer where
  id : BitVec 32
  srcAgentId : BitVec 32 := 0
  isRunning : Bool := false
  deriving DecidableEq, Repr

inductive ProsumerOperation where
  | init
  | start
  | stop
  | destroy
  deriving DecidableEq, Repr

inductive ProsumerNotify where
  | initSuccess
  | startSuccess
  | stopSuccess
  | destroySuccess
  | error
  deriving DecidableEq, Repr

/-- How the operations end that a request leads to: what is made for the class name, and what
the prosumer, the dispatcher and the play controller make of it. `playing` says that something
plays behind `MediaController::Start`, which returns nothing. -/
structure OperationResults where
  consumer : Option (ConsumerClass × BitVec 32) := none
  producer : Option (BitVec 32) := none
  initialised : Bool := true
  started : Bool := true
  stopped : Bool := true
  attached : Bool := true
  controllerInit : Bool := true
  surfaceAppended : Bool := true
  playing : Bool := true
  deriving DecidableEq, Repr

def BaseConsumer.updateOperation (c : BaseConsumer) (r : OperationResults) :
    ProsumerOperation → BaseConsumer × ProsumerNotify × Agent.ErrorCode
  | .init =>
    match c.className with
    | .wfdRtpConsumer => (c, .initSuccess, if r.initialised then .ok else .prosumerCreate)
    | .screenCaptureConsumer => (c, .initSuccess, .ok)
  | .start =>
    match c.className with
    | .wfdRtpConsumer =>
      if r.started then ({ c with isRunning := true }, .startSuccess, .ok)
      else (c, .error, .prosumerStart)
    | .screenCaptureConsumer => (c, .startSuccess, .ok)
  | .stop =>
    match c.className with
    | .wfdRtpConsumer => ({ c with isRunning := false }, .stopSuccess, .ok)
    | .screenCaptureConsumer =>
      if r.stopped then ({ c with isRunning := false }, .stopSuccess, .ok)
      else (c, .error, .prosumerStop)
  | .destroy => ({ c with isRunning := false }, .destroySuccess, .ok)

def BaseProducer.updateOperation (p : BaseProducer) (r : OperationResults) :
    ProsumerOperation → BaseProducer × ProsumerNotify × Agent.ErrorCode
  | .init => (p, .initSuccess, .ok)
  | .start =>
    if r.started then ({ p with isRunning := true }, .startSuccess, .ok)
    else (p, .error, .prosumerStart)
  | .stop =>
    if r.stopped then ({ p with isRunning := false }, .stopSuccess, .ok)
    else ({ p with isRunning := false }, .error, .prosumerStop)
  | .destroy => ({ p with isRunning := false }, .destroySuccess, .ok)

/-- The requests that an agent has a step running for. A surface stands for its unique id. -/
inductive ChannelOperation where
  | consumerCreate
  | consumerDestroy
  | consumerStart
  | consumerStop
  | producerCreate
  | producerDestroy
  | producerStart
  | producerStop
  | appendSurface (surface : Option (BitVec 64))
  | removeSurface (surfaceId : BitVec 64)
  | playStart
  | playStop
  deriving DecidableEq, Repr

structure ChannelEventMsg where
  operation : ChannelOperation
  dstId : BitVec 32
  agentId : BitVec 32
  requestId : BitVec 32
  prosumerId : BitVec 32 := 0
  deriving DecidableEq, Repr

/-- An `AgentEventMsg` from a channel. -/
structure ChannelAnswer where
  srcId : BitVec 32
  dstId : BitVec 32
  agentId : BitVec 32
  event : Agent.Event
  deriving DecidableEq, Repr

/-- `playController` says that there is one. -/
structure MediaChannel where
  id : BitVec 32
  srcContextId : BitVec 32 := 0
  consumer : Option BaseConsumer := none
  producers : AList (fun _ : BitVec 32 => BaseProducer) := ∅
  playController : Bool := true

def errInvalidSurfaceId : Agent.ErrorCode := .other 18800101

def errPlayStart : Agent.ErrorCode := .other 18800608

def errPlayStop : Agent.ErrorCode := .other 18800609

namespace MediaChannel

variable (m : MediaChannel) (e : ChannelEventMsg) (r : OperationResults)

def sendAgentEvent (requestId agentId : BitVec 32) (errorCode : Agent.ErrorCode)
    (type : Agent.EventType) : ChannelAnswer where
  srcId := m.id
  dstId := m.srcContextId
  agentId := agentId
  event := { type, requestId, errorCode }

def initPlayController : MediaChannel × Agent.ErrorCode :=
  if m.playController ∧ ¬ r.controllerInit then ({ m with playController := false }, .decodeFormat)
  else (m, .ok)

/-- `UpdateOperation` of the consumer, with its `Notify` and `OnConsumerNotify`. -/
def updateConsumer (c : BaseConsumer) (operation : ProsumerOperation) :
    MediaChannel × List ChannelAnswer :=
  let (c, status, errorCode) := c.updateOperation r operation
  let m := { m with consumer := some c }
  match status with
  | .initSuccess =>
    (m, [m.sendAgentEvent e.requestId c.sinkAgentId errorCode (.stateProsumer .create c.id)])
  | .startSuccess =>
    let (m, errorCode) := m.initPlayController r
    (m, [m.sendAgentEvent e.requestId c.sinkAgentId errorCode (.stateProsumer .start c.id)])
  | .stopSuccess =>
    (m, [m.sendAgentEvent e.requestId c.sinkAgentId errorCode (.stateProsumer .stop c.id)])
  | .destroySuccess =>
    (m, [m.sendAgentEvent e.requestId c.sinkAgentId errorCode (.stateProsumer .destroy c.id)])
  | .error => (m, [m.sendAgentEvent e.requestId c.sinkAgentId errorCode (.prosumerError c.id)])

/-- `UpdateOperation` of a producer, with its `Notify` and `OnProducerNotify`. -/
def updateProducer (p : BaseProducer) (operation : ProsumerOperation) :
    MediaChannel × List ChannelAnswer :=
  let (p, status, errorCode) := p.updateOperation r operation
  let m := { m with producers := m.producers.insert p.id p }
  match status with
  | .initSuccess =>
    (m, [m.sendAgentEvent e.requestId p.srcAgentId errorCode (.stateProsumer .create p.id)])
  | .startSuccess =>
    (m, [m.sendAgentEvent e.requestId p.srcAgentId errorCode (.stateProsumer .start p.id)])
  | .stopSuccess =>
    (m, [m.sendAgentEvent e.requestId p.srcAgentId errorCode (.stateProsumer .stop p.id)])
  | .destroySuccess =>
    ({ m with producers := m.producers.erase p.id },
      [m.sendAgentEvent e.requestId p.srcAgentId errorCode (.stateProsumer .destroy p.id)])
  | .error => (m, [m.sendAgentEvent e.requestId p.srcAgentId errorCode (.prosumerError p.id)])

/-- An answer with the ids of the request. -/
def answer (errorCode : Agent.ErrorCode) (type : Agent.EventType) :
    MediaChannel × List ChannelAnswer :=
  (m, [m.sendAgentEvent e.requestId e.agentId errorCode type])

def invalidId : BitVec 32 := 0

def handleAppendSurface (surface : Option (BitVec 64)) : MediaChannel × List ChannelAnswer :=
  match m.consumer with
  | none => (m, [])
  | some c =>
    if surface.isSome ∧ m.playController then
      if r.surfaceAppended then
        (m, [m.sendAgentEvent e.requestId c.sinkAgentId .ok .stateChannelAppendSurface])
      else m.answer e errInvalidSurfaceId .stateChannelAppendSurface
    else m.answer e errPlayStart .stateChannelAppendSurface

def handleRemoveSurface (surfaceId : BitVec 64) : MediaChannel × List ChannelAnswer :=
  match m.consumer with
  | none => (m, [])
  | some c =>
    (m, [m.sendAgentEvent e.requestId c.sinkAgentId .ok (.stateChannelRemoveSurface surfaceId)])

def handleStartPlay : MediaChannel × List ChannelAnswer :=
  m.answer e (if m.playController then .ok else errPlayStart) .statePlayStart

def handleStopPlay : MediaChannel × List ChannelAnswer :=
  m.answer e (if m.playController then .ok else errPlayStop) .statePlayStop

def handleCreateConsumer : MediaChannel × List ChannelAnswer :=
  match r.consumer with
  | none => { m with consumer := none }.answer e .prosumerCreate (.prosumerError invalidId)
  | some (className, id) =>
    m.updateConsumer e r { className, id, sinkAgentId := e.agentId } .init

def handleDestroyConsumer : MediaChannel × List ChannelAnswer :=
  match m.consumer with
  | none => m.answer e .ok (.stateProsumer .destroy invalidId)
  | some c =>
    if c.isRunning then m.answer e .prosumerDestroy (.prosumerError c.id)
    else m.updateConsumer e r c .destroy

def handleStartConsumer : MediaChannel × List ChannelAnswer :=
  match m.consumer with
  | none => m.answer e .prosumerStart (.prosumerError invalidId)
  | some c => m.updateConsumer e r c .start

def handleStopConsumer : MediaChannel × List ChannelAnswer :=
  match m.consumer with
  | none => m.answer e .ok (.stateProsumer .stop invalidId)
  | some c => m.updateConsumer e r c .stop

def handleCreateProducer : MediaChannel × List ChannelAnswer :=
  match r.producer with
  | none => m.answer e .prosumerCreate (.prosumerError invalidId)
  | some id => m.updateProducer e r { id, srcAgentId := e.agentId } .init

def handleDestroyProducer : MediaChannel × List ChannelAnswer :=
  match m.producers.lookup e.prosumerId with
  | none => m.answer e .ok (.stateProsumer .destroy e.prosumerId)
  | some p =>
    if p.isRunning then m.answer e .prosumerDestroy (.prosumerError e.prosumerId)
    else m.updateProducer e r p .destroy

def handleStartProducer : MediaChannel × List ChannelAnswer :=
  match m.producers.lookup e.prosumerId with
  | none => m.answer e .prosumerStart (.prosumerError e.prosumerId)
  | some p =>
    if r.attached then m.updateProducer e r p .start
    else m.answer e .prosumerStart (.prosumerError e.prosumerId)

def handleStopProducer : MediaChannel × List ChannelAnswer :=
  match m.producers.lookup e.prosumerId with
  | none => m.answer e .ok (.stateProsumer .stop e.prosumerId)
  | some p => m.updateProducer e r p .stop

def handleEvent : MediaChannel × List ChannelAnswer :=
  match e.operation with
  | .consumerCreate => m.handleCreateConsumer e r
  | .consumerDestroy => m.handleDestroyConsumer e r
  | .consumerStart => m.handleStartConsumer e r
  | .consumerStop => m.handleStopConsumer e r
  | .producerCreate => m.handleCreateProducer e r
  | .producerDestroy => m.handleDestroyProducer e r
  | .producerStart => m.handleStartProducer e r
  | .producerStop => m.handleStopProducer e r
  | .appendSurface surface => m.handleAppendSurface e r surface
  | .removeSurface surfaceId => m.handleRemoveSurface e surfaceId
  | .playStart => m.handleStartPlay e
  | .playStop => m.handleStopPlay e

end MediaChannel

structure ChannelManager where
  mediaChannels : AList (fun _ : BitVec 32 => MediaChannel) := ∅

/-- `HandleEvent` for the requests to a channel. -/
def ChannelManager.handleEvent (m : ChannelManager) (e : ChannelEventMsg) (r : OperationResults) :
    ChannelManager × List ChannelAnswer :=
  match m.mediaChannels.lookup e.dstId with
  | none => (m, [])
  | some mediaChannel =>
    let (mediaChannel, answers) := mediaChannel.handleEvent e r
    ({ mediaChannels := m.mediaChannels.insert e.dstId mediaChannel }, answers)

end WifiDisplay
