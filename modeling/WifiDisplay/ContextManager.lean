import WifiDisplay.Context

/-! `ContextManager`: its contexts, and the threads that create agents and handle destroyed
channels, one section under a `mutex_` at a time. -/

namespace WifiDisplay

def Context.agentSize (c : Context) : AgentType → Nat
  | .sink => c.getSinkAgentSize
  | .src => c.getSrcAgentSize

structure ContextLimits where
  maxContext : BitVec 32 := 20
  maxSrcAgent : BitVec 32 := 20
  maxSinkAgent : BitVec 32 := 20
  deriving DecidableEq, Repr

def ContextLimits.agentLimit (limits : ContextLimits) : AgentType → BitVec 32
  | .sink => limits.maxSinkAgent
  | .src => limits.maxSrcAgent

/-- `contexts` holds the keys of `contexts_`; a thread may still hold a context that was
removed from there. -/
structure ContextManager where
  contexts : Finset (BitVec 32) := ∅
  objects : BitVec 32 → Context := fun _ => {}

namespace ContextManager

variable (m : ContextManager) (limits : ContextLimits)

def invalidId : BitVec 32 := 0

def agentSize (agentType : AgentType) : Nat := ∑ id ∈ m.contexts, (m.objects id).agentSize agentType

def checkAgentSize (agentType : AgentType) : Bool :=
  (m.agentSize agentType : Int) < (limits.agentLimit agentType).toInt

/-- `EVENT_CONTEXTMGR_AGENT_CREATE`; `contextId` is what `Identifier` makes for a context. -/
structure AgentCreate where
  dstId : BitVec 32
  contextId : BitVec 32
  agent : Context.Creation
  deriving DecidableEq, Repr

inductive Event where
  | agentCreate (r : AgentCreate)
  | stateChannelDestroy (dstId agentId : BitVec 32)
  deriving DecidableEq, Repr

/-- What a thread has a context do: to create an agent, where `made` says that the context was
made for it, or to remove one. -/
inductive Purpose where
  | create (made : Bool)
  | destroy
  deriving DecidableEq, Repr

/-- What a thread is to do next. -/
inductive Task where
  | idle
  | checkAgentSize (r : AgentCreate)
  | getContextById (r : AgentCreate)
  | handleContextCreate (r : AgentCreate)
  | handleContextEvent (dstId : BitVec 32) (r : Context.Creation) (made : Bool)
  | handleMediachannelDestroy (dstId agentId : BitVec 32)
  | handleEvent (dstId : BitVec 32) (e : Context.Event) (purpose : Purpose)
  | inContext (dstId : BitVec 32) (task : Context.Task) (purpose : Purpose)
  | isEmptyAgent (dstId : BitVec 32)
  | destroyContext (dstId : BitVec 32)
  deriving DecidableEq, Repr

/-- The ends of the events that create, and the agents that were removed. -/
inductive Report where
  | created (dstId agentId : BitVec 32)
  | failed (made : Bool)
  | removed (dstId agentId : BitVec 32)
  deriving DecidableEq, Repr

def begin : Event → Task
  | .agentCreate r => .checkAgentSize r
  | .stateChannelDestroy dstId agentId => .handleMediachannelDestroy dstId agentId

/-- The section of the context was the last one for the event. -/
def leave (dstId : BitVec 32) (task : Context.Task) : Purpose → Task × List Report
  | .create made =>
    match task with
    | .insert a => (.idle, [.created dstId a.agentId])
    | _ => (.idle, [.failed made])
  | .destroy => (.isEmptyAgent dstId, [])

def removedBy (dstId : BitVec 32) : Context.Task → List Report
  | .removeAgent a => [.removed dstId a.agentId]
  | _ => []

def createContext (contextId : BitVec 32) : ContextManager :=
  if contextId ∈ m.contexts then m
  else { contexts := insert contextId m.contexts, objects := Function.update m.objects contextId {} }

def releaseContext (contextId : BitVec 32) : ContextManager :=
  if contextId ∈ m.contexts then
    { contexts := m.contexts.erase contextId
      objects := Function.update m.objects contextId (m.objects contextId).release }
  else m

def advance : Task → ContextManager × Task × List Report
  | .idle => (m, .idle, [])
  | .checkAgentSize r =>
    if m.checkAgentSize limits r.agent.agentType then (m, .getContextById r, [])
    else (m, .idle, [.failed false])
  | .getContextById r =>
    if r.dstId = invalidId ∨ r.dstId ∉ m.contexts then (m, .handleContextCreate r, [])
    else (m, .handleContextEvent r.dstId r.agent false, [])
  | .handleContextCreate r =>
    if limits.maxContext.toNat ≤ m.contexts.card then (m, .idle, [.failed false])
    else if r.contextId = invalidId then (m.createContext r.contextId, .idle, [.failed true])
    else (m.createContext r.contextId, .handleContextEvent r.contextId r.agent true, [])
  | .handleContextEvent dstId r made =>
    if dstId ∈ m.contexts then (m, .handleEvent dstId (.agentCreate r) (.create made), [])
    else (m, .idle, [.failed made])
  | .handleMediachannelDestroy dstId agentId =>
    if dstId ∈ m.contexts then (m, .handleEvent dstId (.stateAgentDestroy agentId) .destroy, [])
    else (m, .idle, [])
  | .handleEvent dstId e purpose =>
    if (m.objects dstId).destroying then (m, leave dstId .idle purpose)
    else (m, .inContext dstId (Context.begin e) purpose, [])
  | .inContext dstId task purpose =>
    let (context, next, _) := (m.objects dstId).advance task
    let m := { m with objects := Function.update m.objects dstId context }
    if next = .idle then
      let (next, reports) := leave dstId task purpose
      (m, next, removedBy dstId task ++ reports)
    else (m, .inContext dstId next purpose, removedBy dstId task)
  | .isEmptyAgent dstId =>
    if (m.objects dstId).isEmptyAgent then (m, .destroyContext dstId, []) else (m, .idle, [])
  | .destroyContext dstId => (m.releaseContext dstId, .idle, [])

end ContextManager

/-- The manager with the threads that handle its events, and what they report. -/
structure ManagerThreads (ι : Type*) where
  manager : ContextManager := {}
  tasks : ι → ContextManager.Task := fun _ => .idle
  reports : List ContextManager.Report := []

namespace ManagerThreads

open ContextManager

variable {ι : Type*} [DecidableEq ι]

inductive Move (ι : Type*) where
  | event (i : ι) (e : Event)
  | run (i : ι)

/-- The thread has still to do what came before. -/
inductive Blocked where
  | busy

def step (limits : ContextLimits) (s : ManagerThreads ι) : Move ι → Except Blocked (ManagerThreads ι)
  | .event i e =>
    if s.tasks i ≠ .idle then .error .busy
    else .ok { s with tasks := Function.update s.tasks i (begin e) }
  | .run i =>
    let (manager, task, reports) := s.manager.advance limits (s.tasks i)
    .ok { manager, tasks := Function.update s.tasks i task, reports := s.reports ++ reports }

end ManagerThreads

end WifiDisplay
