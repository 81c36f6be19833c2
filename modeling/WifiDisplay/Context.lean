import WifiDisplay.Agent
import WifiDisplay.GuardedRuns
import WifiDisplay.Tally
import Mathlib.Data.Finset.Basic

/-! `Context`: its agents, and the threads that create, destroy and remove them, one section
under `mutex_` at a time. -/

namespace WifiDisplay

/-- An agent of a context; a source refers to its sink. -/
inductive ContextAgent where
  | sink (agentId : BitVec 32)
  | src (agentId sinkAgentId : BitVec 32)
  deriving DecidableEq, Repr

namespace ContextAgent

def agentId : ContextAgent → BitVec 32
  | sink agentId => agentId
  | src agentId _ => agentId

def agentType : ContextAgent → AgentType
  | sink _ => .sink
  | src _ _ => .src

def attachedTo (sinkAgentId : BitVec 32) : ContextAgent → Bool
  | sink _ => false
  | src _ sinkAgentId' => sinkAgentId' = sinkAgentId

end ContextAgent

/-- `destroy` holds the ids of the agents with the mark of `SetDestroy`, which an agent keeps
when it is removed. -/
structure Context where
  agents : List ContextAgent := []
  destroy : Finset (BitVec 32) := ∅
  destroying : Bool := false
  deriving DecidableEq

namespace Context

variable (c : Context)

def release : Context := { c with agents := [], destroying := true }

def getAgentById (agentId : BitVec 32) : Option ContextAgent :=
  c.agents.find? fun a => a.agentId = agentId

def isEmptySrcAgent (sinkAgentId : BitVec 32) : Bool := c.agents.all fun a => !a.attachedTo sinkAgentId

def getSinkAgentSize : Nat := c.agents.countP fun a => a.agentType = .sink

def getSrcAgentSize : Nat := c.agents.countP fun a => a.agentType = .src

def isEmptyAgent : Bool := c.agents.isEmpty

/-- `agents_.emplace`. -/
def emplace (a : ContextAgent) : Context :=
  if (c.getAgentById a.agentId).isSome then c else { c with agents := c.agents ++ [a] }

def removeAgent (agentId : BitVec 32) : Context :=
  { c with agents := c.agents.filter fun a => a.agentId ≠ agentId }

def setDestroy (agentId : BitVec 32) : Context := { c with destroy := insert agentId c.destroy }

/-- A request to `HandleCreateAgent`; `agentId` is what `Identifier` makes for the agent, and
`session` says that there is a session for the class name. -/
structure Creation where
  agentType : AgentType
  sinkAgentId : BitVec 32
  agentId : BitVec 32
  session : Bool
  deriving DecidableEq, Repr

/-- `HandleCreateAgent` up to its last section: the agent that is to be inserted. -/
def makeAgent (r : Creation) : Option ContextAgent :=
  match r.agentType with
  | .sink => if r.session then some (.sink r.agentId) else none
  | .src =>
    match c.getAgentById r.sinkAgentId with
    | some _ =>
      if r.sinkAgentId ∈ c.destroy then none
      else if r.session then some (.src r.agentId r.sinkAgentId)
      else none
    | none => none

inductive Event where
  | agentCreate (r : Creation)
  | agentDestroy (agentId : BitVec 32)
  | stateAgentDestroy (agentId : BitVec 32)
  deriving DecidableEq, Repr

/-- What a thread is to do next. -/
inductive Task where
  | idle
  | makeAgent (r : Creation)
  | insert (a : ContextAgent)
  | handleAgentDestroy (agentId : BitVec 32)
  | setDestroy (sinkAgentId : BitVec 32)
  | isEmptySrcAgent (sinkAgentId : BitVec 32)
  | destroySrcAgents (sinkAgentId : BitVec 32)
  | handleStateDestroyAgent (agentId : BitVec 32)
  | removeAgent (a : ContextAgent)
  | checkNeedDestroySink (sinkAgentId : BitVec 32)
  | getDestroy (sinkAgentId : BitVec 32)
  | checkEmptySrcAgent (sinkAgentId : BitVec 32)
  deriving DecidableEq, Repr

/-- An `EVENT_AGENT_DESTROY`: to a source that it asks for, to a source as a destroyed sink
has sources, and to a sink. -/
inductive Sent where
  | direct (agentId : BitVec 32)
  | toSrc (sinkAgentId : BitVec 32) (a : ContextAgent)
  | toSink (sinkAgentId : BitVec 32)
  deriving DecidableEq, Repr

def begin : Event → Task
  | .agentCreate r => .makeAgent r
  | .agentDestroy agentId => .handleAgentDestroy agentId
  | .stateAgentDestroy agentId => .handleStateDestroyAgent agentId

def advance : Task → Context × Task × List Sent
  | .idle => (c, .idle, [])
  | .makeAgent r =>
    match c.makeAgent r with
    | some a => (c, .insert a, [])
    | none => (c, .idle, [])
  | .insert a => (c.emplace a, .idle, [])
  | .handleAgentDestroy agentId =>
    match c.getAgentById agentId with
    | none => (c, .idle, [])
    | some (.src _ _) => (c, .idle, [.direct agentId])
    | some (.sink _) => (c, .setDestroy agentId, [])
  | .setDestroy sinkAgentId => (c.setDestroy sinkAgentId, .isEmptySrcAgent sinkAgentId, [])
  | .isEmptySrcAgent sinkAgentId =>
    if c.isEmptySrcAgent sinkAgentId then (c, .idle, [.toSink sinkAgentId])
    else (c, .destroySrcAgents sinkAgentId, [])
  | .destroySrcAgents sinkAgentId =>
    (c, .idle, (c.agents.filter fun a => a.agentType = .src).map (.toSrc sinkAgentId))
  | .handleStateDestroyAgent agentId =>
    match c.getAgentById agentId with
    | none => (c, .idle, [])
    | some a => (c, .removeAgent a, [])
  | .removeAgent a =>
    match a with
    | .src agentId sinkAgentId => (c.removeAgent agentId, .checkNeedDestroySink sinkAgentId, [])
    | .sink agentId => (c.removeAgent agentId, .idle, [])
  | .checkNeedDestroySink sinkAgentId =>
    match c.getAgentById sinkAgentId with
    | none => (c, .idle, [])
    | some _ => (c, .getDestroy sinkAgentId, [])
  | .getDestroy sinkAgentId =>
    if sinkAgentId ∈ c.destroy then (c, .checkEmptySrcAgent sinkAgentId, []) else (c, .idle, [])
  | .checkEmptySrcAgent sinkAgentId =>
    if c.isEmptySrcAgent sinkAgentId then (c, .idle, [.toSink sinkAgentId]) else (c, .idle, [])

end Context

/-- A context with the threads that handle its events, and what was sent to its agents. -/
structure ContextThreads (ι : Type*) where
  context : Context := {}
  tasks : ι → Context.Task := fun _ => .idle
  sent : List Context.Sent := []

namespace ContextThreads

open Context

variable {ι : Type*} [DecidableEq ι]

inductive Move (ι : Type*) where
  | event (i : ι) (e : Event)
  | run (i : ι)

/-- The thread has still to do what came before. -/
inductive Blocked where
  | busy

def step (s : ContextThreads ι) : Move ι → Except Blocked (ContextThreads ι)
  | .event i e =>
    if s.tasks i ≠ .idle then .error .busy
    else if s.context.destroying then .ok s
    else .ok { s with tasks := Function.update s.tasks i (begin e) }
  | .run i =>
    let (context, task, sent) := s.context.advance (s.tasks i)
    .ok { context, tasks := Function.update s.tasks i task, sent := s.sent ++ sent }

end ContextThreads

end WifiDisplay
