import WifiDisplay.ContextManager

/-! `EventManager::PushSyncEvent` with the threads of `TaskPool`, and `Interaction::CreateAgent`,
which reads its answer out of a message that the handler has in its hands as well. -/

namespace WifiDisplay

/-- `session` says that there is a session for the class name. -/
structure ContextEventMsg where
  dstId : BitVec 32
  agentId : BitVec 32
  agentType : AgentType
  session : Bool
  deriving DecidableEq

/-- The message of `CreateAgent`, with the ids that its caller came with, or another one. -/
inductive SharingEvent where
  | agentCreate (contextId agentId : BitVec 32) (msg : ContextEventMsg)
  | other
  deriving DecidableEq

/-- What `PushSyncEvent` is called for. -/
inductive SyncRequest where
  | createAgent (contextId agentId : BitVec 32) (agentType : AgentType) (session : Bool)
  | other
  deriving DecidableEq

namespace SyncRequest

def event : SyncRequest → SharingEvent
  | createAgent contextId agentId agentType session =>
    .agentCreate contextId agentId { dstId := contextId, agentId, agentType, session }
  | other => .other

end SyncRequest

inductive SyncTask where
  | made
  | queued
  | running (task : ContextManager.Task)
  | returned (ret : Int32)
  deriving DecidableEq

/-- Where the thread that pushes the event stands. -/
inductive SyncCaller where
  | noMessage
  | noListener
  | pushTask
  | waitFor
  | ready (ret : Int32)
  | timeout
  deriving DecidableEq

/-- `created` is the id of the agent that the handler has inserted. -/
structure SyncCall where
  event : Option SharingEvent
  caller : SyncCaller
  task : SyncTask := .made
  created : Option (BitVec 32) := none
  deriving DecidableEq

namespace SyncCall

/-- What `PushSyncEvent` has returned. -/
def returned (c : SyncCall) : Option Int32 :=
  match c.caller with
  | .noMessage | .timeout => some (-1)
  | .noListener => some 0
  | .ready ret => some ret
  | .pushTask | .waitFor => none

end SyncCall

/-- What `CreateAgent` returns, and the ids that it leaves to its caller. -/
structure AgentCreated where
  ret : Int32
  contextId : BitVec 32
  agentId : BitVec 32
  deriving DecidableEq

def SyncCall.createAgent (c : SyncCall) : Option AgentCreated :=
  match c.event, c.returned with
  | some (.agentCreate contextId agentId msg), some ret =>
    if ret ≠ -1 then
      let agentId :=
        if agentId = msg.agentId ∨ msg.agentId = ContextManager.invalidId then ContextManager.invalidId
        else msg.agentId
      some { ret, contextId := msg.dstId, agentId }
    else some { ret, contextId, agentId }
  | _, _ => none

namespace ContextEventMsg

/-- The event for the contexts, with the ids that `Identifier` makes for its handler. -/
def event (msg : ContextEventMsg) (contextId agentId : BitVec 32) : ContextManager.AgentCreate where
  dstId := msg.dstId
  contextId := contextId
  agent := { agentType := msg.agentType, sinkAgentId := msg.agentId, agentId, session := msg.session }

/-- What a section of the handler writes into the message; `next` is what it leaves to do. -/
def write (msg : ContextEventMsg) (next : ContextManager.Task) : ContextManager.Task → ContextEventMsg
  | .handleContextCreate _ =>
    match next with
    | .handleContextEvent dstId _ _ => { msg with dstId }
    | _ => { msg with dstId := ContextManager.invalidId }
  | .inContext _ (.makeAgent _) _ => if next = .idle then { msg with agentId := ContextManager.invalidId } else msg
  | .inContext _ (.insert a) _ => { msg with agentId := a.agentId }
  | _ => msg

end ContextEventMsg

def createdBy : ContextManager.Report → Option (BitVec 32)
  | .created _ agentId => some agentId
  | _ => none

/-- The calls have numbers; `started` holds those whose tasks the workers have taken. -/
structure SyncEvents (n : Nat) where
  isRunning : Bool := true
  manager : ContextManager := {}
  calls : Nat → Option SyncCall := fun _ => none
  tasks : List Nat := []
  workers : Fin n → Option Nat := fun _ => none
  started : List Nat := []

inductive SyncMove (n : Nat) where
  | pushSyncEvent (k : Nat) (request : Option SyncRequest) (listener : Bool)
  | pushTask (k : Nat)
  | taskMainWorker (i : Fin n) (contextId agentId : BitVec 32)
  | agentCreate (i : Fin n)
  | other (i : Fin n) (manager : ContextManager)
  | handlerReturn (i : Fin n) (ret : Int32)
  | ready (k : Nat)
  | timeout (k : Nat)
  | stop

inductive SyncBlocked where
  | blocked
  deriving DecidableEq

namespace SyncEvents

variable {n : Nat} (limits : ContextLimits) (s : SyncEvents n)

def setCall (k : Nat) (c : SyncCall) : SyncEvents n :=
  { s with calls := Function.update s.calls k (some c) }

/-- The handler of the call `k`, on the thread `i`, has returned. -/
def handlerReturn (i : Fin n) (k : Nat) (c : SyncCall) (ret : Int32) : SyncEvents n :=
  { s.setCall k { c with task := .returned ret } with
    workers := Function.update s.workers i none }

def pushSyncEvent (k : Nat) (request : Option SyncRequest) (listener : Bool) :
    Except SyncBlocked (SyncEvents n) :=
  match s.calls k, request with
  | some _, _ => .error .blocked
  | none, none => .ok (s.setCall k { event := none, caller := .noMessage })
  | none, some request =>
    if listener then .ok (s.setCall k { event := some request.event, caller := .pushTask })
    else .ok (s.setCall k { event := some request.event, caller := .noListener })

/-- Before `StartEventLoop` there are no threads, and the task is dropped. -/
def pushTask (k : Nat) (c : SyncCall) : Except SyncBlocked (SyncEvents n) :=
  if c.caller ≠ .pushTask then .error .blocked
  else if n = 0 then .ok (s.setCall k { c with caller := .waitFor })
  else if n ≤ s.tasks.length then .error .blocked
  else .ok { s.setCall k { c with caller := .waitFor, task := .queued } with tasks := s.tasks ++ [k] }

/-- What the handler of an event is to do first. -/
def onEvent (contextId agentId : BitVec 32) : SharingEvent → ContextManager.Task
  | .agentCreate _ _ msg => ContextManager.begin (.agentCreate (msg.event contextId agentId))
  | .other => .idle

def taskMainWorker (i : Fin n) (contextId agentId : BitVec 32) : Except SyncBlocked (SyncEvents n) :=
  match s.tasks with
  | [] => .error .blocked
  | k :: tasks =>
    if s.isRunning ∧ s.workers i = none then
      match s.calls k with
      | some { event := some event, caller, task := .queued, created } =>
        .ok { s.setCall k { event, caller, task := .running (onEvent contextId agentId event), created } with
          tasks, workers := Function.update s.workers i (some k), started := s.started ++ [k] }
      | _ => .error .blocked
    else .error .blocked

/-- A section of the handler of a request for an agent; it returns zero in any case. -/
def agentCreate (i : Fin n) (k : Nat) (c : SyncCall) : Except SyncBlocked (SyncEvents n) :=
  match c.event, c.task with
  | some (.agentCreate contextId agentId msg), .running task =>
    let (manager, next, reports) := s.manager.advance limits task
    let c := { c with
      event := some (.agentCreate contextId agentId (msg.write next task))
      created := reports.findSome? createdBy <|> c.created }
    if next = .idle then .ok ({ s with manager }.handlerReturn i k c 0)
    else .ok ({ s with manager }.setCall k { c with task := .running next })
  | _, _ => .error .blocked

/-- The handlers of other events may do with the contexts what they like. -/
def other (c : SyncCall) (manager : ContextManager) : Except SyncBlocked (SyncEvents n) :=
  match c.event, c.task with
  | some .other, .running _ => .ok { s with manager }
  | _, _ => .error .blocked

def otherReturn (i : Fin n) (k : Nat) (c : SyncCall) (ret : Int32) :
    Except SyncBlocked (SyncEvents n) :=
  match c.event, c.task with
  | some .other, .running _ => .ok (s.handlerReturn i k c ret)
  | _, _ => .error .blocked

def ready (k : Nat) (c : SyncCall) : Except SyncBlocked (SyncEvents n) :=
  match c.caller, c.task with
  | .waitFor, .returned ret => .ok (s.setCall k { c with caller := .ready ret })
  | _, _ => .error .blocked

/-- The wait is over and the task has not returned. -/
def timeout (k : Nat) (c : SyncCall) : Except SyncBlocked (SyncEvents n) :=
  match c.caller, c.task with
  | .waitFor, .returned _ => .error .blocked
  | .waitFor, _ => .ok (s.setCall k { c with caller := .timeout })
  | _, _ => .error .blocked

/-- What there is of the call `k`. -/
def withCall (k : Option Nat) (f : Nat → SyncCall → Except SyncBlocked (SyncEvents n)) :
    Except SyncBlocked (SyncEvents n) :=
  match k with
  | none => .error .blocked
  | some k =>
    match s.calls k with
    | none => .error .blocked
    | some c => f k c

def step : SyncMove n → Except SyncBlocked (SyncEvents n)
  | .pushSyncEvent k request listener => s.pushSyncEvent k request listener
  | .pushTask k => s.withCall k s.pushTask
  | .taskMainWorker i contextId agentId => s.taskMainWorker i contextId agentId
  | .agentCreate i => s.withCall (s.workers i) (s.agentCreate limits i)
  | .other i manager => s.withCall (s.workers i) fun _ c => s.other c manager
  | .handlerReturn i ret => s.withCall (s.workers i) fun k c => s.otherReturn i k c ret
  | .ready k => s.withCall k s.ready
  | .timeout k => s.withCall k s.timeout
  | .stop => .ok { s with isRunning := false }

end SyncEvents

end WifiDisplay
