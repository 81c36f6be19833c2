import WifiDisplay.GuardedRuns
import WifiDisplay.Tally

/-! `EventManager` with its `TaskPool`: the queues and where every thread stands, one
section under `mutex_` or `taskMutex_` at a time. -/

namespace WifiDisplay

namespace EventSystem

/-- Where a handler or a producer stands in its calls of the event system. -/
inductive Caller (E L : Type) where
  | outside
  | pushEvent (event : E)
  | pushTask (task : L × E)
  | roomWait (task : L × E)
  | futureWait

inductive Worker (E L : Type) where
  | top
  | taskWait
  | handler (caller : Caller E L)
  | done

/-- The event thread holds `mutex_` except at `start`, in its wait and when it is done. -/
inductive EventThread (E L : Type) where
  | start
  | loop
  | body
  | dispatch (task : L × E) (rest : List (L × E))
  | roomWait (task : L × E) (rest : List (L × E))
  | eventWait
  | done

inductive StopEventLoop where
  | notCalled
  | joinWorkers
  | joinEventThread
  | returned
  deriving DecidableEq

abbrev Client (n : Nat) (P : Type) := Fin n ⊕ P

/-- Who may wait for room in the task pool. -/
inductive Pusher (n : Nat) (P : Type) where
  | eventThread
  | client (x : Client n P)
  deriving DecidableEq

structure EventManager (n : Nat) (P E L : Type) where
  isRunning : Bool
  events : List E := []
  tasks : List (L × E) := []
  workers : Fin n → Worker E L := fun _ => .top
  eventThread : EventThread E L := .start
  producers : P → Caller E L := fun _ => .outside
  stopper : StopEventLoop := .notCalled

def maxSharingEventNum : Nat := 5000

def maxThreadNum : Nat := 50

/-- `Start` is given as many threads as there is room for tasks. -/
def startEventLoop (n : Nat) (P E L : Type) : Option (EventManager n P E L) :=
  if n = 0 ∨ maxThreadNum ≤ n then none else some { isRunning := true }

/-- The step cannot be taken now. -/
inductive Blocked where
  | blocked
  deriving DecidableEq

section Places

variable {E L : Type}

namespace Caller

def isOutside : Caller E L → Bool
  | .outside => true
  | _ => false

def atPushEvent : Option (Caller E L) → Bool
  | some (.pushEvent _) => true
  | _ => false

def atPushTask : Option (Caller E L) → Bool
  | some (.pushTask _) => true
  | _ => false

def atRoomWait : Option (Caller E L) → Bool
  | some (.roomWait _) => true
  | _ => false

end Caller

namespace Worker

def caller : Worker E L → Option (Caller E L)
  | .handler c => some c
  | _ => none

def atTop : Worker E L → Bool
  | .top => true
  | _ => false

def atTaskWait : Worker E L → Bool
  | .taskWait => true
  | _ => false

def isDone : Worker E L → Bool
  | .done => true
  | _ => false

end Worker

namespace EventThread

def holdsMutex : EventThread E L → Bool
  | .start | .eventWait | .done => false
  | _ => true

def atDispatch : EventThread E L → Bool
  | .dispatch _ _ => true
  | _ => false

def atRoomWait : EventThread E L → Bool
  | .roomWait _ _ => true
  | _ => false

def atEventWait : EventThread E L → Bool
  | .eventWait => true
  | _ => false

def atBody : EventThread E L → Bool
  | .body => true
  | _ => false

def isDone : EventThread E L → Bool
  | .done => true
  | _ => false

/-- The loop over the listeners of an event. -/
def next : List (L × E) → EventThread E L
  | [] => .loop
  | task :: rest => .dispatch task rest

end EventThread

end Places

namespace EventManager

variable {n : Nat} {P E L : Type} [DecidableEq P] (m : EventManager n P E L)

def caller : Client n P → Option (Caller E L)
  | .inl i => (m.workers i).caller
  | .inr p => some (m.producers p)

def setWorker (i : Fin n) (w : Worker E L) : EventManager n P E L :=
  { m with workers := Function.update m.workers i w }

def setCaller (c : Caller E L) : Client n P → EventManager n P E L
  | .inl i => m.setWorker i (.handler c)
  | .inr p => { m with producers := Function.update m.producers p c }

def isOverload : Bool := 0 < n && n ≤ m.tasks.length

/-- `hasEvent_.notify_one()`. -/
def notifyEvent : EventManager n P E L :=
  match m.eventThread with
  | .eventWait => { m with eventThread := .start }
  | _ => m

/-- `hasTask_.notify_one()` wakes one of the workers that wait, if there is one. -/
def notifyTask : Option (Fin n) → Except Blocked (EventManager n P E L)
  | some i => if (m.workers i).atTaskWait then .ok (m.setWorker i .top) else .error .blocked
  | none => if ∃ i, (m.workers i).atTaskWait then .error .blocked else .ok m

/-- Waits on `acceptNewTask_` and is not notified. -/
def waitsRoom : Pusher n P → Bool
  | .eventThread => m.eventThread.atRoomWait
  | .client x => Caller.atRoomWait (m.caller x)

def wake : Pusher n P → EventManager n P E L
  | .eventThread =>
    match m.eventThread with
    | .roomWait task rest => { m with eventThread := .dispatch task rest }
    | _ => m
  | .client x =>
    match m.caller x with
    | some (.roomWait task) => m.setCaller (.pushTask task) x
    | _ => m

def roomFree [Fintype P] : Prop := m.waitsRoom .eventThread = false ∧ ∀ x, m.waitsRoom (.client x) = false

instance [Fintype P] : Decidable m.roomFree := inferInstanceAs (Decidable (_ ∧ _))

/-- `acceptNewTask_.notify_one()`. -/
def notifyRoom [Fintype P] : Option (Pusher n P) → Except Blocked (EventManager n P E L)
  | some p => if m.waitsRoom p then .ok (m.wake p) else .error .blocked
  | none => if m.roomFree then .ok m else .error .blocked

/-- The end of `PushTask`. -/
def emplaceTask (task : L × E) (woken : Option (Fin n)) : Except Blocked (EventManager n P E L) :=
  { m with tasks := m.tasks ++ [task] }.notifyTask woken

/-- The section of `PushEvent`. -/
def pushEvent (event : E) : EventManager n P E L :=
  if maxSharingEventNum ≤ m.events.length then m
  else { m with events := m.events ++ [event] }.notifyEvent

variable (listeners : E → List L)

/-- `PushSyncEvent` up to its `PushTask`. -/
def pushSyncEvent (event : E) : Caller E L :=
  match listeners event with
  | [] => .outside
  | listener :: _ => .pushTask (listener, event)

/-- `ProcessEvent` outside `PushTask`. -/
def processEvent : Except Blocked (EventManager n P E L) :=
  match m.eventThread with
  | .start => .ok { m with eventThread := .loop }
  | .loop => .ok { m with eventThread := if m.isRunning then .body else .done }
  | .body =>
    match m.events with
    | [] => .ok { m with eventThread := .eventWait }
    | event :: events =>
      .ok { m with events, eventThread := .next ((listeners event).map (·, event)) }
  | _ => .error .blocked

/-- `PushTask` of the event thread, which holds `mutex_`. -/
def dispatchTask (woken : Option (Fin n)) : Except Blocked (EventManager n P E L) :=
  match m.eventThread with
  | .dispatch task rest =>
    if m.isOverload then .ok { m with eventThread := .roomWait task rest }
    else { m with eventThread := .next rest }.emplaceTask task woken
  | _ => .error .blocked

/-- `PushTask` in `PushSyncEvent`. -/
def pushTask (x : Client n P) (woken : Option (Fin n)) : Except Blocked (EventManager n P E L) :=
  match m.caller x with
  | some (.pushTask task) =>
    if m.isOverload then .ok (m.setCaller (.roomWait task) x)
    else (m.setCaller .futureWait x).emplaceTask task woken
  | _ => .error .blocked

/-- A round of `TaskMainWorker` up to the task it runs. -/
def taskMainWorker [Fintype P] (i : Fin n) (woken : Option (Pusher n P)) :
    Except Blocked (EventManager n P E L) :=
  match m.workers i with
  | .top =>
    if m.isRunning then
      match m.tasks with
      | [] => .ok (m.setWorker i .taskWait)
      | _ :: tasks => { m with tasks }.setWorker i (.handler .outside) |>.notifyRoom woken
    else .ok (m.setWorker i .done)
  | _ => .error .blocked

/-- `Stop` up to its joins: `hasTask_.notify_all()` wakes every worker that waits. -/
def stop : Except Blocked (EventManager n P E L) :=
  if m.stopper = .notCalled then
    .ok { m with
      isRunning := false, stopper := .joinWorkers
      workers := fun i => if (m.workers i).atTaskWait then .top else m.workers i }
  else .error .blocked

def join : Except Blocked (EventManager n P E L) :=
  match m.stopper with
  | .joinWorkers =>
    if ∀ i, (m.workers i).isDone then .ok { m with stopper := .joinEventThread } else .error .blocked
  | .joinEventThread =>
    if m.eventThread.isDone then .ok { m with stopper := .returned } else .error .blocked
  | _ => .error .blocked

end EventManager

inductive Request (E : Type) where
  | pushEvent (event : E)
  | pushSyncEvent (event : E)

/-- What a thread does next; a handler may call and return as it likes. -/
inductive Act (n : Nat) (P E : Type) where
  | call (x : Client n P) (request : Request E)
  | pushEvent (x : Client n P)
  | pushTask (x : Client n P) (woken : Option (Fin n))
  | futureOver (x : Client n P)
  | handlerReturn (i : Fin n)
  | taskMainWorker (i : Fin n) (woken : Option (Pusher n P))
  | processEvent
  | dispatchTask (woken : Option (Fin n))
  | stop
  | join

/-- A call that only comes from outside. -/
def Act.External {n : Nat} {P E : Type} : Act n P E → Prop
  | .call (.inr _) _ | .stop => True
  | _ => False

namespace EventManager

variable {n : Nat} {P E L : Type} [DecidableEq P] [Fintype P] (listeners : E → List L)
  (m : EventManager n P E L)

def step : Act n P E → Except Blocked (EventManager n P E L)
  | .call x request =>
    match m.caller x, request with
    | some .outside, .pushEvent event => .ok (m.setCaller (.pushEvent event) x)
    | some .outside, .pushSyncEvent event => .ok (m.setCaller (pushSyncEvent listeners event) x)
    | _, _ => .error .blocked
  | .pushEvent x =>
    match m.caller x with
    | some (.pushEvent event) =>
      if m.eventThread.holdsMutex then .error .blocked
      else .ok (m.setCaller .outside x |>.pushEvent event)
    | _ => .error .blocked
  | .pushTask x woken => m.pushTask x woken
  | .futureOver x =>
    -- the task has run or the timeout is over
    match m.caller x with
    | some .futureWait => .ok (m.setCaller .outside x)
    | _ => .error .blocked
  | .handlerReturn i =>
    match m.workers i with
    | .handler .outside => .ok (m.setWorker i .top)
    | _ => .error .blocked
  | .taskMainWorker i woken => m.taskMainWorker i woken
  | .processEvent => m.processEvent listeners
  | .dispatchTask woken => m.dispatchTask woken
  | .stop => m.stop
  | .join => m.join

/-- Queued work, or a `StopEventLoop` that has not returned. -/
def Pending : Prop :=
  m.events ≠ [] ∨ m.tasks ≠ [] ∨ m.stopper = .joinWorkers ∨ m.stopper = .joinEventThread

/-- No thread is in the event system any more. -/
structure Finished : Prop where
  workers : ∀ i, (m.workers i).isDone
  eventThread : m.eventThread.isDone
  producers : ∀ p, m.producers p = .outside
  stopper : m.stopper = .notCalled ∨ m.stopper = .returned

/-- Work is left, and every thread that is in the event system is blocked. -/
structure Stuck : Prop where
  pending : m.Pending
  unfinished : ¬ m.Finished
  blocked : ∀ act : Act n P E, ¬ act.External → m.step listeners act = .error .blocked

end EventManager

end EventSystem

end WifiDisplay
