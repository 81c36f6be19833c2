import Mathlib.Logic.Function.Basic
import WifiDisplay.GuardedRuns

/-! `TcpClient` with the session that owns it: the threads that are in its functions, who holds
`mutex_`, and how many `shared_ptr`s point to it. -/

namespace WifiDisplay

namespace TcpClient

/-- The thread of the event runner that reads the descriptor, and the threads of the session. -/
inductive Thread (ι : Type) where
  | reader
  | session (i : ι)
  deriving DecidableEq

inductive Caller where
  | send
  | onClientReadable
  | sessionDestructor
  | destructor
  deriving DecidableEq

inductive Call where
  | outside
  | connect
  | connectFailed
  | send
  | disconnect (caller : Caller)
  | resetClient
  deriving DecidableEq

/-- How far the holder of `mutex_` is. In `destructor` it let go of the last reference, and
`~TcpClient` calls `Disconnect`, which locks `mutex_`. -/
inductive Section where
  | entered
  | closed
  | onClientClose
  | onShutdown
  | resetSocket
  | destructor
  deriving DecidableEq

/-- Where the read thread is; it owns the client except at `outside`. -/
inductive Reading where
  | outside
  | receiving (fd : Nat)
  | delivering (fd : Nat)
  | disconnecting
  | onShutdown
  | returning
  deriving DecidableEq

namespace Call

def locks : Call → Bool
  | .connectFailed | .send | .disconnect _ => true
  | _ => false

def connects : Call → Bool
  | .connect | .connectFailed => true
  | _ => false

def disconnects : Call → Bool
  | .disconnect _ => true
  | _ => false

def endsSession : Call → Bool
  | .disconnect .sessionDestructor | .resetClient => true
  | _ => false

end Call

namespace Reading

def isPast : Reading → Bool
  | .disconnecting | .onShutdown | .returning => true
  | _ => false

def isReceiving : Reading → Bool
  | .receiving _ => true
  | _ => false

def isDelivering : Reading → Bool
  | .delivering _ => true
  | _ => false

def fd : Reading → Option Nat
  | .receiving fd | .delivering fd => some fd
  | _ => none

end Reading

/-- Descriptors are numbered as they are opened; a socket whose `CreateSocket` failed has none. -/
structure State (ι : Type) where
  mutex : Option (Thread ι × Section) := none
  owners : Nat := 1
  rtspClient : Bool := true
  sessionAlive : Bool := true
  socket : Option (Option Nat) := none
  eventListener : Bool := false
  listened : Option Nat := none
  opened : Nat := 0
  closed : List Nat := []
  reading : Reading := .outside
  call : Thread ι → Call := fun _ => .outside
  staleRead : Bool := false
  destroyed : Bool := false

inductive Received where
  | data
  | wouldBlock
  | endOfStream

inductive Act (ι : Type) where
  | connect (i : ι) (creates : Bool)
  | connected (i : ι) (listens : Bool)
  | refused (i : ι)
  | closeRefused (i : ι)
  | send (t : Thread ι)
  | lock (t : Thread ι)
  | sent (t : Thread ι) (fails : Bool)
  | close (t : Thread ι)
  | onShutdown (t : Thread ι)
  | onClientClose (t : Thread ι)
  | shutdownOver (t : Thread ι)
  | resetSocket (t : Thread ι)
  | onReadable (fd : Nat)
  | received (answer : Received)
  | delivered
  | onReadShutdown (fd : Nat)
  | readShutdown
  | readOver
  | destroySession (t : Thread ι)
  | resetClient (t : Thread ι)

namespace State

variable {ι : Type} [DecidableEq ι] (s : State ι)

def setCall (t : Thread ι) (c : Call) : State ι := { s with call := Function.update s.call t c }

def afterDisconnect (t : Thread ι) : Caller → State ι
  | .send => s.setCall t .outside
  | .onClientReadable => { s.setCall t .outside with reading := .returning }
  | .sessionDestructor => s.setCall t .resetClient
  | .destructor => { s.setCall t .outside with destroyed := true }

/-- `RemoveFdListener`, `ShutDownSocket` and `CloseSocket` of what the socket holds. -/
def closeFd (fd : Option Nat) : State ι :=
  { s with
    listened := if s.listened = fd then none else s.listened
    closed := s.closed ++ fd.toList }

/-- One `shared_ptr` less; whoever takes the last one runs the destructor. -/
def release (t : Thread ι) : State ι :=
  if s.owners = 1 then { s.setCall t (.disconnect .destructor) with owners := 0 }
  else { s.setCall t .outside with owners := s.owners - 1 }

/-- `rtspClient_.reset()` in `OnClientClose`, where a caller further out still owns the client. -/
def dropClient : State ι :=
  if s.rtspClient then { s with rtspClient := false, owners := s.owners - 1 } else s

/-- `Disconnect` with `mutex_` locked, up to its call of `OnShutdown`. -/
def close (t : Thread ι) : State ι :=
  match s.call t, s.socket with
  | .disconnect caller, none => { s with mutex := none }.afterDisconnect t caller
  | .disconnect _, some fd => { s.closeFd fd with mutex := some (t, .closed) }
  | _, _ => s

def onShutdown (t : Thread ι) : State ι :=
  if s.owners = 0 then { s with mutex := some (t, .resetSocket) }
  else
    { s with
      owners := s.owners + 1
      mutex := some (t, if s.sessionAlive then .onClientClose else .onShutdown) }

def shutdownOver (t : Thread ι) : State ι :=
  { s with
    owners := s.owners - 1
    mutex := some (t, if s.owners = 1 then .destructor else .resetSocket) }

def resetSocket (t : Thread ι) : State ι :=
  match s.call t with
  | .disconnect caller => { s with socket := none, mutex := none }.afterDisconnect t caller
  | _ => s

def received : Received → State ι
  | .data =>
    match s.reading with
    | .receiving fd =>
      { s with
        staleRead := s.staleRead || fd ∈ s.closed
        reading := if s.sessionAlive then .delivering fd else .receiving fd }
    | _ => s
  | .wouldBlock =>
    match s.reading with
    | .receiving fd =>
      { s with staleRead := s.staleRead || fd ∈ s.closed, reading := .returning }
    | _ => s
  | .endOfStream =>
    match s.reading with
    | .receiving fd =>
      { s.setCall .reader (.disconnect .onClientReadable) with
        staleRead := s.staleRead || fd ∈ s.closed, reading := .disconnecting }
    | _ => s

def next : Act ι → State ι
  | .connect i creates =>
    { s.setCall (.session i) .connect with
      socket := some (if creates then some s.opened else none)
      opened := if creates then s.opened + 1 else s.opened }
  | .connected i listens =>
    { s.setCall (.session i) .outside with
      eventListener := true
      listened := if listens then s.socket.join else s.listened }
  | .refused i => s.setCall (.session i) .connectFailed
  | .closeRefused i =>
    { (s.closeFd s.socket.join).setCall (.session i) .outside with socket := none, mutex := none }
  | .send t => s.setCall t .send
  | .lock t => { s with mutex := some (t, .entered) }
  | .sent t fails =>
    { s.setCall t (if fails then .disconnect .send else .outside) with mutex := none }
  | .close t => s.close t
  | .onShutdown t => s.onShutdown t
  | .onClientClose t => { s.dropClient with mutex := some (t, .onShutdown) }
  | .shutdownOver t => s.shutdownOver t
  | .resetSocket t => s.resetSocket t
  | .onReadable fd =>
    if s.owners = 0 then s else { s with owners := s.owners + 1, reading := .receiving fd }
  | .received answer => s.received answer
  | .delivered => { s with reading := s.reading.fd.elim s.reading .receiving }
  | .onReadShutdown _ =>
    if s.owners = 0 then s
    else
      { s with
        owners := s.owners + 1, reading := if s.sessionAlive then .onShutdown else .returning }
  | .readShutdown => { s.dropClient with reading := .returning }
  | .readOver => { s.release .reader with reading := .outside }
  | .destroySession t =>
    { s.setCall t (if s.rtspClient then .disconnect .sessionDestructor else s.call t) with
      sessionAlive := false }
  | .resetClient t => { s.release t with rtspClient := false }

/-- Another thread is in the session, which therefore lives on. -/
def SessionBusy (t : Thread ι) : Prop :=
  (∃ i, .session i ≠ t ∧ s.call (.session i) ≠ .outside) ∨
    (t ≠ .reader ∧ (s.reading.isDelivering ∨ s.reading = .onShutdown)) ∨
    s.mutex.any fun h => h.1 ≠ t ∧ h.2 = .onClientClose

/-- A callback of the session on the read thread ends, maybe as the last owner of the session. -/
def CallbackEnds : Prop :=
  (s.call .reader = .outside ∧ (s.reading.isDelivering ∨ (s.reading = .returning ∧ ¬ s.rtspClient))) ∨
    s.mutex = some (.reader, .onShutdown)

/-- The step is the next one of its thread, and does not wait for `mutex_`. -/
def Enabled : Act ι → Prop
  | .connect i _ => s.rtspClient ∧ s.sessionAlive ∧ s.call (.session i) = .outside
  | .connected i _ => s.call (.session i) = .connect ∧ s.socket.join.isSome
  | .refused i => s.call (.session i) = .connect
  | .closeRefused i =>
    s.call (.session i) = .connectFailed ∧ s.mutex = some (.session i, .entered)
  | .send t =>
    s.rtspClient ∧ s.sessionAlive ∧ s.call t = .outside ∧
      (t = .reader → s.reading.isDelivering)
  | .lock t => (s.call t).locks ∧ s.mutex = none
  | .sent t fails =>
    s.call t = .send ∧ s.mutex = some (t, .entered) ∧ (fails → s.socket.join.isSome)
  | .close t =>
    (s.call t).disconnects ∧ s.mutex = some (t, .entered) ∧ (s.socket ≠ none → s.eventListener)
  | .onShutdown t => s.mutex = some (t, .closed)
  | .onClientClose t => s.mutex = some (t, .onClientClose)
  | .shutdownOver t => s.mutex = some (t, .onShutdown)
  | .resetSocket t => s.mutex = some (t, .resetSocket)
  | .onReadable fd | .onReadShutdown fd =>
    s.listened = some fd ∧ s.reading = .outside ∧ s.call .reader = .outside
  | .received _ => s.reading.isReceiving
  | .delivered => s.reading.isDelivering ∧ s.call .reader = .outside
  | .readShutdown => s.reading = .onShutdown
  | .readOver => s.reading = .returning ∧ s.call .reader = .outside
  | .destroySession t =>
    s.sessionAlive ∧ ¬ s.SessionBusy t ∧
      match t with
      | .reader => s.CallbackEnds
      | .session i => s.call (.session i) = .outside
  | .resetClient t => s.call t = .resetClient

def AtLock (t : Thread ι) : Prop :=
  s.mutex = some (t, .destructor) ∨ ((s.call t).locks ∧ ∀ sec, s.mutex ≠ some (t, sec))

def Holds (t : Thread ι) : Prop := ∃ sec, s.mutex = some (t, sec)

def Destroying (t : Thread ι) : Prop :=
  s.call t = .disconnect .destructor ∨ s.mutex = some (t, .destructor)

structure Safe : Prop where
  notRelocked : ∀ t, s.AtLock t → ¬ s.Holds t
  unlockedDestroying : ∀ t u, s.Destroying t → s.Holds u → u = t ∧ s.mutex ≠ some (u, .destructor)
  unlockedDestroyed : s.destroyed → s.mutex = none
  closedOnce : s.closed.Nodup
  closedOrKept : ∀ fd < s.opened, fd ∈ s.closed ∨ s.socket = some (some fd)
  closedAll : s.destroyed → ∀ fd < s.opened, fd ∈ s.closed
  notStale : s.staleRead = false

def Closing : Prop := s.mutex.any fun h => h.2 ≠ .entered

/-- A socket is closed while the read thread is past its last `recv`, or outside and the session
does not answer; the read thread lets go of the client while the session owns it and does not
answer a close, or while no thread of the session is in it; and a connect finds no socket. -/
def Orderly : Act ι → Prop
  | .connect _ _ => s.socket = none
  | .close _ =>
    s.socket ≠ none →
      s.reading.isPast ∨ (s.reading = .outside ∧ ¬ (s.sessionAlive ∧ s.rtspClient))
  | .readOver =>
    (s.rtspClient ∧ ¬ (s.sessionAlive ∧ s.Closing)) ∨ ∀ i, s.call (.session i) = .outside
  | _ => True

end State

end TcpClient

end WifiDisplay
