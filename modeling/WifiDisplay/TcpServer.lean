import Mathlib.Logic.Function.Basic
import WifiDisplay.Agent
import WifiDisplay.GuardedRuns

/-! `TcpServer`, its `TcpSession`s, the `WfdSourceSession` they call back and its `Agent`, on
threads that run one call inside the other. -/

namespace WifiDisplay

namespace TcpServer

/-- The sessions of a server are numbered as they are accepted. -/
inductive Lock where
  | server (k : Nat)
  | session (k n : Nat)
  deriving DecidableEq

namespace Lock

def owner : Lock → Nat
  | server k => k
  | session k _ => k

/-- A server comes before its sessions, and these before the servers started later. -/
def rank : Lock → Nat
  | server k => 2 * k
  | session k _ => 2 * k + 1

end Lock

/-- What `OnServerReadData` finds in the bytes, as far as an answer goes. -/
inductive Handled where
  | option
  | setup
  | play
  | pause
  | teardown
  | idrRequest
  | m3Response
  | m4Response
  | m8Response
  | other
  deriving DecidableEq

/-- What a message that was sent is followed by. -/
inductive Sent where
  | m1Request
  | m2Response
  | m5Request
  | other
  deriving DecidableEq

/-- The calls that a thread makes; each runs and is replaced by the calls in its body. -/
inductive Call where
  | lock (l : Lock)
  | unlock (l : Lock)
  | handleEvent (e : Agent.Event)
  | onSessionNotify (n : Agent.Notification)
  | releaseAgent
  | sessionEvent (e : Agent.Event)
  | startWfdSession (e : Agent.Event)
  | startServer (k : Nat) (e : Agent.Event)
  | stopWfdSession
  | resetServer
  | releaseServer (k : Nat)
  | releaseSource
  | stop (k : Nat)
  | closeSessions (k : Nat)
  | clear (k : Nat)
  | onServerReadable (k : Nat)
  | accept (k : Nat)
  | onAccept (k n : Nat)
  | startSession (k n : Nat)
  | send (k n : Nat) (message : Sent)
  | onSessionClose (k n : Nat)
  | onSessionReadable (k n : Nat)
  | recv (k n : Nat)
  | onSessionReadData (k n : Nat) (messages : List Handled)
  | onSendKeepAlive (k n : Nat)
  | shutdown (k n : Nat)
  | closePeer (k n : Nat)
  | resetSession (k n : Nat)
  deriving DecidableEq

/-- How a call of the system ends, or which event the session is told. -/
inductive Answer where
  | succeeds
  | fails
  | endOfStream
  | data (messages : List Handled)

structure Thread where
  held : List Lock := []
  todo : List Call := []

structure Server where
  hasSocket : Bool := false
  listening : Bool := false
  owners : Nat := 0
  sessions : List Nat := []
  accepted : Nat := 0

structure Session where
  hasSocket : Bool := false
  hasCallback : Bool := false
  listening : Bool := false
  owners : Nat := 0

/-- A source whose agent was made with its session and has not been started. -/
structure World (ι : Type) where
  agent : Agent := { agentType := .src, session := true, runStep := .create, runningStatus := .done }
  agentOwners : Nat := 1
  inContext : Bool := true
  sourceOwners : Nat := 1
  rtspServer : Option Nat := none
  rtspServerFd : Option (Nat × Nat) := none
  waitsM0 : Bool := true
  serverCount : Nat := 0
  servers : Nat → Server := fun _ => {}
  sessions : Nat → Nat → Session := fun _ _ => {}
  threads : ι → Thread := fun _ => {}

/-- `UpdateOperation` behind `StartWfdSession` and `StopWfdSession`: a source takes an
interruption for nothing, and its number is that of `STATE_SESSION_RESUMED`. -/
def updateOperation (e : Agent.Event) : Agent.SessionStatus → List Call
  | .start => [.startWfdSession e]
  | .stop => [.stopWfdSession, .onSessionNotify (.prosumer .stop)]
  | .pause _ => [.onSessionNotify (.prosumer .pause)]
  | .resume _ | .interrupt => [.onSessionNotify (.prosumer .resume)]
  | .destroy => [.onSessionNotify (.prosumer .destroy)]

/-- A call in the scope of a lock. -/
def guarded (l : Lock) (call : Call) : List Call := [.lock l, call, .unlock l]

/-- What the agent hands on to its session; the rest goes into the queue of events. -/
def calls : Agent.Output → List Call
  | .updateOperation status e => updateOperation e status
  | .updateMediaStatus .create _ _ => [.onSessionNotify .privateEvent]
  | .sessionEvent e => [.sessionEvent e]
  | _ => []

def handle (k n : Nat) : Handled → List Call
  | .option => [.send k n .m2Response]
  | .setup | .idrRequest | .m3Response => [.send k n .other]
  | .play => [.onSessionNotify .privateEvent, .send k n .other]
  | .pause | .teardown => [.onSessionNotify .other, .send k n .other]
  | .m4Response => [.send k n .m5Request]
  | .m8Response => [.onSessionNotify .privateEvent]
  | .other => []

namespace World

variable {ι : Type} (w : World ι)

def setServer (k : Nat) (server : Server) : World ι :=
  { w with servers := Function.update w.servers k server }

def setSession (k n : Nat) (session : Session) : World ι :=
  { w with sessions := Function.update w.sessions k (Function.update (w.sessions k) n session) }

/-- One reference to a server less; the last one runs `~TcpServer`. -/
def releaseServer (k : Nat) : World ι × List Call :=
  let server := w.servers k
  (w.setServer k { server with owners := server.owners - 1 },
    if server.owners = 1 then [.stop k] else [])

def resetServer : World ι × List Call :=
  match w.rtspServer with
  | none => (w, [])
  | some k => { w with rtspServer := none }.releaseServer k

/-- `CreateTcpServer` up to `Start`: the new server takes the place of the old one. -/
def startWfdSession (e : Agent.Event) : World ι × List Call :=
  let (w, destroyed) := w.resetServer
  let w := w.setServer w.serverCount { owners := 1 }
  ({ w with rtspServer := some w.serverCount, serverCount := w.serverCount + 1 },
    destroyed ++ [.startServer w.serverCount e])

def startServer (k : Nat) (e : Agent.Event) : Answer → World ι × List Call
  | .succeeds => (w.setServer k { w.servers k with hasSocket := true, listening := true }, [])
  | _ =>
    (w.setServer k { w.servers k with hasSocket := true },
      [.onSessionNotify (.error e.requestId .connectionFailure)])

/-- `EVENT_WFD_STATE_MEDIA_INIT` or an event without an answer. -/
def sessionEvent (e : Agent.Event) : Answer → List Call
  | .succeeds =>
    if e.errorCode = .ok then [.onSessionNotify (.prosumer .start)]
    else [.onSessionNotify (.error e.requestId .sessionStart)]
  | _ => []

/-- What `Stop` does while it holds `mutex_`. -/
def closeSessions (k : Nat) : World ι × List Call :=
  if (w.servers k).hasSocket then
    (w.setServer k { w.servers k with listening := false },
      (w.servers k).sessions.flatMap (fun n => [.shutdown k n, .resetSession k n]) ++ [.clear k])
  else (w, [])

/-- `OnServerReadable` while it holds `mutex_`. -/
def accept (k : Nat) : Answer → World ι × List Call
  | .succeeds =>
    let server := w.servers k
    if server.hasSocket then
      let n := server.accepted
      let w := (w.setServer k
        { server with sessions := server.sessions ++ [n], accepted := n + 1 }).setSession k n
        { hasSocket := true, owners := 1 }
      if w.sourceOwners = 0 then (w, [])
      else ({ w with sourceOwners := w.sourceOwners + 1 }, [.onAccept k n, .releaseSource])
    else (w, [])
  | _ => (w, [])

def onAccept (k n : Nat) : World ι × List Call :=
  if w.waitsM0 then
    ({ w.setSession k n { w.sessions k n with hasCallback := true } with rtspServerFd := some (k, n) },
      [.startSession k n])
  else (w, [])

def startSession (k n : Nat) : Answer → World ι × List Call
  | .succeeds =>
    (w.setSession k n { w.sessions k n with listening := true }, [.send k n .m1Request])
  | _ => (w, [.shutdown k n])

/-- What follows a message that was sent. -/
def sent (k n : Nat) : Sent → World ι × List Call
  | .m1Request => ({ w with waitsM0 := false }, [])
  | .m2Response => (w, [.send k n .other])
  | .m5Request => (w, [.onSessionNotify (.prosumer .create)])
  | .other => (w, [])

/-- A message of the session; `Send` locks nothing. -/
def send (k n : Nat) (message : Sent) (answer : Answer) : World ι × List Call :=
  if w.rtspServer = none ∨ (w.sessions k n).hasSocket = false then (w, [])
  else
    match answer with
    | .succeeds => w.sent k n message
    | _ => (w, [.onSessionClose k n])

def onSessionClose : World ι × List Call :=
  if w.sourceOwners = 0 then (w, [])
  else
    ({ w with sourceOwners := w.sourceOwners + 1 },
      [.onSessionNotify (.error 0 .networkError), .releaseSource])

/-- `OnSessionReadble` while it holds `mutex_`. -/
def recv (k n : Nat) (answer : Answer) : List Call :=
  if (w.sessions k n).hasSocket ∧ (w.sessions k n).hasCallback then
    match answer with
    | .data messages => [.onSessionReadData k n messages]
    | .endOfStream => [.onSessionClose k n]
    | _ => []
  else []

def onSessionReadData (k n : Nat) (messages : List Handled) : World ι × List Call :=
  if w.sourceOwners = 0 then (w, [])
  else
    ({ w with sourceOwners := w.sourceOwners + 1 },
      (if w.rtspServerFd = some (k, n) then messages.flatMap (handle k n) else []) ++ [.releaseSource])

/-- With or without a keep-alive count left. -/
def onSendKeepAlive (k n : Nat) : Answer → World ι × List Call
  | .succeeds =>
    if w.sourceOwners = 0 then (w, [])
    else ({ w with sourceOwners := w.sourceOwners + 1 }, [.send k n .other, .releaseSource])
  | _ =>
    if w.sourceOwners = 0 then (w, [])
    else
      ({ w with sourceOwners := w.sourceOwners + 1 },
        [.onSessionNotify (.error 0 .interactionFailure), .releaseSource])

def onSessionNotify (n : Agent.Notification) : World ι × List Call :=
  if w.agentOwners = 0 then (w, [])
  else
    let (agent, outputs) := w.agent.onSessionNotify n
    ({ w with agent, agentOwners := w.agentOwners + 1 }, outputs.flatMap calls ++ [.releaseAgent])

def handleEvent (e : Agent.Event) : World ι × List Call :=
  let (agent, _, outputs) := w.agent.handleEvent e
  ({ w with agent }, outputs.flatMap calls)

/-- The last owner of the agent runs `~Agent`, which lets go of the session. -/
def releaseAgent : World ι × List Call :=
  ({ w with agentOwners := w.agentOwners - 1 },
    if w.agentOwners = 1 ∧ w.agent.session then [.releaseSource] else [])

/-- The last owner of the session runs `~WfdSourceSession`. -/
def releaseSource : World ι × List Call :=
  ({ w with sourceOwners := w.sourceOwners - 1 },
    if w.sourceOwners = 1 then [.stopWfdSession] else [])

/-- One reference to a `TcpSession` less; the last one runs its destructor. -/
def resetSession (k n : Nat) : World ι × List Call :=
  let session := w.sessions k n
  (w.setSession k n { session with owners := session.owners - 1 },
    if session.owners = 1 then [.shutdown k n] else [])

def stopWfdSession : List Call :=
  match w.rtspServer with
  | none => []
  | some k => [.stop k, .resetServer]

/-- The body of a call other than `lock` and `unlock`: its effect and the calls it makes. -/
def body (answer : Answer) : Call → World ι × List Call
  | .lock _ | .unlock _ => (w, [])
  | .handleEvent e => w.handleEvent e
  | .onSessionNotify n => w.onSessionNotify n
  | .releaseAgent => w.releaseAgent
  | .sessionEvent e => (w, sessionEvent e answer)
  | .startWfdSession e => w.startWfdSession e
  | .startServer k e => w.startServer k e answer
  | .stopWfdSession => (w, w.stopWfdSession)
  | .resetServer => w.resetServer
  | .releaseServer k => w.releaseServer k
  | .releaseSource => w.releaseSource
  | .stop k => (w, guarded (.server k) (.closeSessions k))
  | .closeSessions k => w.closeSessions k
  | .clear k => (w.setServer k { w.servers k with hasSocket := false, sessions := [] }, [])
  | .onServerReadable k => (w, guarded (.server k) (.accept k))
  | .accept k => w.accept k answer
  | .onAccept k n => w.onAccept k n
  | .startSession k n => w.startSession k n answer
  | .send k n message => w.send k n message answer
  | .onSessionClose k n => if (w.sessions k n).hasCallback then w.onSessionClose else (w, [])
  | .onSessionReadable k n => (w, guarded (.session k n) (.recv k n))
  | .recv k n => (w, w.recv k n answer)
  | .onSessionReadData k n messages => w.onSessionReadData k n messages
  | .onSendKeepAlive k n => w.onSendKeepAlive k n answer
  | .shutdown k n => (w, guarded (.session k n) (.closePeer k n))
  | .closePeer k n =>
    (w.setSession k n { w.sessions k n with hasSocket := false, listening := false }, [])
  | .resetSession k n => w.resetSession k n

end World

/-- A thread goes on, or an event of the system or a timer starts a call. -/
inductive Act (ι : Type) where
  | run (t : ι) (answer : Answer)
  | request (t : ι) (e : Agent.Event)
  | dropAgent (t : ι)
  | serverReadable (t : ι) (k : Nat)
  | sessionReadable (t : ι) (k n : Nat)
  | sessionClosed (t : ι) (k n : Nat)
  | keepAlive (t : ι) (k n : Nat)

namespace World

variable {ι : Type} [DecidableEq ι] (w : World ι)

def setThread (t : ι) (thread : Thread) : World ι :=
  { w with threads := Function.update w.threads t thread }

def run (t : ι) (answer : Answer) : World ι :=
  match (w.threads t).todo with
  | [] => w
  | .lock l :: rest => w.setThread t ⟨l :: (w.threads t).held, rest⟩
  | .unlock l :: rest => w.setThread t ⟨(w.threads t).held.erase l, rest⟩
  | call :: rest =>
    let (w', calls) := w.body answer call
    w'.setThread t ⟨(w.threads t).held, calls ++ rest⟩

/-- The event runner of the session takes a reference for the time of its call. -/
def callSession (t : ι) (k n : Nat) (call : Call) : World ι :=
  (w.setSession k n { w.sessions k n with owners := (w.sessions k n).owners + 1 }).setThread t
    ⟨[], [call, .resetSession k n]⟩

def next : Act ι → World ι
  | .run t answer => w.run t answer
  | .request t e =>
    { w with agentOwners := w.agentOwners + 1 }.setThread t ⟨[], [.handleEvent e, .releaseAgent]⟩
  | .dropAgent t => { w with inContext := false }.setThread t ⟨[], [.releaseAgent]⟩
  | .serverReadable t k =>
    (w.setServer k { w.servers k with owners := (w.servers k).owners + 1 }).setThread t
      ⟨[], [.onServerReadable k, .releaseServer k]⟩
  | .sessionReadable t k n => w.callSession t k n (.onSessionReadable k n)
  | .sessionClosed t k n => w.callSession t k n (.onSessionClose k n)
  | .keepAlive t k n => w.callSession t k n (.onSendKeepAlive k n)

def Wants (t : ι) (l : Lock) : Prop := (w.threads t).todo.head? = some (.lock l)

def Holds (t : ι) (l : Lock) : Prop := l ∈ (w.threads t).held

def Idle (t : ι) : Prop := (w.threads t).todo = []

/-- A thread that is not waiting goes on, and an idle one is given a call. -/
def Enabled : Act ι → Prop
  | .run t _ => ¬ w.Idle t ∧ ∀ l, w.Wants t l → ∀ u, ¬ w.Holds u l
  | .request t _ => w.Idle t ∧ w.inContext ∧ w.agentOwners ≠ 0
  | .dropAgent t => w.Idle t ∧ w.inContext
  | .serverReadable t k => w.Idle t ∧ (w.servers k).listening ∧ (w.servers k).owners ≠ 0
  | .sessionReadable t k n | .sessionClosed t k n =>
    w.Idle t ∧ (w.sessions k n).listening ∧ (w.sessions k n).owners ≠ 0
  | .keepAlive t k n => w.Idle t ∧ (w.sessions k n).hasCallback ∧ (w.sessions k n).owners ≠ 0

/-- No thread wants a mutex that it holds, and no two threads wait for each other. -/
structure Unblocked : Prop where
  notRelocked : ∀ t l, w.Wants t l → ¬ w.Holds t l
  notMutual : ∀ t u l m, t ≠ u → w.Wants t l → w.Holds u l → w.Wants u m → ¬ w.Holds t m

/-- `StopWfdSession` is not called on a thread that is in a callback of the server it stops. -/
def Orderly : Act ι → Prop
  | .run t _ =>
    (w.threads t).todo.head? = some .stopWfdSession →
      ∀ l, w.Holds t l → w.rtspServer ≠ some l.owner
  | _ => True

end World

end TcpServer

end WifiDisplay
