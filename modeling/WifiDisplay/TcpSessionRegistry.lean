import Mathlib.Logic.Function.Basic
import WifiDisplay.GuardedRuns
import WifiDisplay.PartialMaps

/-! `sessions_` of a `TcpServer`: the sessions under the numbers of their descriptors, which the
kernel gives out again. -/

namespace WifiDisplay

/-- `live` says that the session has its socket. -/
structure TcpSession where
  peerFd : Int
  live : Bool := true
  deriving DecidableEq

inductive Descriptor where
  | listening
  | client (n : Nat)
  deriving DecidableEq

/-- The connections are numbered as they are accepted, and a session has the number of its
connection. `owner` is what the kernel has under a number now. -/
structure TcpSessionRegistry where
  socketLocalFd : Int := -1
  socket : Option Int := none
  sessions : List (Int × Nat) := []
  tcpSessions : Nat → Option TcpSession := fun _ => none
  owner : Int → Option Descriptor := fun _ => none
  accepted : Nat := 0

/-- A `start` and an `accept` name the number that the kernel answers with; `listener` says that the
callback of the server is still there. -/
inductive TcpCall where
  | start (fd : Int) (bound : Bool)
  | stop
  | closeClientSocket (fd : Int)
  | shutdown (n : Nat)
  | accept (fd clientFd : Int) (listener : Bool)

namespace TcpSessionRegistry

variable (s : TcpSessionRegistry)

/-- The numbers that the kernel may answer with; a call that fails is one that names no such number. -/
def Free (fd : Int) : Prop := 0 ≤ fd ∧ s.owner fd = none

instance (fd : Int) : Decidable (s.Free fd) := inferInstanceAs (Decidable (_ ∧ _))

def closeSocket (fd : Int) : TcpSessionRegistry :=
  if 0 ≤ fd then { s with owner := Function.update s.owner fd none } else s

/-- `TcpSession::Shutdown`. -/
def shutdown (n : Nat) : TcpSessionRegistry :=
  match s.tcpSessions n with
  | none => s
  | some session =>
    if session.live then
      { s.closeSocket session.peerFd with
        tcpSessions := Function.update s.tcpSessions n (some { session with live := false }) }
    else s

/-- A socket that cannot be bound stays in `socket_`, and so does one without a descriptor. -/
def start (fd : Int) (bound : Bool) : TcpSessionRegistry :=
  if s.Free fd then
    { s with
      socket := some fd
      owner := Function.update s.owner fd (some .listening)
      socketLocalFd := if bound then fd else s.socketLocalFd }
  else { s with socket := some (-1) }

def stop : TcpSessionRegistry :=
  match s.socket with
  | none => s
  | some fd =>
    { (s.sessions.map (·.2)).foldl shutdown (s.closeSocket fd) with sessions := [], socket := none }

def find (fd : Int) : Option Nat := (s.sessions.find? (·.1 = fd)).map (·.2)

def closeClientSocket (fd : Int) : TcpSessionRegistry :=
  if 0 < fd then
    match s.find fd with
    | none => s
    | some n => { s.shutdown n with sessions := s.sessions.filter (·.1 ≠ fd) }
  else s

/-- The kernel gives the server a connection. -/
def Accepts (fd clientFd : Int) : Prop := fd = s.socketLocalFd ∧ 0 ≤ fd ∧ s.Free clientFd

instance (fd clientFd : Int) : Decidable (s.Accepts fd clientFd) :=
  inferInstanceAs (Decidable (_ ∧ _ ∧ _))

/-- `sessions_.insert` and `sessions_[clientFd]`. A session that finds its number in the map is
dropped, and its destructor shuts it down. -/
def insert (n : Nat) (clientFd : Int) : TcpSessionRegistry × Nat :=
  let s := { s with tcpSessions := Function.update s.tcpSessions n (some { peerFd := clientFd }) }
  match s.find clientFd with
  | some m => (s.shutdown n, m)
  | none => ({ s with sessions := s.sessions ++ [(clientFd, n)] }, n)

def connected (clientFd : Int) : TcpSessionRegistry :=
  { s with
    accepted := s.accepted + 1
    owner := Function.update s.owner clientFd (some (.client s.accepted)) }

/-- The second component is the session that `OnAccept` is called with. -/
def onServerReadable (fd clientFd : Int) (listener : Bool) : TcpSessionRegistry × Option Nat :=
  if s.Accepts fd clientFd then
    let s' := s.connected clientFd
    if s.socket = none then (s', none)
    else
      let (s', n) := s'.insert s.accepted clientFd
      (s', if listener then some n else none)
  else (s, none)

def step : TcpCall → TcpSessionRegistry
  | .start fd bound => s.start fd bound
  | .stop => s.stop
  | .closeClientSocket fd => s.closeClientSocket fd
  | .shutdown n => s.shutdown n
  | .accept fd clientFd listener => (s.onServerReadable fd clientFd listener).1

/-- A connection is announced with its own session, which has its descriptor; two live sessions have
two descriptors, and a descriptor is not closed under a live session. -/
structure Right (call : TcpCall) : Prop where
  announced : ∀ fd clientFd listener, call = .accept fd clientFd listener → s.Accepts fd clientFd →
    (s.onServerReadable fd clientFd listener).2 = some s.accepted ∧
      (s.step call).tcpSessions s.accepted = some { peerFd := clientFd, live := true }
  distinct : ∀ m n session session', (s.step call).tcpSessions m = some session → session.live = true →
    (s.step call).tcpSessions n = some session' → session'.live = true →
    session.peerFd = session'.peerFd → m = n
  owned : ∀ n session, (s.step call).tcpSessions n = some session → session.live = true →
    (s.step call).owner session.peerFd = some (.client n)

/-- The condition on a call: the server has its socket and its callback when it accepts a connection,
and no session in its map has the number of the new descriptor. -/
def Safe : TcpCall → Prop
  | .accept fd clientFd listener =>
    s.Accepts fd clientFd → s.socket ≠ none ∧ listener = true ∧ s.find clientFd = none
  | _ => True

end TcpSessionRegistry

end WifiDisplay

/-! The runs of the session registry: live sessions own their descriptors in all of them, and in some
a connection is announced with the session of another one. -/

namespace WifiDisplay

namespace TcpSessionRegistry

variable {s : TcpSessionRegistry} {fd : Int} {n : Nat}

/-- What every call keeps. -/
structure Sound (s : TcpSessionRegistry) : Prop where
  live : ∀ n session, s.tcpSessions n = some session → session.live = true →
    s.owner session.peerFd = some (.client n)
  fresh : ∀ n, s.accepted ≤ n → s.tcpSessions n = none
  entry : ∀ fd n, (fd, n) ∈ s.sessions → n < s.accepted
  socket : ∀ fd, s.socket = some fd → 0 ≤ fd → s.owner fd = some .listening

theorem sound_init : Sound {} where
  live _ _ h := by cases h
  fresh _ _ := rfl
  entry _ _ h := by cases h
  socket _ h := by cases h

theorem closeSocket_owner {other : Int} (h : other ≠ fd) : (s.closeSocket fd).owner other = s.owner other := by
  rw [closeSocket]
  split
  · exact Function.update_of_ne h _ _
  · rfl

theorem closeSocket_frame (s : TcpSessionRegistry) (fd : Int) : (s.closeSocket fd).tcpSessions = s.tcpSessions ∧
    (s.closeSocket fd).sessions = s.sessions ∧ (s.closeSocket fd).socket = s.socket ∧
    (s.closeSocket fd).accepted = s.accepted := by
  rw [closeSocket]
  split <;> exact ⟨rfl, rfl, rfl, rfl⟩

theorem shutdown_frame (s : TcpSessionRegistry) (n : Nat) : (s.shutdown n).sessions = s.sessions ∧
    (s.shutdown n).socket = s.socket ∧ (s.shutdown n).accepted = s.accepted := by
  rw [shutdown]
  split
  · exact ⟨rfl, rfl, rfl⟩
  · split
    · exact (closeSocket_frame s _).2
    · exact ⟨rfl, rfl, rfl⟩

/-- Two live sessions have two descriptors, as a descriptor has one owner. -/
theorem Sound.distinct (hs : s.Sound) {m n : Nat} {session session' : TcpSession}
    (hm : s.tcpSessions m = some session) (hlive : session.live = true)
    (hn : s.tcpSessions n = some session') (hlive' : session'.live = true)
    (hfd : session.peerFd = session'.peerFd) : m = n := by
  have howner := hs.live m session hm hlive
  rw [hfd, hs.live n session' hn hlive'] at howner
  cases howner
  rfl

theorem Sound.shutdown (hs : s.Sound) (n : Nat) : (s.shutdown n).Sound := by
  rw [TcpSessionRegistry.shutdown]
  split
  · exact hs
  rename_i session hsession
  split
  swap
  · exact hs
  rename_i hlive
  have howner := hs.live n session hsession hlive
  obtain ⟨-, hsessions, hsocket, haccepted⟩ := closeSocket_frame s session.peerFd
  refine ⟨fun m session' hm hlive' => ?_, fun m hm => ?_, fun fd m hmem => ?_, fun fd hfd hpos => ?_⟩
  · rcases PartialMap.eq_some_of_insert hm with ⟨rfl, rfl⟩ | ⟨hmn, hm'⟩
    · cases hlive'
    · have hfd : session'.peerFd ≠ session.peerFd :=
        fun h => hmn (hs.distinct hm' hlive' hsession hlive h)
      exact (closeSocket_owner hfd).trans (hs.live m session' hm' hlive')
  · have hnone := hs.fresh m (haccepted ▸ hm)
    have hmn : m ≠ n := by
      rintro rfl
      rw [hsession] at hnone
      cases hnone
    exact (Function.update_of_ne hmn _ _).trans hnone
  · have hlt := hs.entry fd m (hsessions ▸ hmem)
    exact haccepted.symm ▸ hlt
  · have hlistening := hs.socket fd (hsocket ▸ hfd) hpos
    have hne : fd ≠ session.peerFd := by
      rintro rfl
      rw [howner] at hlistening
      cases hlistening
    exact (closeSocket_owner hne).trans hlistening

/-- `socket_` is nothing to the sessions. -/
theorem shutdown_reset (n : Nat) :
    ({ s with socket := none } : TcpSessionRegistry).shutdown n = { s.shutdown n with socket := none } := by
  rw [TcpSessionRegistry.shutdown, TcpSessionRegistry.shutdown]
  cases s.tcpSessions n with
  | none => rfl
  | some session =>
    simp only [closeSocket]
    split
    · split <;> rfl
    · rfl

theorem Sound.foldl_shutdown (ns : List Nat) (hs : Sound { s with socket := none }) :
    Sound { ns.foldl TcpSessionRegistry.shutdown s with socket := none } := by
  induction ns generalizing s with
  | nil => exact hs
  | cons n ns ih =>
    refine ih ?_
    rw [← shutdown_reset]
    exact hs.shutdown n

/-- The listening socket is nobody's descriptor. -/
theorem Sound.closeSocket (hs : s.Sound) (hsocket : s.socket = some fd) :
    Sound { s.closeSocket fd with socket := none } := by
  obtain ⟨htcp, hsessions, -, haccepted⟩ := closeSocket_frame s fd
  refine ⟨fun n session hn hlive => ?_, fun n hn => ?_, fun fd' n hmem => ?_, nofun⟩
  · have howner := hs.live n session (htcp ▸ hn) hlive
    change (s.closeSocket fd).owner session.peerFd = some (.client n)
    rw [TcpSessionRegistry.closeSocket]
    split
    · have hne : session.peerFd ≠ fd := by
        rintro rfl
        rw [hs.socket _ hsocket ‹_›] at howner
        cases howner
      exact (Function.update_of_ne hne _ _).trans howner
    · exact howner
  · exact (congrFun htcp n).trans (hs.fresh n (haccepted ▸ hn))
  · have hlt := hs.entry fd' n (hsessions ▸ hmem)
    exact haccepted.symm ▸ hlt

theorem Sound.stop (hs : s.Sound) : s.stop.Sound := by
  rw [TcpSessionRegistry.stop]
  split
  · exact hs
  rename_i fd hsocket
  obtain ⟨hlive, hfresh, -, -⟩ := (hs.closeSocket hsocket).foldl_shutdown (s.sessions.map (·.2))
  exact ⟨hlive, hfresh, nofun, nofun⟩

theorem Sound.closeClientSocket (hs : s.Sound) (fd : Int) : (s.closeClientSocket fd).Sound := by
  rw [TcpSessionRegistry.closeClientSocket]
  split
  swap
  · exact hs
  split
  · exact hs
  · rename_i n hfind
    obtain ⟨hlive, hfresh, hentry, hsocket⟩ := hs.shutdown n
    obtain ⟨hsessions, -, -⟩ := shutdown_frame s n
    refine ⟨hlive, hfresh, fun fd' m hmem => hentry fd' m ?_, hsocket⟩
    rw [hsessions]
    exact (List.mem_filter.mp hmem).1

/-- A number that the kernel gives to a new descriptor. -/
theorem Sound.owner_ne (hs : s.Sound) (hfree : s.Free fd) {session : TcpSession}
    (hn : s.tcpSessions n = some session) (hlive : session.live = true) : session.peerFd ≠ fd := by
  have howner := hs.live n session hn hlive
  rintro rfl
  rw [hfree.2] at howner
  cases howner

theorem Sound.start (hs : s.Sound) (fd : Int) (bound : Bool) : (s.start fd bound).Sound := by
  rw [TcpSessionRegistry.start]
  split
  · rename_i hfree
    refine ⟨fun n session hn hlive => ?_, hs.fresh, hs.entry, ?_⟩
    · exact (Function.update_of_ne (hs.owner_ne hfree hn hlive) _ _).trans (hs.live n session hn hlive)
    · rintro _ ⟨⟩ -
      exact Function.update_self _ _ _
  · refine ⟨hs.live, hs.fresh, hs.entry, ?_⟩
    rintro _ ⟨⟩ hpos
    exact absurd hpos (by decide)

theorem Sound.connected (hs : s.Sound) (hfree : s.Free fd) : (s.connected fd).Sound := by
  refine ⟨fun n session hn hlive => ?_, fun n hn => ?_, fun fd' n hmem => ?_, fun fd' hfd hpos => ?_⟩
  · exact (Function.update_of_ne (hs.owner_ne hfree hn hlive) _ _).trans (hs.live n session hn hlive)
  · exact hs.fresh n (Nat.le_of_succ_le hn)
  · exact Nat.lt_succ_of_lt (hs.entry fd' n hmem)
  · have hlistening := hs.socket fd' hfd hpos
    have hne : fd' ≠ fd := by
      rintro rfl
      rw [hfree.2] at hlistening
      cases hlistening
    exact (Function.update_of_ne hne _ _).trans hlistening

/-- The new session, before it is looked for in the map. -/
def created (s : TcpSessionRegistry) (clientFd : Int) : TcpSessionRegistry :=
  { s.connected clientFd with
    tcpSessions := Function.update s.tcpSessions s.accepted (some { peerFd := clientFd }) }

theorem insert_connected (s : TcpSessionRegistry) (clientFd : Int) :
    (s.connected clientFd).insert s.accepted clientFd =
      match s.find clientFd with
      | some m => ((s.created clientFd).shutdown s.accepted, m)
      | none => ({ s.created clientFd with sessions := s.sessions ++ [(clientFd, s.accepted)] }, s.accepted) := rfl

theorem Sound.created (hs : s.Sound) (hfree : s.Free fd) : (s.created fd).Sound := by
  obtain ⟨hlive, hfresh, hentry, hsocket⟩ := hs.connected hfree
  refine ⟨fun n session hn hlive' => ?_, fun n hn => ?_, hentry, hsocket⟩
  · rcases PartialMap.eq_some_of_insert hn with ⟨rfl, rfl⟩ | ⟨-, hn⟩
    · exact Function.update_self _ _ _
    · exact hlive n session hn hlive'
  · exact (Function.update_of_ne (Nat.ne_of_gt hn) _ _).trans (hfresh n hn)

theorem Sound.insert (hs : s.Sound) (hfree : s.Free fd) :
    ((s.connected fd).insert s.accepted fd).1.Sound := by
  have hcreated := hs.created hfree
  rw [insert_connected]
  split
  · exact hcreated.shutdown s.accepted
  · obtain ⟨hlive, hfresh, hentry, hsocket⟩ := hcreated
    refine ⟨hlive, hfresh, fun fd' n hmem => ?_, hsocket⟩
    rcases List.mem_append.mp hmem with hold | hnew
    · exact hentry fd' n hold
    · cases List.mem_singleton.mp hnew
      exact Nat.lt_succ_self _

theorem Sound.step (hs : s.Sound) (call : TcpCall) : (s.step call).Sound := by
  cases call with
  | start fd bound => exact hs.start fd bound
  | stop => exact hs.stop
  | closeClientSocket fd => exact hs.closeClientSocket fd
  | shutdown n => exact hs.shutdown n
  | accept fd clientFd listener =>
    rw [TcpSessionRegistry.step, onServerReadable]
    split
    swap
    · exact hs
    rename_i haccepts
    split
    · exact hs.connected haccepts.2.2
    · exact hs.insert haccepts.2.2

theorem Sound.right_iff (hs : s.Sound) (call : TcpCall) : s.Right call ↔
    ∀ fd clientFd listener, call = .accept fd clientFd listener → s.Accepts fd clientFd →
      (s.onServerReadable fd clientFd listener).2 = some s.accepted ∧
        (s.step call).tcpSessions s.accepted = some { peerFd := clientFd, live := true } :=
  ⟨Right.announced, fun h => ⟨h, fun _ _ _ _ => (hs.step call).distinct, (hs.step call).live⟩⟩

/-- A connection is announced with its own session when no other session has its number. -/
theorem Sound.announced_iff (hs : s.Sound) {clientFd : Int} {listener : Bool}
    (haccepts : s.Accepts fd clientFd) :
    ((s.onServerReadable fd clientFd listener).2 = some s.accepted ∧
      (s.onServerReadable fd clientFd listener).1.tcpSessions s.accepted =
        some { peerFd := clientFd, live := true }) ↔
      s.socket ≠ none ∧ listener = true ∧ s.find clientFd = none := by
  rw [onServerReadable, if_pos haccepts]
  dsimp only
  by_cases hsocket : s.socket = none
  · simp [hsocket]
  rw [if_neg hsocket, insert_connected]
  cases listener with
  | false => simp
  | true =>
    cases hfind : s.find clientFd with
    | none => simp [hsocket, TcpSessionRegistry.created]
    | some m =>
      have hlt := hs.entry clientFd m (PartialMap.mem_of_find? hfind)
      simp [Nat.ne_of_lt hlt]

theorem Sound.right_iff_safe (hs : s.Sound) (call : TcpCall) : s.Right call ↔ s.Safe call := by
  rw [hs.right_iff]
  cases call with
  | accept fd clientFd listener =>
    constructor
    · intro h haccepts
      exact (hs.announced_iff haccepts).mp (h fd clientFd listener rfl haccepts)
    · rintro h _ _ _ ⟨⟩ haccepts
      exact (hs.announced_iff haccepts).mpr (h haccepts)
  | _ => exact iff_of_true nofun trivial

/-- The connections are announced with their own sessions exactly as long as the calls are safe. -/
theorem registry_right_iff_safe (calls : List TcpCall) :
    AllMeet TcpSessionRegistry.step Right {} calls ↔ AllMeet TcpSessionRegistry.step Safe {} calls :=
  AllMeet.congr (I := Sound) (fun _ call hs _ => ⟨hs.right_iff_safe call, fun _ => hs.step call⟩) sound_init
    (AllMeet.of_forall fun _ _ => trivial : AllMeet TcpSessionRegistry.step (fun _ _ => True) {} calls)

/-- A session shuts itself down, and the next connection gets its number: that is closed again, and
the old session is announced. -/
theorem reused_number_not_announced : ¬ ∀ calls, AllMeet TcpSessionRegistry.step Right {} calls := by
  intro h
  obtain ⟨-, -, -, haccept, -⟩ := h [.start 3 true, .accept 3 4 true, .shutdown 0, .accept 3 4 true]
  obtain ⟨hold, -⟩ := haccept.announced 3 4 true rfl (by decide)
  revert hold
  decide

end TcpSessionRegistry

end WifiDisplay
