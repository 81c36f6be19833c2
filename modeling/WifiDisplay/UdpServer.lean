import Mathlib.Logic.Function.Basic
import Mathlib.Data.List.Nodup
import WifiDisplay.GuardedRuns
import WifiDisplay.PartialMaps

/-! `UdpServer`: a session for each sender, with a descriptor of its own, in two maps. -/

namespace WifiDisplay

structure SockAddr where
  address : BitVec 32
  port : BitVec 16
  deriving DecidableEq

/-- The sender that the session was made for, and its descriptor; `live` says that the session has
its socket. -/
structure UdpSession where
  peer : SockAddr
  peerFd : Int
  live : Bool := true
  deriving DecidableEq

/-- How a socket for a new sender comes out; with a descriptor, whether it can be bound, and whether
it can be connected then. -/
inductive ClientSocket where
  | fails
  | opened (fd : Int) (bound connected : Bool)
  deriving DecidableEq

/-- The client descriptors are numbered as they are opened, and a session has the number of its
descriptor. `owner` is what the kernel has under a descriptor's name now, and `closes` counts the
calls of `close` for each client descriptor. -/
structure UdpServer where
  socket : Option Int := none
  sessionMap : List (Int × Option Nat) := []
  addrToFdMap : List (SockAddr × Int) := []
  opened : Nat := 0
  owner : Int → Option Nat := fun _ => none
  closes : Nat → Nat := fun _ => 0
  sessions : Nat → Option UdpSession := fun _ => none

inductive UdpCall where
  | start (localFd : Int)
  | stop
  | closeClientSocket (fd : Int)
  | datagram (fd : Int) (sender : SockAddr) (client : ClientSocket)

namespace UdpServer

variable (s : UdpServer)

/-- `close` under the name of the client descriptor `n`. -/
def closeSocket (fd : Int) (n : Nat) : UdpServer :=
  { s with
    owner := Function.update s.owner fd none
    closes := Function.update s.closes n (s.closes n + 1) }

/-- `UdpSession::Shutdown`. -/
def shutdown (n : Nat) : UdpServer :=
  match s.sessions n with
  | none => s
  | some session =>
    if session.live then
      { s.closeSocket session.peerFd n with
        sessions := Function.update s.sessions n (some { session with live := false }) }
    else s

def stop : UdpServer :=
  { (s.sessionMap.filterMap (·.2)).foldl shutdown s with socket := none }

def find (fd : Int) : Option (Option Nat) := (s.sessionMap.find? (·.1 = fd)).map (·.2)

/-- The descriptor is closed behind the `Shutdown` of its session, which has closed it. -/
def closeClientSocket (fd : Int) : UdpServer :=
  if 0 < fd then
    match s.find fd with
    | none => s
    | some session =>
      let s' := match session with
        | some n => (s.shutdown n).closeSocket fd n
        | none => s
      { s' with sessionMap := s'.sessionMap.filter (·.1 ≠ fd) }
  else s

/-- `sessionMap_[fd]`. -/
def session (fd : Int) : UdpServer × Option Nat :=
  match s.find fd with
  | some session => (s, session)
  | none => ({ s with sessionMap := s.sessionMap ++ [(fd, none)] }, none)

/-- The new descriptor is one that the kernel has free. -/
def Free (fd : Int) : Prop := s.owner fd = none ∧ s.socket ≠ some fd

instance (fd : Int) : Decidable (s.Free fd) := inferInstanceAs (Decidable (_ ∧ _))

/-- A session that finds its descriptor in the map is dropped again. -/
def createSession (n : Nat) (sender : SockAddr) (fd : Int) : UdpServer × Option Nat :=
  let s := { s with addrToFdMap := s.addrToFdMap ++ [(sender, fd)] }
  match s.find fd with
  | some session => (s, session)
  | none =>
    ({ s with
        sessionMap := s.sessionMap ++ [(fd, some n)]
        sessions := Function.update s.sessions n (some { peer := sender, peerFd := fd }) }, some n)

def findOrCreateSession (sender : SockAddr) (client : ClientSocket) : UdpServer × Option Nat :=
  match s.addrToFdMap.find? (·.1 = sender) with
  | some entry => s.session entry.2
  | none =>
    match client with
    | .fails => (s, none)
    | .opened fd bound connected =>
      let n := s.opened
      let s' := { s with opened := n + 1, owner := Function.update s.owner fd (some n) }
      if ¬ s.Free fd then (s, none)
      else if !bound then (s', none)
      else if !connected then (s'.closeSocket fd n, none)
      else s'.createSession n sender fd

/-- A datagram that is read from the socket of the server, and the session that it is passed on
with. -/
def onServerReadable (fd : Int) (sender : SockAddr) (client : ClientSocket) : UdpServer × Option Nat :=
  if s.socket = some fd then s.findOrCreateSession sender client else (s, none)

def step : UdpCall → UdpServer
  | .start localFd => { s with socket := some localFd }
  | .stop => s.stop
  | .closeClientSocket fd => s.closeClientSocket fd
  | .datagram fd sender client => (s.onServerReadable fd sender client).1

def isLive (n : Nat) : Bool := (s.sessions n).any (·.live)

/-- A datagram is passed on with the session of its sender, the maps have the same descriptors, each
client descriptor has been closed once, unless its session lives, and that has its own still. -/
structure Right (call : UdpCall) : Prop where
  delivers : ∀ fd sender client, call = .datagram fd sender client →
    ∀ n, (s.onServerReadable fd sender client).2 = some n →
      ∃ session, (s.step call).sessions n = some session ∧ session.live = true ∧ session.peer = sender
  maps : ∀ fd, fd ∈ (s.step call).addrToFdMap.map (·.2) ↔ fd ∈ (s.step call).sessionMap.map (·.1)
  closes : ∀ n < (s.step call).opened, (s.step call).closes n = if (s.step call).isLive n then 0 else 1
  owned : ∀ n session, (s.step call).sessions n = some session → session.live = true →
    (s.step call).owner session.peerFd = some n

/-- The condition on a call: no client socket is closed, no sender comes back to a session that was
shut down, and a socket for a new one can be bound and has a number that is in no map. -/
def Safe : UdpCall → Prop
  | .start _ | .stop => True
  | .closeClientSocket fd => ¬ (0 < fd ∧ fd ∈ s.sessionMap.map (·.1))
  | .datagram fd sender client => s.socket = some fd →
    match s.addrToFdMap.find? (·.1 = sender) with
    | some entry => ∃ n, s.find entry.2 = some (some n) ∧ s.isLive n = true
    | none => ∀ clientFd bound connected, client = .opened clientFd bound connected → s.Free clientFd →
      bound = true ∧ (connected = true → s.find clientFd = none)

end UdpServer

end WifiDisplay

/-! The runs of `UdpServer` that keep its maps, its sessions and their descriptors together. -/

namespace WifiDisplay

namespace UdpServer

variable {s : UdpServer} {fd : Int} {n : Nat}

/-- Each entry of the one map has its entry in the other, by way of its session. -/
structure Sound (s : UdpServer) : Prop where
  maps : s.addrToFdMap.map (·.2) = s.sessionMap.map (·.1)
  nodup : (s.sessionMap.map (·.1)).Nodup
  entry : ∀ fd v, (fd, v) ∈ s.sessionMap → ∃ n session, v = some n ∧ s.sessions n = some session ∧
    session.peerFd = fd ∧ (session.peer, fd) ∈ s.addrToFdMap
  live : ∀ n session, s.sessions n = some session → session.live = true →
    (session.peerFd, some n) ∈ s.sessionMap ∧ s.owner session.peerFd = some n
  fresh : ∀ n, s.opened ≤ n → s.sessions n = none ∧ s.closes n = 0
  closes : ∀ n < s.opened, s.closes n = if s.isLive n then 0 else 1

theorem sound_init : Sound {} where
  maps := rfl
  nodup := List.nodup_nil
  entry _ _ h := by cases h
  live _ _ h := by cases h
  fresh _ _ := ⟨rfl, rfl⟩
  closes _ h := absurd h (Nat.not_lt_zero _)

theorem Sound.exists_session (hs : s.Sound) {sender : SockAddr} {entry : SockAddr × Int}
    (h : s.addrToFdMap.find? (·.1 = sender) = some entry) :
    ∃ n session, s.find entry.2 = some (some n) ∧ s.sessions n = some session ∧ session.peer = sender := by
  have hmem := List.mem_of_find?_eq_some h
  have hsender : entry.1 = sender := by simpa using List.find?_some h
  have hkey : entry.2 ∈ s.sessionMap.map (·.1) := by
    rw [← hs.maps]
    exact List.mem_map_of_mem hmem
  cases hfind : s.find entry.2 with
  | none => exact absurd hkey (PartialMap.find?_eq_none.mp hfind)
  | some v =>
    obtain ⟨n, session, rfl, hsession, -, hpeer⟩ := hs.entry _ _ (PartialMap.mem_of_find? hfind)
    have hnodup : (s.addrToFdMap.map (·.2)).Nodup := by
      rw [hs.maps]
      exact hs.nodup
    have hsame : (session.peer, entry.2) = entry := List.inj_on_of_nodup_map hnodup hpeer hmem rfl
    refine ⟨n, session, rfl, hsession, ?_⟩
    rw [← hsender, ← hsame]

theorem Sound.live_inj (hs : s.Sound) {m n : Nat} {session session' : UdpSession}
    (hm : s.sessions m = some session) (hlive : session.live = true)
    (hn : s.sessions n = some session') (hlive' : session'.live = true)
    (hfd : session.peerFd = session'.peerFd) : m = n := by
  have hmem := (hs.live m session hm hlive).1
  have hmem' := (hs.live n session' hn hlive').1
  have hsame := List.inj_on_of_nodup_map hs.nodup hmem hmem' hfd
  simpa using congrArg Prod.snd hsame

theorem Sound.lt_opened (hs : s.Sound) {session : UdpSession} (h : s.sessions n = some session) :
    n < s.opened := by
  by_contra hle
  rw [(hs.fresh n (by omega)).1] at h
  cases h

theorem Sound.shutdown (hs : s.Sound) (n : Nat) : (s.shutdown n).Sound := by
  rw [UdpServer.shutdown]
  split
  · exact hs
  rename_i session hsession
  split
  swap
  · exact hs
  rename_i hlive
  have hlt := hs.lt_opened hsession
  have hother : ∀ m, m ≠ n → (Function.update s.sessions n (some { session with live := false })) m = s.sessions m :=
    fun m hm => Function.update_of_ne hm _ _
  refine ⟨hs.maps, hs.nodup, fun fd v hmem => ?_, fun m session' hm hlive' => ?_, fun m hm => ?_,
    fun m hm => ?_⟩
  · obtain ⟨m, session', rfl, hm, hfd, hpeer⟩ := hs.entry fd v hmem
    by_cases hmn : m = n
    · subst hmn
      rw [hsession] at hm
      cases hm
      exact ⟨m, _, rfl, Function.update_self _ _ _, hfd, hpeer⟩
    · exact ⟨m, session', rfl, (hother m hmn).trans hm, hfd, hpeer⟩
  · rcases PartialMap.eq_some_of_insert hm with ⟨rfl, rfl⟩ | ⟨hmn, hm'⟩
    · cases hlive'
    · obtain ⟨hmem, howner⟩ := hs.live m session' hm' hlive'
      refine ⟨hmem, ?_⟩
      have hfd : session'.peerFd ≠ session.peerFd := fun h => hmn (hs.live_inj hm' hlive' hsession hlive h)
      exact (Function.update_of_ne hfd _ _).trans howner
  · have hmn : m ≠ n := by
      rintro rfl
      exact absurd hlt (Nat.not_lt.mpr hm)
    obtain ⟨hnone, hzero⟩ := hs.fresh m hm
    exact ⟨(hother m hmn).trans hnone, (Function.update_of_ne hmn _ _).trans hzero⟩
  · by_cases hmn : m = n
    · subst hmn
      have hopen := hs.closes m hlt
      rw [isLive, hsession, Option.any_some, hlive, if_pos rfl] at hopen
      simp [closeSocket, isLive, hopen]
    · have hcloses := hs.closes m hm
      simp only [isLive, closeSocket, Function.update_of_ne hmn]
      exact hcloses

theorem Sound.stop (hs : s.Sound) : s.stop.Sound := by
  have hfold : ∀ (ns : List Nat) (s : UdpServer), s.Sound → (ns.foldl UdpServer.shutdown s).Sound := by
    intro ns
    induction ns with
    | nil => exact fun _ h => h
    | cons n ns ih => exact fun s h => ih _ (h.shutdown n)
  have hall := hfold (s.sessionMap.filterMap (·.2)) s hs
  exact ⟨hall.maps, hall.nodup, hall.entry, hall.live, hall.fresh, hall.closes⟩

/-- What a sound state says of the call that led to it, apart from a datagram that is passed on. -/
theorem Sound.right {call : UdpCall} (hs : (s.step call).Sound)
    (hdelivers : ∀ fd sender client, call = .datagram fd sender client →
      ∀ n, (s.onServerReadable fd sender client).2 = some n →
        ∃ session, (s.step call).sessions n = some session ∧ session.live = true ∧ session.peer = sender) :
    s.Right call where
  delivers := hdelivers
  maps fd := by rw [hs.maps]
  closes := hs.closes
  owned n session h hlive := (hs.live n session h hlive).2

theorem sessionMap_shutdown (n : Nat) :
    (s.shutdown n).sessionMap = s.sessionMap ∧ (s.shutdown n).addrToFdMap = s.addrToFdMap := by
  rw [UdpServer.shutdown]
  split
  · exact ⟨rfl, rfl⟩
  · split <;> exact ⟨rfl, rfl⟩

/-- A client socket that is closed stays in the other map. -/
theorem Sound.closeClientSocket_not_right (hs : s.Sound) (hpos : 0 < fd)
    (hmem : fd ∈ s.sessionMap.map (·.1)) : ¬ s.Right (.closeClientSocket fd) := by
  intro hright
  have haddr : fd ∈ (s.closeClientSocket fd).addrToFdMap.map (·.2) ∧
      fd ∉ (s.closeClientSocket fd).sessionMap.map (·.1) := by
    rw [closeClientSocket, if_pos hpos]
    have hnot : ∀ entries : List (Int × Option Nat), fd ∉ (entries.filter (·.1 ≠ fd)).map (·.1) := by
      intro entries hmem
      obtain ⟨entry, hentry, hfd⟩ := List.mem_map.mp hmem
      simpa [hfd] using (List.mem_filter.mp hentry).2
    cases hfind : s.find fd with
    | none => exact absurd hmem (PartialMap.find?_eq_none.mp hfind)
    | some v =>
      refine ⟨?_, hnot _⟩
      cases v with
      | none => rwa [hs.maps]
      | some n =>
        change fd ∈ (s.shutdown n).addrToFdMap.map (·.2)
        rwa [(sessionMap_shutdown n).2, hs.maps]
  exact haddr.2 ((hright.maps fd).mp haddr.1)

section Created

variable {sender : SockAddr}

theorem Sound.closed (hs : s.Sound) (hfree : s.Free fd) :
    ({ s with opened := s.opened + 1, owner := Function.update s.owner fd (some s.opened) }.closeSocket fd
      s.opened).Sound := by
  refine ⟨hs.maps, hs.nodup, hs.entry, fun n session hn hlive => ?_, fun n hn => ?_, fun n hn => ?_⟩
  · obtain ⟨hmem, howner⟩ := hs.live n session hn hlive
    refine ⟨hmem, ?_⟩
    have hfd : session.peerFd ≠ fd := by
      rintro rfl
      rw [hfree.1] at howner
      cases howner
    simpa only [closeSocket, Function.update_of_ne hfd] using howner
  · have hlt : s.opened < n := hn
    obtain ⟨hnone, hzero⟩ := hs.fresh n (Nat.le_of_lt hlt)
    refine ⟨hnone, ?_⟩
    simpa only [closeSocket, Function.update_of_ne (Nat.ne_of_gt hlt)] using hzero
  · rcases Nat.lt_succ_iff_lt_or_eq.mp hn with hlt | rfl
    · have hcloses := hs.closes n hlt
      simp only [closeSocket, isLive, Function.update_of_ne (Nat.ne_of_lt hlt)]
      exact hcloses
    · obtain ⟨hnone, hzero⟩ := hs.fresh s.opened (Nat.le_refl _)
      simp [closeSocket, isLive, hnone, hzero]

/-- A descriptor that could not be bound is open for ever. -/
theorem Sound.unbound_not_closed (hs : s.Sound) :
    s.closes s.opened ≠ if s.isLive s.opened then 0 else 1 := by
  obtain ⟨hnone, hzero⟩ := hs.fresh s.opened (Nat.le_refl _)
  simp [isLive, hnone, hzero]

theorem Sound.created (hs : s.Sound) (hfree : s.Free fd) (hnew : s.find fd = none) :
    Sound { s with
      opened := s.opened + 1
      owner := Function.update s.owner fd (some s.opened)
      addrToFdMap := s.addrToFdMap ++ [(sender, fd)]
      sessionMap := s.sessionMap ++ [(fd, some s.opened)]
      sessions := Function.update s.sessions s.opened (some { peer := sender, peerFd := fd }) } := by
  have hsession : ∀ n, n ≠ s.opened →
      Function.update s.sessions s.opened (some { peer := sender, peerFd := fd }) n = s.sessions n :=
    fun n hn => Function.update_of_ne hn _ _
  refine ⟨by simp [hs.maps], ?_, fun fd' v hmem => ?_, fun n session hn hlive => ?_, fun n hn => ?_,
    fun n hn => ?_⟩
  · rw [List.map_append]
    refine List.nodup_append.mpr ⟨hs.nodup, List.nodup_singleton _, fun a ha b hb => ?_⟩
    obtain rfl := List.mem_singleton.mp hb
    rintro rfl
    exact PartialMap.find?_eq_none.mp hnew ha
  · rcases List.mem_append.mp hmem with hold | hlast
    · obtain ⟨n, session, rfl, hn, hfd, hpeer⟩ := hs.entry fd' v hold
      have hlt := hs.lt_opened hn
      exact ⟨n, session, rfl, (hsession n (Nat.ne_of_lt hlt)).trans hn, hfd, List.mem_append_left _ hpeer⟩
    · cases List.mem_singleton.mp hlast
      exact ⟨s.opened, _, rfl, Function.update_self _ _ _, rfl, List.mem_append_right _ List.mem_cons_self⟩
  · rcases PartialMap.eq_some_of_insert hn with ⟨rfl, rfl⟩ | ⟨-, hn'⟩
    · exact ⟨List.mem_append_right _ List.mem_cons_self, Function.update_self _ _ _⟩
    · obtain ⟨hmem, howner⟩ := hs.live n session hn' hlive
      have hfd : session.peerFd ≠ fd := by
        rintro rfl
        rw [hfree.1] at howner
        cases howner
      exact ⟨List.mem_append_left _ hmem, (Function.update_of_ne hfd _ _).trans howner⟩
  · have hlt : s.opened < n := hn
    obtain ⟨hnone, hzero⟩ := hs.fresh n (Nat.le_of_lt hlt)
    exact ⟨(hsession n (Nat.ne_of_gt hlt)).trans hnone, hzero⟩
  · rcases Nat.lt_succ_iff_lt_or_eq.mp hn with hlt | rfl
    · simp only [isLive, hsession n (Nat.ne_of_lt hlt)]
      exact hs.closes n hlt
    · simp [isLive, (hs.fresh s.opened (Nat.le_refl _)).2]

end Created

/-- A call that leaves the server as it is and passes nothing on. -/
theorem Sound.right_of_same (hs : s.Sound) {call : UdpCall} (hsame : s.step call = s)
    (hnone : ∀ fd sender client, call = .datagram fd sender client →
      (s.onServerReadable fd sender client).2 = none) : s.Right call ∧ (s.step call).Sound := by
  have hsound : (s.step call).Sound := by rwa [hsame]
  refine ⟨hsound.right fun fd sender client hcall n hn => ?_, hsound⟩
  rw [hnone fd sender client hcall] at hn
  cases hn

theorem Sound.known_right_iff (hs : s.Sound) {sender : SockAddr} {client : ClientSocket}
    {entry : SockAddr × Int} (hsocket : s.socket = some fd)
    (hentry : s.addrToFdMap.find? (·.1 = sender) = some entry) :
    s.step (.datagram fd sender client) = s ∧ (s.Right (.datagram fd sender client) ↔
      ∃ n, s.find entry.2 = some (some n) ∧ s.isLive n = true) := by
  obtain ⟨n, session, hfind, hsession, hpeer⟩ := hs.exists_session hentry
  have hread : s.onServerReadable fd sender client = (s, some n) := by
    rw [onServerReadable, if_pos hsocket]
    simp only [findOrCreateSession, hentry, UdpServer.session, hfind]
  have hsame : s.step (.datagram fd sender client) = s := by rw [step, hread]
  refine ⟨hsame, ?_⟩
  constructor
  · intro hright
    obtain ⟨session', hsession', hlive, -⟩ := hright.delivers fd sender client rfl n (by rw [hread])
    rw [hsame] at hsession'
    exact ⟨n, hfind, by rw [isLive, hsession', Option.any_some, hlive]⟩
  · rintro ⟨n', hfind', hlive⟩
    rw [hfind] at hfind'
    cases hfind'
    have hsound : (s.step (.datagram fd sender client)).Sound := by rwa [hsame]
    refine hsound.right fun fd' sender' client' hcall m hm => ?_
    cases hcall
    rw [hread] at hm
    cases hm
    rw [hsame]
    refine ⟨session, hsession, ?_, hpeer⟩
    rwa [isLive, hsession, Option.any_some] at hlive

def opening (s : UdpServer) (clientFd : Int) : UdpServer :=
  { s with opened := s.opened + 1, owner := Function.update s.owner clientFd (some s.opened) }

theorem onServerReadable_opened {sender : SockAddr} {clientFd : Int} {bound connected : Bool}
    (hsocket : s.socket = some fd) (hentry : s.addrToFdMap.find? (·.1 = sender) = none)
    (hfree : s.Free clientFd) :
    s.onServerReadable fd sender (.opened clientFd bound connected) =
      if !bound then (s.opening clientFd, none)
      else if !connected then ((s.opening clientFd).closeSocket clientFd s.opened, none)
      else (s.opening clientFd).createSession s.opened sender clientFd := by
  rw [onServerReadable, if_pos hsocket, findOrCreateSession, hentry]
  dsimp only
  rw [if_neg (not_not.mpr hfree)]
  rfl

/-- A new sender whose socket is bound and connected gets a session, unless one is in the way. -/
theorem Sound.connected_right_iff (hs : s.Sound) {sender : SockAddr} {clientFd : Int} {call : UdpCall}
    (hcall : call = .datagram fd sender (.opened clientFd true true)) (hsocket : s.socket = some fd)
    (hentry : s.addrToFdMap.find? (·.1 = sender) = none) (hfree : s.Free clientFd) :
    (s.Right call ↔ s.find clientFd = none) ∧ (s.Right call → (s.step call).Sound) := by
  have hcreate : s.onServerReadable fd sender (.opened clientFd true true) =
      (s.opening clientFd).createSession s.opened sender clientFd :=
    onServerReadable_opened hsocket hentry hfree
  have hstep : s.step call = (s.onServerReadable fd sender (.opened clientFd true true)).1 := by
    rw [hcall, step]
  have hfind : { s.opening clientFd with
      addrToFdMap := (s.opening clientFd).addrToFdMap ++ [(sender, clientFd)] }.find clientFd =
        s.find clientFd := rfl
  cases hnew : s.find clientFd with
  | none =>
    rw [createSession, hfind, hnew] at hcreate
    have hsound : (s.step call).Sound := by
      rw [hstep, hcreate]
      exact hs.created hfree hnew
    have hright : s.Right call := by
      refine hsound.right fun fd' sender' client' hcall' n hn => ?_
      rw [hcall] at hcall'
      cases hcall'
      rw [hcreate] at hn
      cases hn
      rw [hstep, hcreate]
      exact ⟨_, Function.update_self _ _ _, rfl, rfl⟩
    exact ⟨iff_of_true hright rfl, fun _ => hsound⟩
  | some v =>
    rw [createSession, hfind, hnew] at hcreate
    have hnot : ¬ s.Right call := by
      intro hright
      -- the session that stands in the way is another sender's
      obtain ⟨n, session, rfl, hsession, -, hpeer⟩ := hs.entry _ _ (PartialMap.mem_of_find? hnew)
      obtain ⟨session', hsession', -, hsame⟩ :=
        hright.delivers fd sender (.opened clientFd true true) hcall n (by rw [hcreate])
      rw [hstep, hcreate] at hsession'
      have hsessions : some session = some session' := hsession.symm.trans hsession'
      cases hsessions
      exact List.find?_eq_none.mp hentry _ hpeer (by simpa using hsame)
    exact ⟨iff_of_false hnot nofun, fun hright => absurd hright hnot⟩

/-- A datagram of a new sender, for whom a descriptor is opened. -/
theorem Sound.unknown_right_iff (hs : s.Sound) {sender : SockAddr} {clientFd : Int}
    {bound connected : Bool} (hsocket : s.socket = some fd)
    (hentry : s.addrToFdMap.find? (·.1 = sender) = none) (hfree : s.Free clientFd) :
    (s.Right (.datagram fd sender (.opened clientFd bound connected)) ↔
      bound = true ∧ (connected = true → s.find clientFd = none)) ∧
    (s.Right (.datagram fd sender (.opened clientFd bound connected)) →
      (s.step (.datagram fd sender (.opened clientFd bound connected))).Sound) := by
  generalize hcall : UdpCall.datagram fd sender (.opened clientFd bound connected) = call
  have hread := @onServerReadable_opened s fd sender clientFd bound connected hsocket hentry hfree
  have hstep : s.step call = (s.onServerReadable fd sender (.opened clientFd bound connected)).1 := by
    rw [← hcall, step]
  cases bound with
  | false =>
    have hnot : ¬ s.Right call := by
      intro hright
      have hcloses := hright.closes s.opened
      rw [hstep, hread] at hcloses
      exact hs.unbound_not_closed (hcloses (Nat.lt_succ_self _))
    exact ⟨iff_of_false hnot (by simp), fun hright => absurd hright hnot⟩
  | true =>
    cases connected with
    | false =>
      have hsound : (s.step call).Sound := by
        rw [hstep, hread]
        exact hs.closed hfree
      have hright : s.Right call := by
        refine hsound.right fun fd' sender' client' hcall' n hn => ?_
        rw [← hcall] at hcall'
        cases hcall'
        rw [hread] at hn
        cases hn
      exact ⟨iff_of_true hright (by simp), fun _ => hsound⟩
    | true =>
      obtain ⟨hiff, hsound⟩ := hs.connected_right_iff hcall.symm hsocket hentry hfree
      exact ⟨hiff.trans (by simp), hsound⟩

theorem Sound.step (hs : s.Sound) (call : UdpCall) :
    (s.Right call ↔ s.Safe call) ∧ (s.Right call → (s.step call).Sound) := by
  cases call with
  | start localFd =>
    have hsound : (s.step (.start localFd)).Sound :=
      ⟨hs.maps, hs.nodup, hs.entry, hs.live, hs.fresh, hs.closes⟩
    exact ⟨iff_of_true (hsound.right nofun) trivial, fun _ => hsound⟩
  | stop => exact ⟨iff_of_true (@Sound.right s .stop hs.stop nofun) trivial, fun _ => hs.stop⟩
  | closeClientSocket fd =>
    by_cases hclose : 0 < fd ∧ fd ∈ s.sessionMap.map (·.1)
    · have hnot := hs.closeClientSocket_not_right hclose.1 hclose.2
      exact ⟨iff_of_false hnot (not_not.mpr hclose), fun h => absurd h hnot⟩
    · have hsame : s.step (.closeClientSocket fd) = s := by
        rw [UdpServer.step, closeClientSocket]
        split
        · have hnone : s.find fd = none :=
            PartialMap.find?_eq_none.mpr fun hmem => hclose ⟨‹_›, hmem⟩
          rw [hnone]
        · rfl
      obtain ⟨hright, hsound⟩ := hs.right_of_same hsame nofun
      exact ⟨iff_of_true hright hclose, fun _ => hsound⟩
  | datagram fd sender client =>
    by_cases hsocket : s.socket = some fd
    swap
    · have hread : s.onServerReadable fd sender client = (s, none) := if_neg hsocket
      obtain ⟨hright, hsound⟩ := @Sound.right_of_same s hs (.datagram fd sender client)
        (by rw [UdpServer.step, hread]) (by rintro _ _ _ ⟨⟩; rw [hread])
      exact ⟨iff_of_true hright fun h => absurd h hsocket, fun _ => hsound⟩
    rw [Safe, forall_prop_of_true hsocket]
    cases hentry : s.addrToFdMap.find? (·.1 = sender) with
    | some entry =>
      obtain ⟨hsame, hiff⟩ := @Sound.known_right_iff s fd hs sender client entry hsocket hentry
      exact ⟨hiff, fun _ => by rwa [hsame]⟩
    | none =>
      have hread : ∀ client, s.findOrCreateSession sender client = (s, none) →
          s.Right (.datagram fd sender client) ∧ (s.step (.datagram fd sender client)).Sound := by
        intro client hfind
        have hread : s.onServerReadable fd sender client = (s, none) := by
          rw [onServerReadable, if_pos hsocket, hfind]
        exact hs.right_of_same (by rw [UdpServer.step, hread]) (by rintro _ _ _ ⟨⟩; rw [hread])
      cases client with
      | fails =>
        obtain ⟨hright, hsound⟩ := hread .fails (by rw [findOrCreateSession, hentry])
        exact ⟨iff_of_true hright nofun, fun _ => hsound⟩
      | opened clientFd bound connected =>
        by_cases hfree : s.Free clientFd
        · obtain ⟨hiff, hsound⟩ :=
            @Sound.unknown_right_iff s fd hs sender clientFd bound connected hsocket hentry hfree
          refine ⟨hiff.trans ⟨?_, fun h => h clientFd bound connected rfl hfree⟩, hsound⟩
          rintro h _ _ _ ⟨⟩ -
          exact h
        · obtain ⟨hright, hsound⟩ := hread (.opened clientFd bound connected) (by
            rw [findOrCreateSession, hentry]
            exact if_pos hfree)
          refine ⟨iff_of_true hright ?_, fun _ => hsound⟩
          rintro _ _ _ ⟨⟩ h
          exact absurd h hfree

end UdpServer

end WifiDisplay
