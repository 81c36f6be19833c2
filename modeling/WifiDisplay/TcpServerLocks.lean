import Mathlib.Data.Fintype.Basic
import WifiDisplay.AgentSteps
import WifiDisplay.TcpServer

/-! A thread takes the mutexes of the servers and their sessions in one order, as long as no
callback of a server stops this server. -/

namespace WifiDisplay

/-- What a notification of the session under a mutex leads to: no start and no event. -/
def Agent.Output.isQuiet : Agent.Output → Bool
  | .updateOperation .start _ | .sessionEvent _ => false
  | _ => true

theorem Agent.isQuiet_of_mem_updateSessionStatus {a : Agent} {status : Agent.SessionStatus}
    {e : Agent.Event} {out : Agent.Output} (hout : out ∈ a.updateSessionStatus status e)
    (hs : status ≠ .start) : out.isQuiet := by
  rw [Agent.updateSessionStatus] at hout
  split at hout
  · obtain rfl := List.mem_singleton.mp hout
    cases status <;> first | rfl | exact absurd rfl hs
  · cases hout

theorem Agent.isQuiet_of_mem_sendDestroyed {a : Agent} {e : Agent.Event} {out : Agent.Output}
    (hout : out ∈ a.sendDestroyed e) : out.isQuiet := by
  rw [Agent.sendDestroyed] at hout
  split at hout
  · obtain rfl := List.mem_singleton.mp hout
    rfl
  · obtain rfl := List.mem_singleton.mp hout
    rfl

theorem Agent.isQuiet_of_mem_handleProsumerError {a : Agent} {e : Agent.Event} {out : Agent.Output}
    (hout : out ∈ a.handleProsumerError e) : out.isQuiet := by
  rcases List.mem_append.mp hout with h | h
  · obtain rfl := List.mem_singleton.mp h
    rfl
  · split at h
    all_goals first
      | exact isQuiet_of_mem_updateSessionStatus h nofun
      | exact isQuiet_of_mem_sendDestroyed h
      | cases h

/-- Behind an error only a request to destroy is still taken. -/
theorem Agent.isQuiet_of_mem_popNextStep {a : Agent} {out : Agent.Output}
    (hout : out ∈ (a.popNextStep a.runStep .error).2) : out.isQuiet := by
  cases hfirst : a.runEvents.begin? with
  | none =>
    rw [popNextStep_none hfirst] at hout
    cases hout
  | some entry =>
    obtain ⟨key, e⟩ := entry
    cases he : isProsumerError e.1.type with
    | true =>
      rw [popNextStep_some _ hfirst, ← handleEvent_stepEvent, handleEvent_prosumerError he] at hout
      exact isQuiet_of_mem_handleProsumerError hout
    | false =>
      obtain ⟨code, htaken⟩ := popNextStep_taken .error hfirst he
      generalize (a.popNextStep a.runStep .error).2 = outputs at hout htaken
      generalize (a.popNextStep a.runStep .error).1 = a' at htaken
      cases htaken with
      | rejected | cached => cases hout
      | interrupts | interrupted => exact isQuiet_of_mem_updateSessionStatus hout nofun
      | idle hstatus => cases hstatus
      | starts h =>
        obtain ⟨hstatus, -⟩ | ⟨-, hstep⟩ := h
        · cases hstatus
        · obtain ⟨⟨type, requestId, errorCode⟩, hidle⟩ := e
          cases type with
          | destroy => exact isQuiet_of_mem_updateSessionStatus hout nofun
          | prosumerError prosumerId => cases he
          | _ => cases hstep

theorem Agent.isQuiet_of_mem_onSessionNotify {a : Agent} {n : Agent.Notification}
    {out : Agent.Output} (hn : n ≠ .interrupted) (hout : out ∈ (a.onSessionNotify n).2) :
    out.isQuiet := by
  cases n with
  | interrupted => exact absurd rfl hn
  | prosumer state =>
    obtain rfl := List.mem_singleton.mp hout
    rfl
  | privateEvent =>
    obtain rfl := List.mem_singleton.mp hout
    rfl
  | other => cases hout
  | error requestId code =>
    rw [onSessionNotify, handleSessionError_eq] at hout
    split at hout
    · rcases List.mem_cons.mp hout with rfl | h
      · rfl
      · exact isQuiet_of_mem_popNextStep h
    · obtain rfl := List.mem_singleton.mp hout
      rfl

namespace TcpServer

def Call.Fits (count : Nat) (held : List Lock) : Call → Prop
  | .lock _ | .unlock _ => False
  | .handleEvent _ | .startWfdSession _ | .sessionEvent _ => held = []
  | .onServerReadable k | .onSessionReadable k _ => held = [] ∧ k < count
  | .onSessionNotify n => n ≠ .interrupted
  | .stop k | .releaseServer k => k < count ∧ ∀ m ∈ held, m.rank < 2 * k
  | .closeSessions k | .accept k | .onAccept k _ | .startSession k _ | .shutdown k _
  | .resetSession k _ => k < count ∧ ∀ m ∈ held, m.rank ≤ 2 * k
  | .resetServer => ∀ m ∈ held, m.owner + 1 < count
  | _ => True

/-- What is left of a thread's calls takes the mutexes in order and gives them all back. -/
def Nested (count : Nat) : List Lock → List Call → Prop
  | held, [] => held = []
  | held, .lock l :: rest =>
    (l.owner < count ∧ ∀ m ∈ held, m.rank < l.rank) ∧ Nested count (l :: held) rest
  | held, .unlock l :: rest => ∃ held', held = l :: held' ∧ Nested count held' rest
  | held, call :: rest => call.Fits count held ∧ Nested count held rest

/-- The calls leave the mutexes as they were. -/
def Returns (count : Nat) (held : List Lock) (calls : List Call) : Prop :=
  ∀ rest, Nested count held rest → Nested count held (calls ++ rest)

variable {count count' k : Nat} {held : List Lock} {calls rest : List Call} {call : Call} {l : Lock}

theorem nested_cons (hf : call.Fits count held) :
    Nested count held (call :: rest) ↔ call.Fits count held ∧ Nested count held rest := by
  cases call <;> first | exact hf.elim | rfl

theorem Returns.of_fits (h : ∀ call ∈ calls, call.Fits count held) : Returns count held calls := by
  intro rest hrest
  induction calls with
  | nil => exact hrest
  | cons call calls ih =>
    have hf := h call List.mem_cons_self
    exact (nested_cons hf).mpr ⟨hf, ih fun c hc => h c (List.mem_cons_of_mem _ hc)⟩

/-- The mutex that a body takes for the time of one call. -/
def Call.guards : Call → Option (Lock × Call)
  | .stop k => some (.server k, .closeSessions k)
  | .onServerReadable k => some (.server k, .accept k)
  | .onSessionReadable k n => some (.session k n, .recv k n)
  | .shutdown k n => some (.session k n, .closePeer k n)
  | _ => none

theorem Returns.guarded (hl : l.owner < count) (hrank : ∀ m ∈ held, m.rank < l.rank)
    (hf : call.Fits count (l :: held)) : Returns count held (guarded l call) := by
  intro rest hrest
  exact ⟨⟨hl, hrank⟩, (nested_cons hf).mpr ⟨hf, held, rfl, hrest⟩⟩

theorem Call.Fits.mono (hcount : count ≤ count') (hf : call.Fits count held) :
    call.Fits count' held := by
  cases call with
  | onServerReadable k => exact ⟨hf.1, Nat.lt_of_lt_of_le hf.2 hcount⟩
  | onSessionReadable k n => exact ⟨hf.1, Nat.lt_of_lt_of_le hf.2 hcount⟩
  | resetServer => exact fun m hm => Nat.lt_of_lt_of_le (hf m hm) hcount
  | stop | releaseServer | closeSessions | accept | onAccept | startSession | shutdown | resetSession =>
    exact ⟨Nat.lt_of_lt_of_le hf.1 hcount, hf.2⟩
  | _ => exact hf

theorem Nested.mono (hcount : count ≤ count') (h : Nested count held calls) :
    Nested count' held calls := by
  induction calls generalizing held with
  | nil => exact h
  | cons call calls ih =>
    cases call with
    | lock l => exact ⟨⟨Nat.lt_of_lt_of_le h.1.1 hcount, h.1.2⟩, ih h.2⟩
    | unlock l =>
      obtain ⟨held', heq, h⟩ := h
      exact ⟨held', heq, ih h⟩
    | _ => exact ⟨Call.Fits.mono hcount h.1, ih h.2⟩

/-- The parts of the source that no thread owns. -/
structure World.Sound {ι : Type} (w : World ι) : Prop where
  latest : ∀ k, w.rtspServer = some k → k + 1 = w.serverCount
  serverLt : ∀ k, (w.servers k).owners ≠ 0 → k < w.serverCount
  sessionLt : ∀ k n, (w.sessions k n).owners ≠ 0 → k < w.serverCount

/-- What a body that takes no mutex itself leaves behind. -/
structure World.Follows {ι : Type} (w : World ι) (held : List Lock) (r : World ι × List Call) :
    Prop where
  sound : r.1.Sound
  count : w.serverCount ≤ r.1.serverCount
  threads : r.1.threads = w.threads
  fits : ∀ call ∈ r.2, call.Fits r.1.serverCount held

theorem fits_updateOperation {e : Agent.Event} {status : Agent.SessionStatus}
    (hs : status = .start → held = []) : ∀ call ∈ updateOperation e status, call.Fits count held := by
  intro call hcall
  cases status with
  | start =>
    obtain rfl := List.mem_singleton.mp hcall
    exact hs rfl
  | stop =>
    rcases List.mem_cons.mp hcall with rfl | h
    · trivial
    · obtain rfl := List.mem_singleton.mp h
      exact nofun
  | _ =>
    obtain rfl := List.mem_singleton.mp hcall
    exact nofun

/-- What a quiet output makes its thread do needs no order; any output will do outside. -/
theorem fits_calls {out : Agent.Output} (hq : out.isQuiet = false → held = []) :
    ∀ call ∈ TcpServer.calls out, call.Fits count held := by
  intro call hcall
  cases out with
  | updateOperation status e =>
    exact fits_updateOperation (fun hs => hq (by rw [hs]; rfl)) call hcall
  | updateMediaStatus state prosumerId e =>
    cases state with
    | create =>
      obtain rfl := List.mem_singleton.mp hcall
      exact nofun
    | _ => cases hcall
  | sessionEvent e =>
    obtain rfl := List.mem_singleton.mp hcall
    exact hq rfl
  | _ => cases hcall

theorem fits_handle {n : Nat} {message : Handled} :
    ∀ call ∈ handle k n message, call.Fits count held := by
  intro call hcall
  cases message <;> simp only [handle, List.mem_cons, List.not_mem_nil, or_false] at hcall
  case play | pause | teardown => rcases hcall with rfl | rfl <;> first | trivial | exact nofun
  case m8Response => subst hcall; exact nofun
  all_goals subst hcall; trivial

def Call.wanted : Call → Option Lock
  | .lock l => some l
  | _ => none

theorem Call.wanted_eq_some : call.wanted = some l ↔ call = .lock l := by
  cases call <;> simp [wanted]

namespace World

variable {ι : Type} {w : World ι}

theorem Sound.setServer (hw : w.Sound) (k : Nat) (server : Server)
    (hlt : server.owners ≠ 0 → k < w.serverCount) : (w.setServer k server).Sound where
  latest := hw.latest
  serverLt j hj := by
    by_cases h : j = k
    · subst h
      simp only [World.setServer, Function.update_self] at hj
      exact hlt hj
    · simp only [World.setServer, Function.update_of_ne h] at hj
      exact hw.serverLt j hj
  sessionLt := hw.sessionLt

theorem Sound.setSession (hw : w.Sound) (k n : Nat) (session : Session)
    (hlt : session.owners ≠ 0 → k < w.serverCount) : (w.setSession k n session).Sound where
  latest := hw.latest
  serverLt := hw.serverLt
  sessionLt j m hj := by
    by_cases h : j = k
    · subst h
      simp only [World.setSession, Function.update_self] at hj
      by_cases hm : m = n
      · subst hm
        rw [Function.update_self] at hj
        exact hlt hj
      · rw [Function.update_of_ne hm] at hj
        exact hw.sessionLt j m hj
    · simp only [World.setSession, Function.update_of_ne h] at hj
      exact hw.sessionLt j m hj

theorem Follows.of_calls (hw : w.Sound) {calls : List Call}
    (hcalls : ∀ call ∈ calls, call.Fits w.serverCount held) : w.Follows held (w, calls) :=
  ⟨hw, Nat.le_refl _, rfl, hcalls⟩

theorem Follows.of_nil (hw : w.Sound) : w.Follows held (w, []) := of_calls hw (List.forall_mem_nil _)

theorem Sound.releaseServer (hw : w.Sound) (hk : k < w.serverCount)
    (hrank : ∀ m ∈ held, m.rank < 2 * k) : w.Follows held (w.releaseServer k) := by
  refine ⟨hw.setServer k _ fun _ => hk, Nat.le_refl _, rfl, fun call hcall => ?_⟩
  simp only [World.releaseServer] at hcall
  split at hcall
  · obtain rfl := List.mem_singleton.mp hcall
    exact ⟨hk, hrank⟩
  · cases hcall

theorem Sound.resetServer (hw : w.Sound) (hheld : ∀ m ∈ held, m.owner + 1 < w.serverCount) :
    w.Follows held w.resetServer := by
  rw [World.resetServer]
  split
  · exact .of_nil hw
  · rename_i k hk
    have hlast := hw.latest k hk
    have hw' : Sound { w with rtspServer := none } := ⟨nofun, hw.serverLt, hw.sessionLt⟩
    have hrank : ∀ m ∈ held, m.rank < 2 * k := by
      intro m hm
      have := hheld m hm
      cases m <;> simp only [Lock.owner, Lock.rank] at this ⊢ <;> omega
    obtain ⟨hsound, hcount, hthreads, hfits⟩ :=
      hw'.releaseServer (show k < w.serverCount by omega) hrank
    exact ⟨hsound, hcount, hthreads, hfits⟩

theorem Sound.startWfdSession (hw : w.Sound) (e : Agent.Event) :
    w.Follows [] (w.startWfdSession e) := by
  have hreset : w.Follows [] w.resetServer := hw.resetServer nofun
  obtain ⟨hsound, hcount, hthreads, hfits⟩ := hreset
  have hlt : w.resetServer.1.serverCount ≤ w.resetServer.1.serverCount + 1 := Nat.le_succ _
  refine ⟨⟨?_, ?_, ?_⟩, Nat.le_trans hcount hlt, hthreads, fun call hcall => ?_⟩
  · intro k hk
    cases hk
    rfl
  · intro k hk
    by_cases h : k = w.resetServer.1.serverCount
    · exact Nat.lt_of_le_of_lt (Nat.le_of_eq h) (Nat.lt_succ_self _)
    · simp only [World.startWfdSession, World.setServer, Function.update_of_ne h] at hk
      exact Nat.lt_of_lt_of_le (hsound.serverLt k hk) hlt
  · exact fun k n hk => Nat.lt_of_lt_of_le (hsound.sessionLt k n hk) hlt
  · rcases List.mem_append.mp hcall with h | h
    · exact (hfits call h).mono hlt
    · obtain rfl := List.mem_singleton.mp h
      trivial

theorem Sound.closeSessions (hw : w.Sound) (hk : k < w.serverCount)
    (hrank : ∀ m ∈ held, m.rank ≤ 2 * k) : w.Follows held (w.closeSessions k) := by
  rw [World.closeSessions]
  split
  · refine ⟨hw.setServer k _ fun _ => hk, Nat.le_refl _, rfl, fun call hcall => ?_⟩
    rcases List.mem_append.mp hcall with h | h
    · obtain ⟨n, -, hn⟩ := List.mem_flatMap.mp h
      simp only [List.mem_cons, List.not_mem_nil, or_false] at hn
      rcases hn with rfl | rfl
      · exact ⟨hk, hrank⟩
      · exact ⟨hk, hrank⟩
    · obtain rfl := List.mem_singleton.mp h
      trivial
  · exact .of_nil hw

theorem Sound.accept (hw : w.Sound) (hk : k < w.serverCount) (hrank : ∀ m ∈ held, m.rank ≤ 2 * k)
    (answer : Answer) : w.Follows held (w.accept k answer) := by
  cases answer with
  | succeeds =>
    simp only [World.accept]
    split
    · have hserver := hw.setServer k { w.servers k with
        sessions := (w.servers k).sessions ++ [(w.servers k).accepted]
        accepted := (w.servers k).accepted + 1 } fun _ => hk
      have hsession := hserver.setSession k (w.servers k).accepted
        { hasSocket := true, owners := 1 } fun _ => hk
      split
      · exact ⟨hsession, Nat.le_refl _, rfl, List.forall_mem_nil _⟩
      · refine ⟨⟨hsession.latest, hsession.serverLt, hsession.sessionLt⟩, Nat.le_refl _, rfl, ?_⟩
        simp only [List.mem_cons, List.not_mem_nil, or_false]
        rintro call (rfl | rfl)
        · exact ⟨hk, hrank⟩
        · trivial
    · exact .of_nil hw
  | _ => exact .of_nil hw

theorem Sound.onAccept (hw : w.Sound) {n : Nat} (hk : k < w.serverCount)
    (hrank : ∀ m ∈ held, m.rank ≤ 2 * k) : w.Follows held (w.onAccept k n) := by
  rw [World.onAccept]
  split
  · have hsession := hw.setSession k n { w.sessions k n with hasCallback := true } fun _ => hk
    refine ⟨⟨hsession.latest, hsession.serverLt, hsession.sessionLt⟩, Nat.le_refl _, rfl, ?_⟩
    intro call hcall
    obtain rfl := List.mem_singleton.mp hcall
    exact ⟨hk, hrank⟩
  · exact .of_nil hw

theorem Sound.startSession (hw : w.Sound) {n : Nat} (hk : k < w.serverCount)
    (hrank : ∀ m ∈ held, m.rank ≤ 2 * k) (answer : Answer) :
    w.Follows held (w.startSession k n answer) := by
  cases answer with
  | succeeds =>
    refine ⟨hw.setSession k n _ fun _ => hk, Nat.le_refl _, rfl, fun call hcall => ?_⟩
    obtain rfl := List.mem_singleton.mp hcall
    trivial
  | _ =>
    refine .of_calls hw fun call hcall => ?_
    obtain rfl := List.mem_singleton.mp hcall
    exact ⟨hk, hrank⟩

theorem Sound.send (hw : w.Sound) (n : Nat) (message : Sent) (answer : Answer) :
    w.Follows held (w.send k n message answer) := by
  unfold World.send
  split
  · exact .of_nil hw
  · cases answer with
    | succeeds =>
      cases message with
      | m1Request => exact ⟨⟨hw.latest, hw.serverLt, hw.sessionLt⟩, Nat.le_refl _, rfl, List.forall_mem_nil _⟩
      | m2Response => exact .of_calls hw (by simp [Call.Fits])
      | m5Request => exact .of_calls hw (by simp [Call.Fits])
      | other => exact .of_nil hw
    | _ => exact .of_calls hw (by simp [Call.Fits])

/-- A callback owns the source for its time. -/
theorem Sound.inSource (hw : w.Sound) (calls : List Call)
    (hcalls : ∀ call ∈ calls, call.Fits w.serverCount held) :
    w.Follows held (if w.sourceOwners = 0 then (w, [])
      else ({ w with sourceOwners := w.sourceOwners + 1 }, calls ++ [.releaseSource])) := by
  split
  · exact .of_nil hw
  · refine ⟨⟨hw.latest, hw.serverLt, hw.sessionLt⟩, Nat.le_refl _, rfl, fun call hcall => ?_⟩
    rcases List.mem_append.mp hcall with h | h
    · exact hcalls call h
    · obtain rfl := List.mem_singleton.mp h
      trivial

theorem Sound.onSessionNotify (hw : w.Sound) {n : Agent.Notification} (hn : n ≠ .interrupted) :
    w.Follows held (w.onSessionNotify n) := by
  rw [World.onSessionNotify]
  split
  · exact .of_nil hw
  · refine ⟨⟨hw.latest, hw.serverLt, hw.sessionLt⟩, Nat.le_refl _, rfl, fun call hcall => ?_⟩
    rcases List.mem_append.mp hcall with h | h
    · obtain ⟨out, hout, hcall⟩ := List.mem_flatMap.mp h
      have hquiet := Agent.isQuiet_of_mem_onSessionNotify hn hout
      exact fits_calls (fun h => by rw [hquiet] at h; cases h) call hcall
    · obtain rfl := List.mem_singleton.mp h
      trivial

theorem Sound.handleEvent (hw : w.Sound) (e : Agent.Event) : w.Follows [] (w.handleEvent e) := by
  refine ⟨⟨hw.latest, hw.serverLt, hw.sessionLt⟩, Nat.le_refl _, rfl, fun call hcall => ?_⟩
  obtain ⟨out, -, hcall⟩ := List.mem_flatMap.mp hcall
  exact fits_calls (fun _ => rfl) call hcall

theorem Sound.releaseAgent (hw : w.Sound) : w.Follows held w.releaseAgent := by
  refine ⟨⟨hw.latest, hw.serverLt, hw.sessionLt⟩, Nat.le_refl _, rfl, fun call hcall => ?_⟩
  simp only [World.releaseAgent] at hcall
  split at hcall
  · obtain rfl := List.mem_singleton.mp hcall
    trivial
  · cases hcall

theorem Sound.releaseSource (hw : w.Sound) : w.Follows held w.releaseSource := by
  refine ⟨⟨hw.latest, hw.serverLt, hw.sessionLt⟩, Nat.le_refl _, rfl, fun call hcall => ?_⟩
  simp only [World.releaseSource] at hcall
  split at hcall
  · obtain rfl := List.mem_singleton.mp hcall
    trivial
  · cases hcall

theorem Sound.resetSession (hw : w.Sound) {n : Nat} (hk : k < w.serverCount)
    (hrank : ∀ m ∈ held, m.rank ≤ 2 * k) : w.Follows held (w.resetSession k n) := by
  refine ⟨hw.setSession k n _ fun _ => hk, Nat.le_refl _, rfl, fun call hcall => ?_⟩
  simp only [World.resetSession] at hcall
  split at hcall
  · obtain rfl := List.mem_singleton.mp hcall
    exact ⟨hk, hrank⟩
  · cases hcall

theorem Sound.startServer (hw : w.Sound) (k : Nat) (e : Agent.Event) (answer : Answer) :
    w.Follows held (w.startServer k e answer) := by
  have hlt := hw.serverLt k
  cases answer with
  | succeeds => exact ⟨hw.setServer k _ fun h => hlt h, Nat.le_refl _, rfl, List.forall_mem_nil _⟩
  | _ =>
    refine ⟨hw.setServer k _ fun h => hlt h, Nat.le_refl _, rfl, fun call hcall => ?_⟩
    obtain rfl := List.mem_singleton.mp hcall
    exact nofun

theorem Sound.stopWfdSession (hw : w.Sound) (hheld : ∀ m ∈ held, m.owner < w.serverCount)
    (ho : ∀ m ∈ held, w.rtspServer ≠ some m.owner) :
    ∀ call ∈ w.stopWfdSession, call.Fits w.serverCount held := by
  intro call hcall
  rw [World.stopWfdSession] at hcall
  split at hcall
  · cases hcall
  · rename_i k hk
    have hlast := hw.latest k hk
    -- the source points to the server started last
    have hbelow : ∀ m ∈ held, m.owner < k := by
      intro m hm
      have hlt := hheld m hm
      have hne : k ≠ m.owner := fun h => ho m hm (h ▸ hk)
      omega
    simp only [List.mem_cons, List.not_mem_nil, or_false] at hcall
    rcases hcall with rfl | rfl
    · refine ⟨by omega, fun m hm => ?_⟩
      have := hbelow m hm
      cases m <;> simp only [Lock.owner, Lock.rank] at this ⊢ <;> omega
    · intro m hm
      have := hbelow m hm
      omega

theorem Sound.sessionEvent (hw : w.Sound) (e : Agent.Event) (answer : Answer) :
    w.Follows held (w, TcpServer.World.sessionEvent e answer) := by
  refine .of_calls hw fun call hcall => ?_
  cases answer with
  | succeeds =>
    simp only [World.sessionEvent] at hcall
    split at hcall
    · obtain rfl := List.mem_singleton.mp hcall
      exact nofun
    · obtain rfl := List.mem_singleton.mp hcall
      exact nofun
  | _ => cases hcall

theorem Sound.recv (hw : w.Sound) (n : Nat) (answer : Answer) :
    w.Follows held (w, w.recv k n answer) := by
  refine .of_calls hw fun call hcall => ?_
  simp only [World.recv] at hcall
  split at hcall
  · cases answer with
    | data messages | endOfStream =>
      obtain rfl := List.mem_singleton.mp hcall
      trivial
    | _ => cases hcall
  · cases hcall

theorem Sound.onSessionClose (hw : w.Sound) : w.Follows held w.onSessionClose := by
  refine hw.inSource [.onSessionNotify (.error 0 .networkError)] fun call hcall => ?_
  obtain rfl := List.mem_singleton.mp hcall
  exact nofun

theorem Sound.onSessionReadData (hw : w.Sound) (n : Nat) (messages : List Handled) :
    w.Follows held (w.onSessionReadData k n messages) := by
  refine hw.inSource _ fun call hcall => ?_
  split at hcall
  · obtain ⟨message, -, hcall⟩ := List.mem_flatMap.mp hcall
    exact fits_handle call hcall
  · cases hcall

theorem Sound.onSendKeepAlive (hw : w.Sound) (n : Nat) (answer : Answer) :
    w.Follows held (w.onSendKeepAlive k n answer) := by
  cases answer with
  | succeeds =>
    refine hw.inSource [.send k n .other] fun call hcall => ?_
    obtain rfl := List.mem_singleton.mp hcall
    trivial
  | _ =>
    refine hw.inSource [.onSessionNotify (.error 0 .interactionFailure)] fun call hcall => ?_
    obtain rfl := List.mem_singleton.mp hcall
    exact nofun

/-- What a call that fits makes of the world, if it takes no mutex itself. -/
theorem Sound.body (hw : w.Sound) (answer : Answer) (hf : call.Fits w.serverCount held)
    (hheld : ∀ m ∈ held, m.owner < w.serverCount)
    (ho : call = .stopWfdSession → ∀ m ∈ held, w.rtspServer ≠ some m.owner)
    (hplain : call.guards = none) : w.Follows held (w.body answer call) := by
  cases call with
  | lock l | unlock l => exact hf.elim
  | stop | onServerReadable | onSessionReadable | shutdown => cases hplain
  | handleEvent e =>
    obtain rfl : held = [] := hf
    exact hw.handleEvent e
  | onSessionNotify n => exact hw.onSessionNotify hf
  | releaseAgent => exact hw.releaseAgent
  | sessionEvent e => exact hw.sessionEvent e answer
  | startWfdSession e =>
    obtain rfl : held = [] := hf
    exact hw.startWfdSession e
  | startServer k e => exact hw.startServer k e answer
  | stopWfdSession => exact .of_calls hw (hw.stopWfdSession hheld (ho rfl))
  | resetServer => exact hw.resetServer hf
  | releaseServer k => exact hw.releaseServer hf.1 hf.2
  | releaseSource => exact hw.releaseSource
  | closeSessions k => exact hw.closeSessions hf.1 hf.2
  | clear k =>
    have hlt := hw.serverLt k
    exact ⟨hw.setServer k _ fun h => hlt h, Nat.le_refl _, rfl, List.forall_mem_nil _⟩
  | accept k => exact hw.accept hf.1 hf.2 answer
  | onAccept k n => exact hw.onAccept hf.1 hf.2
  | startSession k n => exact hw.startSession hf.1 hf.2 answer
  | send k n message => exact hw.send n message answer
  | onSessionClose k n =>
    simp only [World.body]
    split
    · exact hw.onSessionClose
    · exact .of_nil hw
  | recv k n => exact hw.recv n answer
  | onSessionReadData k n messages => exact hw.onSessionReadData n messages
  | onSendKeepAlive k n => exact hw.onSendKeepAlive n answer
  | closePeer k n =>
    have hlt := hw.sessionLt k n
    exact ⟨hw.setSession k n _ fun h => hlt h, Nat.le_refl _, rfl, List.forall_mem_nil _⟩
  | resetSession k n => exact hw.resetSession hf.1 hf.2

/-- A call that takes a mutex for its body comes where the order allows it. -/
theorem returns_guards {c : Call} (hf : call.Fits count held) (hg : call.guards = some (l, c)) :
    Returns count held (guarded l c) := by
  cases call with
  | stop k =>
    cases hg
    refine .guarded hf.1 hf.2 ⟨hf.1, fun m hm => ?_⟩
    rcases List.mem_cons.mp hm with rfl | hm
    · exact Nat.le_refl _
    · exact Nat.le_of_lt (hf.2 m hm)
  | onServerReadable k =>
    cases hg
    obtain ⟨rfl, hk⟩ := hf
    refine .guarded hk nofun ⟨hk, fun m hm => ?_⟩
    obtain rfl := List.mem_singleton.mp hm
    exact Nat.le_refl _
  | onSessionReadable k n =>
    cases hg
    obtain ⟨rfl, hk⟩ := hf
    exact .guarded hk nofun trivial
  | shutdown k n =>
    cases hg
    exact .guarded hf.1 (fun m hm => Nat.lt_succ_of_le (hf.2 m hm)) trivial
  | _ => cases hg

structure Kept (w : World ι) : Prop where
  sound : w.Sound
  nested : ∀ t, Nested w.serverCount (w.threads t).held (w.threads t).todo
  heldLt : ∀ t, ∀ m ∈ (w.threads t).held, m.owner < w.serverCount

namespace Kept

variable [DecidableEq ι] {t : ι} {answer : Answer}

/-- One thread goes on to other calls, and the others see at most more servers. -/
theorem setThread (hw : Kept w) {w' : World ι} {thread : Thread} (hsound : w'.Sound)
    (hcount : w.serverCount ≤ w'.serverCount) (hthreads : w'.threads = w.threads)
    (hnested : Nested w'.serverCount thread.held thread.todo)
    (hheld : ∀ m ∈ thread.held, m.owner < w'.serverCount) : Kept (w'.setThread t thread) where
  sound := ⟨hsound.latest, hsound.serverLt, hsound.sessionLt⟩
  nested u := by
    by_cases hu : u = t
    · subst hu
      simpa only [World.setThread, Function.update_self] using hnested
    · simp only [World.setThread, Function.update_of_ne hu, hthreads]
      exact (hw.nested u).mono hcount
  heldLt u := by
    by_cases hu : u = t
    · subst hu
      simpa only [World.setThread, Function.update_self] using hheld
    · simp only [World.setThread, Function.update_of_ne hu, hthreads]
      exact fun m hm => Nat.lt_of_lt_of_le (hw.heldLt u m hm) hcount

theorem run_call (hf : call.Fits w.serverCount (w.threads t).held)
    (htodo : (w.threads t).todo = call :: rest) : w.run t answer =
      (w.body answer call).1.setThread t ⟨(w.threads t).held, (w.body answer call).2 ++ rest⟩ := by
  cases call <;> first | exact hf.elim | simp only [World.run, htodo]

theorem run (hw : Kept w) (he : w.Enabled (.run t answer)) (ho : w.Orderly (.run t answer)) :
    Kept (w.run t answer) := by
  have hnested := hw.nested t
  have hheld := hw.heldLt t
  cases htodo : (w.threads t).todo with
  | nil => exact absurd htodo he.1
  | cons call rest =>
    rw [htodo] at hnested
    by_cases hlock : ∃ l, call = .lock l
    · obtain ⟨l, rfl⟩ := hlock
      simp only [World.run, htodo]
      refine hw.setThread hw.sound (Nat.le_refl _) rfl hnested.2 fun m hm => ?_
      rcases List.mem_cons.mp hm with rfl | hm
      · exact hnested.1.1
      · exact hheld m hm
    · by_cases hunlock : ∃ l, call = .unlock l
      · obtain ⟨l, rfl⟩ := hunlock
        obtain ⟨held', heq, hrest⟩ := hnested
        simp only [World.run, htodo, heq, List.erase_cons_head]
        refine hw.setThread hw.sound (Nat.le_refl _) rfl hrest fun m hm => hheld m ?_
        rw [heq]
        exact List.mem_cons_of_mem _ hm
      · have hf : call.Fits w.serverCount (w.threads t).held ∧
            Nested w.serverCount (w.threads t).held rest := by
          cases call with
          | lock l => exact absurd ⟨l, rfl⟩ hlock
          | unlock l => exact absurd ⟨l, rfl⟩ hunlock
          | _ => exact hnested
        rw [run_call hf.1 htodo]
        cases hg : call.guards with
        | some g =>
          have hbody : w.body answer call = (w, guarded g.1 g.2) := by
            cases call <;> first | (cases hg; rfl) | cases hg
          rw [hbody]
          exact hw.setThread hw.sound (Nat.le_refl _) rfl (returns_guards hf.1 hg rest hf.2) hheld
        | none =>
          have hstop : call = .stopWfdSession → ∀ m ∈ (w.threads t).held,
              w.rtspServer ≠ some m.owner := fun h => ho (by rw [htodo, h]; rfl)
          obtain ⟨hsound, hcount, hthreads, hfits⟩ := hw.sound.body answer hf.1 hheld hstop hg
          exact hw.setThread hsound hcount hthreads (Returns.of_fits hfits rest (hf.2.mono hcount))
            fun m hm => Nat.lt_of_lt_of_le (hheld m hm) hcount

theorem callSession (hw : Kept w) {n : Nat} (hn : (w.sessions k n).owners ≠ 0) {call : Call}
    (hf : call.Fits w.serverCount []) : Kept (w.callSession t k n call) := by
  have hk := hw.sound.sessionLt k n hn
  have hsound := hw.sound.setSession k n
    { w.sessions k n with owners := (w.sessions k n).owners + 1 } fun _ => hk
  refine hw.setThread hsound (Nat.le_refl _) rfl ?_ nofun
  have hreset : (Call.resetSession k n).Fits w.serverCount [] := ⟨hk, nofun⟩
  exact (nested_cons hf).mpr ⟨hf, (nested_cons hreset).mpr ⟨hreset, rfl⟩⟩

theorem next (hw : Kept w) (act : Act ι) (he : w.Enabled act) (ho : w.Orderly act) :
    Kept (w.next act) := by
  cases act with
  | run t answer => exact hw.run he ho
  | request t e =>
    have hsound : Sound { w with agentOwners := w.agentOwners + 1 } :=
      ⟨hw.sound.latest, hw.sound.serverLt, hw.sound.sessionLt⟩
    exact hw.setThread hsound (Nat.le_refl _) rfl ⟨rfl, trivial, rfl⟩ nofun
  | dropAgent t =>
    have hsound : Sound { w with inContext := false } :=
      ⟨hw.sound.latest, hw.sound.serverLt, hw.sound.sessionLt⟩
    exact hw.setThread hsound (Nat.le_refl _) rfl ⟨trivial, rfl⟩ nofun
  | serverReadable t k =>
    obtain ⟨-, -, hn⟩ := he
    have hk := hw.sound.serverLt k hn
    have hsound := hw.sound.setServer k
      { w.servers k with owners := (w.servers k).owners + 1 } fun _ => hk
    exact hw.setThread hsound (Nat.le_refl _) rfl ⟨⟨rfl, hk⟩, ⟨hk, nofun⟩, rfl⟩ nofun
  | sessionReadable t k n =>
    obtain ⟨-, -, hn⟩ := he
    exact hw.callSession hn ⟨rfl, hw.sound.sessionLt k n hn⟩
  | sessionClosed t k n => exact hw.callSession he.2.2 trivial
  | keepAlive t k n => exact hw.callSession he.2.2 trivial

omit [DecidableEq ι] in
theorem initial : Kept ({} : World ι) :=
  ⟨⟨nofun, fun _ h => absurd rfl h, fun _ _ h => absurd rfl h⟩, fun _ => rfl, fun _ => nofun⟩

omit [DecidableEq ι] in
theorem rank_lt (hw : Kept w) {t : ι} {l m : Lock} (hwants : w.Wants t l) (hholds : w.Holds t m) :
    m.rank < l.rank := by
  have hnested := hw.nested t
  obtain ⟨rest, htodo⟩ := List.head?_eq_some_iff.mp hwants
  rw [htodo] at hnested
  exact hnested.1.2 m hholds

omit [DecidableEq ι] in
theorem unblocked (hw : Kept w) : w.Unblocked where
  notRelocked _ _ hwants hholds := Nat.lt_irrefl _ (hw.rank_lt hwants hholds)
  notMutual _ _ _ _ _ hwants hholds hwants' hholds' :=
    Nat.lt_asymm (hw.rank_lt hwants hholds') (hw.rank_lt hwants' hholds)

end Kept

section

variable (w : World ι)

instance (t : ι) (l : Lock) : Decidable (w.Wants t l) := inferInstanceAs (Decidable (_ = _))

instance (t : ι) (l : Lock) : Decidable (w.Holds t l) := inferInstanceAs (Decidable (_ ∈ _))

instance (t : ι) : Decidable (w.Idle t) := inferInstanceAs (Decidable (_ = _))

instance [Fintype ι] (t : ι) : Decidable (∀ l, w.Wants t l → ∀ u, ¬ w.Holds u l) :=
  decidable_of_iff (∀ l ∈ (w.threads t).todo.head?.bind Call.wanted, ∀ u, ¬ w.Holds u l)
    (forall_congr' fun l => by simp [Option.bind_eq_some_iff, Call.wanted_eq_some, Wants])

instance [Fintype ι] : DecidablePred w.Enabled
  | .run _ _ | .request _ _ | .dropAgent _ | .serverReadable _ _ | .sessionReadable _ _ _
  | .sessionClosed _ _ _ | .keepAlive _ _ _ => inferInstanceAs (Decidable (_ ∧ _))

instance : DecidablePred w.Orderly
  | .run t _ =>
    inferInstanceAs (Decidable ((w.threads t).todo.head? = some .stopWfdSession →
      ∀ l ∈ (w.threads t).held, w.rtspServer ≠ some l.owner))
  | .request _ _ | .dropAgent _ | .serverReadable _ _ | .sessionReadable _ _ _
  | .sessionClosed _ _ _ | .keepAlive _ _ _ => .isTrue trivial

end

variable [DecidableEq ι]

/-- As long as no callback of a server stops this server, nobody waits for itself, and no two
threads for each other. -/
theorem run_unblocked {acts : List (Act ι)}
    (hrun : AllMeet next (fun w act => w.Enabled act ∧ w.Orderly act) ({} : World ι) acts) :
    (acts.foldl next ({} : World ι)).Unblocked := by
  have hw : Kept (acts.foldl next ({} : World ι)) :=
    AllMeet.invariant (I := Kept) (fun w act hw h => hw.next act h.1 h.2) Kept.initial hrun
  exact hw.unblocked

def runs {ι : Type} (t : ι) (n : Nat) : List (Act ι) := List.replicate n (.run t .succeeds)

/-- A sink is served; the request to destroy waits until a session is found dead by its timer. -/
def servedToTheEnd : List (Act Bool) :=
  .request false ⟨.start, 1, .ok⟩ :: runs false 4 ++
  .serverReadable true 0 :: runs true 9 ++
  .sessionReadable true 0 0 :: runs true 2 ++ .run true (.data [.option, .m4Response]) :: runs true 9 ++
  .request false ⟨.destroy, 2, .ok⟩ :: runs false 4 ++
  .keepAlive false 0 0 :: .run false .fails :: runs false 26

theorem run_unblocked_servedToTheEnd : (servedToTheEnd.foldl next ({} : World Bool)).Unblocked ∧
    (∀ t, (servedToTheEnd.foldl next ({} : World Bool)).Idle t) ∧
    (servedToTheEnd.foldl next ({} : World Bool)).rtspServer = none :=
  ⟨run_unblocked (by decide +kernel), by decide +kernel, by decide +kernel⟩

/-- The same request, and a session that is closed by the peer. -/
def closedByThePeer : List (Act Bool) :=
  .request false ⟨.start, 1, .ok⟩ :: runs false 4 ++
  .serverReadable true 0 :: runs true 9 ++
  .request false ⟨.destroy, 2, .ok⟩ :: runs false 4 ++
  .sessionReadable true 0 0 :: runs true 2 ++ .run true .endOfStream :: runs true 7

/-- The request before the sink connects, and no bytes of M1 that can be sent. -/
def firstMessageLost : List (Act Bool) :=
  .request false ⟨.start, 1, .ok⟩ :: runs false 4 ++
  .request false ⟨.destroy, 2, .ok⟩ :: runs false 4 ++
  .serverReadable true 0 :: runs true 5 ++ .run true .fails :: runs true 4

/-- The thread waits for the mutex of the session whose data it reads, or for that of the server
that has just accepted. -/
theorem closedByThePeer_not_unblocked :
    (AllMeet next (fun w act => w.Enabled act) ({} : World Bool) closedByThePeer ∧
      ¬ (closedByThePeer.foldl next ({} : World Bool)).Unblocked) ∧
    (AllMeet next (fun w act => w.Enabled act) ({} : World Bool) firstMessageLost ∧
      ¬ (firstMessageLost.foldl next ({} : World Bool)).Unblocked) :=
  ⟨⟨by decide +kernel, fun h =>
      h.notRelocked true (.session 0 0) (by decide +kernel) (by decide +kernel)⟩,
    ⟨by decide +kernel, fun h =>
      h.notRelocked true (.server 0) (by decide +kernel) (by decide +kernel)⟩⟩

end World

end TcpServer

end WifiDisplay
