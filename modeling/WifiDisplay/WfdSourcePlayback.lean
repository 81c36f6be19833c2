import Mathlib.Data.List.Chain
import WifiDisplay.WfdSourceSession

/-! The source that plays and pauses, with the timer of its network session that keeps
the connection alive. -/

namespace WifiDisplay

/-- The timer of a network session: the ids of its registrations, and the one that is
known of them. -/
structure WfdSourceNetworkSession where
  timerId : BitVec 32 := 0
  registered : List (BitVec 32) := []

namespace WfdSourceNetworkSession

/-- `register` is the id that the timer gives next to the ones it has. -/
def setKeepAliveTimer (register : List (BitVec 32) → BitVec 32) (n : WfdSourceNetworkSession) :
    WfdSourceNetworkSession :=
  let timerId := register n.registered
  { timerId, registered := n.registered ++ [timerId] }

def unsetKeepAliveTimer (n : WfdSourceNetworkSession) : WfdSourceNetworkSession :=
  { timerId := 0, registered := n.registered.filter (· ≠ n.timerId) }

end WfdSourceNetworkSession

inductive PlaybackMethod where
  | play
  | pause
  | teardown
  deriving DecidableEq, Repr

structure PlaybackRequest where
  method : PlaybackMethod
  cSeq : Int
  deriving DecidableEq, Repr

structure SourcePlayback where
  app : SourceApp
  network : WfdSourceNetworkSession := {}

namespace SourcePlayback

variable (register : List (BitVec 32) → BitVec 32)

def handlePlayRequest (s : SourcePlayback) (cseq : Int) : SourcePlayback where
  app := s.app.handlePlayRequest cseq
  network := if s.app.prosumerState = .pause then s.network else s.network.setKeepAliveTimer register

def handlePauseRequest (s : SourcePlayback) (cseq : Int) : SourcePlayback :=
  { s with app := s.app.handlePauseRequest cseq }

def handleTeardownRequest (s : SourcePlayback) (cseq : Int) : SourcePlayback where
  app := s.app.handleTeardownRequest cseq
  network := s.network.unsetKeepAliveTimer

def handleRequest (s : SourcePlayback) (request : PlaybackRequest) : SourcePlayback :=
  match request.method with
  | .play => s.handlePlayRequest register request.cSeq
  | .pause => s.handlePauseRequest request.cSeq
  | .teardown => s.handleTeardownRequest request.cSeq

def run (s : SourcePlayback) (requests : List PlaybackRequest) : SourcePlayback :=
  requests.foldl (handleRequest register) s

/-- The source as it is when the connection stands: no request of playback yet. -/
structure Established (s : SourcePlayback) : Prop where
  state : s.app.prosumerState = .init
  network : s.network = {}

/-- A play behind a pause goes on, and the timer is not registered twice. -/
structure KeepsPlayback (s : SourcePlayback) (requests : List PlaybackRequest) : Prop where
  resumes : ∀ before pause between play after,
    requests = before ++ pause :: (between ++ play :: after) → pause.method = .pause →
      play.method = .play → (∀ r ∈ between, r.method ≠ .teardown) →
        (s.run register (before ++ pause :: (between ++ [play]))).app.prosumerState = .resume
  oneTimer : ∀ before after, requests = before ++ after →
    (s.run register before).network.registered.length ≤ 1

variable {register} {s : SourcePlayback} {requests : List PlaybackRequest} {request : PlaybackRequest}

theorem run_append (s : SourcePlayback) (requests requests' : List PlaybackRequest) :
    s.run register (requests ++ requests') = (s.run register requests).run register requests' :=
  List.foldl_append

theorem run_snoc (s : SourcePlayback) (requests : List PlaybackRequest) (request : PlaybackRequest) :
    s.run register (requests ++ [request]) =
      (s.run register requests).handleRequest register request :=
  run_append s requests [request]

theorem sendCommonResponse_prosumerState (a : SourceApp) (cseq : Int) :
    (a.sendCommonResponse cseq).2.prosumerState = a.prosumerState := by
  rw [SourceApp.sendCommonResponse]
  split <;> rfl

theorem sendM7Response_prosumerState (a : SourceApp) (cseq : Int) :
    (a.sendM7Response cseq).2.prosumerState = a.prosumerState := by
  rw [SourceApp.sendM7Response]
  split <;> rfl

theorem handleRequest_prosumerState (s : SourcePlayback) (request : PlaybackRequest) :
    (s.handleRequest register request).app.prosumerState = match request.method with
      | .play => if s.app.prosumerState = .pause then .resume else .start
      | .pause => .start
      | .teardown => .stop := by
  obtain ⟨method, cSeq⟩ := request
  cases method with
  | play => exact sendM7Response_prosumerState _ _
  | pause => exact sendCommonResponse_prosumerState _ _
  | teardown => exact sendCommonResponse_prosumerState _ _

theorem handleRequest_not_paused (s : SourcePlayback) (request : PlaybackRequest) :
    (s.handleRequest register request).app.prosumerState ≠ .pause := by
  rw [handleRequest_prosumerState]
  split
  · split <;> decide
  · decide
  · decide

theorem Established.run_not_paused (h : s.Established) (requests : List PlaybackRequest) :
    (s.run register requests).app.prosumerState ≠ .pause := by
  induction requests using List.reverseRecOn with
  | nil =>
    rw [run, List.foldl_nil, h.state]
    decide
  | append_singleton requests request _ =>
    rw [run_snoc]
    exact handleRequest_not_paused _ request

variable (register) in
theorem handleRequest_play (hpaused : s.app.prosumerState ≠ .pause) (hplay : request.method = .play) :
    (s.handleRequest register request).network = s.network.setKeepAliveTimer register ∧
      (s.handleRequest register request).app.prosumerState = .start := by
  rw [handleRequest_prosumerState, handleRequest, hplay]
  exact ⟨if_neg hpaused, if_neg hpaused⟩

/-- Every play is the first request, or the one behind a teardown. -/
def PlaysAfresh (requests : List PlaybackRequest) : Prop :=
  requests.IsChain fun r next => next.method = .play → r.method = .teardown

variable (register) in
/-- The registrations of a source that plays only afresh. -/
theorem PlaysAfresh.registered (h : s.Established) (hplays : PlaysAfresh requests) :
    ((s.run register requests).network.registered = [] ∨
      (s.run register requests).network.registered = [(s.run register requests).network.timerId]) ∧
    ((∀ last ∈ requests.getLast?, last.method = .teardown) →
      (s.run register requests).network.registered = []) := by
  induction requests using List.reverseRecOn with
  | nil =>
    rw [run, List.foldl_nil, h.network]
    exact ⟨.inl rfl, fun _ => rfl⟩
  | append_singleton requests request ih =>
    obtain ⟨hinit, -, hlast⟩ := List.isChain_append.mp hplays
    obtain ⟨hone, hnone⟩ := ih hinit
    have hpaused : (s.run register requests).app.prosumerState ≠ .pause := h.run_not_paused requests
    rw [run_snoc, List.getLast?_append]
    generalize s.run register requests = t at hone hnone hpaused
    cases hmethod : request.method with
    | play =>
      have hteardown : ∀ last ∈ requests.getLast?, last.method = .teardown :=
        fun last hmem => hlast last hmem request rfl hmethod
      rw [(handleRequest_play register hpaused hmethod).1, WfdSourceNetworkSession.setKeepAliveTimer,
        hnone hteardown]
      exact ⟨.inr rfl, fun hlast => by cases hmethod.symm.trans (hlast request rfl)⟩
    | pause =>
      have hnetwork : (t.handleRequest register request).network = t.network := by
        rw [handleRequest, hmethod]
        rfl
      rw [hnetwork]
      exact ⟨hone, fun hlast => by cases hmethod.symm.trans (hlast request rfl)⟩
    | teardown =>
      have hempty : (t.handleRequest register request).network.registered = [] := by
        rw [handleRequest, hmethod]
        change t.network.registered.filter _ = []
        rcases hone with hone | hone <;> rw [hone] <;> simp
      exact ⟨.inl hempty, fun _ => hempty⟩

theorem run_pair (s : SourcePlayback) (requests : List PlaybackRequest) (r next : PlaybackRequest) :
    s.run register (requests ++ [r, next]) =
      ((s.run register requests).handleRequest register r).handleRequest register next :=
  run_append s requests [r, next]

/-- What goes wrong at a play that comes behind something else. -/
theorem KeepsPlayback.teardown_before_play (h : s.Established) {before after : List PlaybackRequest}
    {r play : PlaybackRequest} (hkeeps : s.KeepsPlayback register (before ++ r :: play :: after))
    (hplay : play.method = .play) : r.method = .teardown := by
  have hpaused : ((s.run register before).handleRequest register r).app.prosumerState ≠ .pause :=
    handleRequest_not_paused _ r
  obtain ⟨hnetwork, hstart⟩ := handleRequest_play register hpaused hplay
  cases hmethod : r.method with
  | teardown => rfl
  | pause =>
    have hresume := hkeeps.resumes before r [] play after rfl hmethod hplay (by simp)
    rw [List.nil_append, run_pair, hstart] at hresume
    cases hresume
  | play =>
    have hone := hkeeps.oneTimer (before ++ [r, play]) after (by simp)
    have hbefore : (s.run register before).app.prosumerState ≠ .pause := h.run_not_paused before
    have hfirst := (handleRequest_play register hbefore hmethod).1
    rw [run_pair, hnetwork, hfirst] at hone
    simp only [WfdSourceNetworkSession.setKeepAliveTimer, List.length_append,
      List.length_singleton] at hone
    omega

theorem PlaysAfresh.teardown_between {before between after : List PlaybackRequest}
    {pause play : PlaybackRequest} (hplays : PlaysAfresh (before ++ pause :: (between ++ play :: after)))
    (hpause : pause.method = .pause) (hplay : play.method = .play) :
    ∃ r ∈ between, r.method = .teardown := by
  have hchain := (List.isChain_append.mp hplays).2.1
  rw [← List.cons_append] at hchain
  have hlast := (List.isChain_append.mp hchain).2.2
  rcases List.eq_nil_or_concat' between with rfl | ⟨front, last, rfl⟩
  · cases hpause.symm.trans (hlast pause rfl play rfl hplay)
  · refine ⟨last, List.mem_append_right _ (List.mem_singleton_self last), ?_⟩
    exact hlast last (by rw [List.getLast?_cons, List.getLast?_concat]; rfl) play rfl hplay

/-- Playback is kept if and only if every play is the first request or comes right behind
a teardown. -/
theorem keepsPlayback_iff (h : s.Established) :
    s.KeepsPlayback register requests ↔ PlaysAfresh requests := by
  constructor
  · intro hkeeps
    rw [PlaysAfresh, List.isChain_iff_getElem]
    intro i hi hplay
    have hsplit : requests = requests.take i ++ requests[i] :: requests[i + 1] ::
        requests.drop (i + 2) := by
      rw [List.cons_getElem_drop_succ, List.cons_getElem_drop_succ, List.take_append_drop]
    rw [hsplit] at hkeeps
    exact hkeeps.teardown_before_play h hplay
  · intro hplays
    refine ⟨?_, ?_⟩
    · intro before pause between play after hsplit hpause hplay hbetween
      rw [hsplit] at hplays
      obtain ⟨r, hmem, hteardown⟩ := hplays.teardown_between hpause hplay
      exact absurd hteardown (hbetween r hmem)
    · intro before after hsplit
      rw [hsplit] at hplays
      have hbefore : PlaysAfresh before := (List.isChain_append.mp hplays).1
      rcases (hbefore.registered register h).1 with hnone | hone
      · rw [hnone]
        exact Nat.zero_le 1
      · rw [hone]
        exact le_rfl

/-- A source that nothing has been asked of, whose timer counts its ids. -/
def countIds (ids : List (BitVec 32)) : BitVec 32 := BitVec.ofNat 32 (ids.length + 1)

theorem established_new : Established { app := {} } := ⟨rfl, rfl⟩

theorem keepsPlayback_teardownBetween :
    KeepsPlayback countIds { app := {} } [⟨.play, 1⟩, ⟨.pause, 2⟩, ⟨.teardown, 3⟩, ⟨.play, 4⟩] ↔
      PlaysAfresh [⟨.play, 1⟩, ⟨.pause, 2⟩, ⟨.teardown, 3⟩, ⟨.play, 4⟩] :=
  keepsPlayback_iff established_new

/-- Play, pause and play again. -/
theorem playAfterPause_not_keepsPlayback :
    ¬ ∀ s, Established s → ∀ requests, KeepsPlayback countIds s requests := by
  intro h
  have hresume := (h { app := {} } established_new
    [⟨.play, 1⟩, ⟨.pause, 2⟩, ⟨.play, 3⟩]).resumes [⟨.play, 1⟩] ⟨.pause, 2⟩ [] ⟨.play, 3⟩ [] rfl rfl rfl
      (by simp)
  cases hresume

end SourcePlayback

end WifiDisplay
