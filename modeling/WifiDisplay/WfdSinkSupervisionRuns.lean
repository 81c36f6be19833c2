import WifiDisplay.WfdSinkSupervision

/-! The runs of a sink, next to the message of the handshake that it waits for. -/

namespace WifiDisplay

namespace SinkApp

variable {a : SinkApp}

theorem log_grows (log : List SinkEvent) : KeptQuietly fun b => log <+: b.log := by
  intro b c hb hq
  obtain ⟨new, hlog, -⟩ := hq.log
  exact hb.trans ⟨new, hlog.symm⟩

theorem log_grows_note (a : SinkApp) (e : SinkEvent) : a.log <+: (a.note e).log :=
  List.prefix_append a.log [e]

theorem log_grows_launched (a : SinkApp) (request : SinkRequest) (url : Text) :
    a.log <+: ((a.register request).launched request url).log :=
  List.prefix_append a.log [.sent request (nextCSeq a.cseq) url]

theorem log_grows_sendRequest (a : SinkApp) (request : SinkRequest) (url : Text) (text : Int → Text) :
    a.log <+: (a.sendRequest request url text).2.log :=
  sendRequest_keeps (log_grows a.log) (List.prefix_refl _) (a.log_grows_launched request url)
    (List.prefix_refl _)

theorem log_grows_sendM6Request (a : SinkApp) : a.log <+: a.sendM6Request.2.log := by
  refine sendM6Request_keeps (log_grows a.log) (List.prefix_refl _) ?_ (List.prefix_refl _)
  intro b hq _
  exact (log_grows a.log (a.log_grows_launched .m6 a.rtspUrl) hq).trans (b.log_grows_note _)

theorem log_grows_sendM8Request (a : SinkApp) : a.log <+: a.sendM8Request.2.log := by
  refine sendM8Request_keeps (log_grows a.log) (List.prefix_refl _) ?_
  intro b hq
  rcases hq with hsent | hfailed
  · exact (log_grows a.log (a.log_grows_launched .m8 a.rtspUrl) hsent).trans (b.log_grows_note _)
  · have hregistered : a.log <+: (a.register .m8).unregister.log := List.prefix_refl _
    exact (log_grows a.log hregistered hfailed).trans (b.log_grows_note _)

theorem log_grows_handleOptionsRequest (a : SinkApp) (cseq : Int) :
    a.log <+: (a.handleOptionsRequest cseq).log := by
  have hanswered : a.log <+: ({ a.stopTimer with
      isFirstCast := true, isFirstCreateProsumer := true }.sendM1Response cseq).2.log :=
    sendM1Response_keeps (log_grows a.log) (List.prefix_refl _) (List.prefix_refl _)
      (a.log_grows_note _)
  exact hanswered.trans (log_grows_sendRequest _ .m2 ['*'] _)

theorem log_grows_handleRequest (a : SinkApp) (request : RtspRequest) (message : Text) :
    a.log <+: (a.handleRequest request message).log := by
  refine handleRequest_keeps (log_grows a.log) (List.prefix_refl _)
    (fun _ => a.log_grows_handleOptionsRequest request.cSeq) (a.log_grows_note _) ?_
    (fun _ => List.prefix_refl _) (fun _ => a.log_grows_note _)
  intro method _
  refine handleTriggerMethod_keeps (log_grows a.log) (List.prefix_refl _) (a.log_grows_note _) ?_ ?_
  · intro b _ _ hq _
    exact (log_grows a.log (a.log_grows_note _) hq).trans b.log_grows_sendM6Request
  · intro b hq
    exact (log_grows a.log (List.prefix_refl _) hq).trans b.log_grows_sendM8Request

theorem log_grows_handleResponse (a : SinkApp) (response : RtspResponse) :
    a.log <+: (a.handleResponse response).log := by
  have hread (request : SinkRequest) :
      a.log <+: (a.answered request response.cSeq response.status).log :=
    List.prefix_append a.log [.answered request response.cSeq response.status]
  refine handleResponse_keeps (J := fun b => a.log <+: b.log) (log_grows a.log) (List.prefix_refl _)
    (fun request _ => hread request) ?_ ?_ (fun _ hb => hb)
  · intro _ _ b hq
    exact (log_grows a.log (hread .m6) hq).trans (b.log_grows_sendRequest .m7 b.rtspUrl _)
  · intro _ _
    exact (hread .m7).trans ((List.prefix_append _ _).trans (List.prefix_append _ _))

theorem log_grows_act (a : SinkApp) (action : SinkAction) : a.log <+: (a.act action).log := by
  cases action with
  | request request message => exact a.log_grows_handleRequest request message
  | response response => exact a.log_grows_handleResponse response
  | idr =>
    exact sendIDRRequest_keeps (log_grows a.log) (List.prefix_refl _)
      (a.log_grows_launched .idr a.rtspUrl) (List.prefix_refl _)
  | teardown => exact a.log_grows_sendM8Request
  | setClient rtspClient => exact List.prefix_refl _
  | _ => exact log_grows a.log (List.prefix_refl _) (quietly_act a trivial)

theorem live_of_act {action : SinkAction} (h : Live (a.act action).log) : Live a.log := by
  obtain ⟨new, hlog⟩ := a.log_grows_act action
  rw [← hlog] at h
  exact h.before

end SinkApp

/-- An action that leaves the connection alone, and is not the timer's own. -/
def SinkAction.Plain : SinkAction → Prop
  | .expire | .setClient _ | .armTimer => False
  | _ => True

namespace SinkApp

variable {a : SinkApp} {awaited : Option HandshakeMessage}

theorem Supervised.act (h : Supervised a awaited) {action : SinkAction} (hplain : action.Plain)
    (hok : a.KeepsSupervision awaited action) (hlive : Live (a.act action).log) :
    Supervised (a.act action) (a.awaits awaited action) := by
  have hbefore := live_of_act hlive
  cases action with
  | request request message => exact h.handleRequest hok hlive hbefore
  | response response => exact h.handleResponse hok hlive hbefore
  | idr =>
    refine h.sendIDRRequest fun hplaying hclient hsends hnil hnone => ?_
    exact hok hbefore hplaying hclient hsends hnone (h.noneWaits_iff.mpr hnil)
  | teardown => exact h.sendM8Request hlive
  | setStatus status => exact h.frame rfl rfl h.state rfl rfl
  | setPort localRtpPort capabilities => exact h.frame rfl rfl h.state rfl rfl
  | setConnected connected => exact h.frame rfl rfl h.state rfl rfl
  | expireKeepAlive => exact h.frame rfl rfl h.state rfl rfl
  | notify notice => exact h.frame rfl rfl h.state rfl rfl
  | setClient rtspClient => exact hplain.elim
  | armTimer => exact hplain.elim
  | expire => exact hplain.elim

/-- The members of the sink, and the message of the handshake that it waits for. -/
def trackedAct (p : SinkApp × Option HandshakeMessage) (action : SinkAction) :
    SinkApp × Option HandshakeMessage := (p.1.act action, p.1.awaits p.2 action)

theorem foldl_trackedAct_fst (actions : List SinkAction) (p : SinkApp × Option HandshakeMessage) :
    (actions.foldl trackedAct p).1 = actions.foldl SinkApp.act p.1 := by
  induction actions generalizing p with
  | nil => rfl
  | cons action actions ih => exact ih (trackedAct p action)

/-- Whatever has ended need not be watched. -/
def Watched (p : SinkApp × Option HandshakeMessage) : Prop := Live p.1.log → Supervised p.1 p.2

theorem Watched.act {p : SinkApp × Option HandshakeMessage} (h : Watched p) {action : SinkAction}
    (hplain : action.Plain) (hok : p.1.KeepsSupervision p.2 action) : Watched (trackedAct p action) :=
  fun hlive => (h (live_of_act hlive)).act hplain hok hlive

theorem watched_of_error {p : SinkApp × Option HandshakeMessage} {code : SessionErrorCode}
    (h : .notified (.error code) ∈ p.1.log) : Watched p := fun hlive => absurd hlive (not_live_of_error h)

theorem Watched.foldl {p : SinkApp × Option HandshakeMessage} (h : Watched p)
    {actions : List SinkAction} (hplain : ∀ action ∈ actions, action.Plain)
    (hok : AllMeet trackedAct (fun q action => q.1.KeepsSupervision q.2 action) p actions) :
    Watched (actions.foldl trackedAct p) := by
  induction actions generalizing p with
  | nil => exact h
  | cons action actions ih =>
    exact ih (h.act (hplain action (List.mem_cons_self ..)) hok.1)
      (fun action' haction' => hplain action' (List.mem_cons_of_mem _ haction')) hok.2

end SinkApp

namespace SinkSession

/-- A step of the session, and of what it waits for. -/
def track (p : SinkSession × Option HandshakeMessage) (input : SinkInput) :
    SinkSession × Option HandshakeMessage :=
  (p.1.step input, ((p.1.actions input).foldl SinkApp.trackedAct (p.1.app, p.2)).2)

theorem interrupting_step {s : SinkSession} (h : s.interrupting = true) (input : SinkInput) :
    (s.step input).interrupting = true := by
  have hact : ∀ (t : SinkSession) action, (t.act action).interrupting = t.interrupting := fun _ _ => rfl
  have hinterrupted : ∀ t : SinkSession, t.notifyInterrupted.interrupting = t.interrupting := by
    intro t
    rw [notifyInterrupted]
    split <;> rfl
  have hend : ∀ (t : SinkSession) notice, (t.notifyOperation notice).interrupting = t.interrupting := by
    intro t notice
    rw [notifyOperation]
    split <;> rfl
  have hevent : ∀ action, (s.handleEvent action).interrupting = true := by
    intro action
    rw [handleEvent]
    split
    · exact (hinterrupted s).trans h
    · exact (hinterrupted _).trans h
  cases input with
  | operation status creation =>
    rw [step]
    unfold updateOperation
    simp only
    split
    · exact (hinterrupted _).trans h
    · cases status with
      | start =>
        simp only [startWfdSession]
        cases creation <;> simp [hact, hend, hinterrupted, h]
      | stop => exact (hend _ _).trans h
      | pause => exact (hend _ _).trans h
      | resume => exact (hend _ _).trans h
      | destroy => exact (hend _ _).trans h
      | interrupt => rfl
  | read message =>
    rw [step, if_pos h]
    exact (hinterrupted s).trans h
  | close =>
    rw [step, onClientClose]
    simp only [hact, h, if_true]
    exact (hinterrupted _).trans h
  | timeout =>
    rw [step, onTimeout]
    split
    · exact h
    · simp only
      split
      · simp only [hact, h, if_true]
        exact (hinterrupted _).trans h
      · exact h
  | keepAliveTimeout =>
    rw [step, onKeepAliveTimeout]
    split
    · exact h
    · exact h
  | _ => exact hevent _

/-- What the session does not do at the start, at the end of the connection, or when the
timer runs out. -/
theorem plain_of_mem_actions {s : SinkSession} (h : s.interrupting = false) {input : SinkInput}
    (hinput : ∀ creation, input ≠ .operation .start creation) (hclose : input ≠ .close)
    (htimeout : input ≠ .timeout) {action : SinkAction} (haction : action ∈ s.actions input) :
    action.Plain := by
  have hevent : ∀ action', action'.Plain → action ∈ s.eventActions action' → action.Plain := by
    intro action' hplain hmem
    rw [eventActions] at hmem
    split at hmem
    · rw [List.mem_singleton.mp hmem]
      trivial
    · rw [List.mem_singleton.mp hmem]
      exact hplain
  have hend : ∀ status notice, action ∈ s.operationEnd status notice → action.Plain := by
    intro status notice hmem
    rw [operationEnd] at hmem
    split at hmem
    · cases hmem
    · rw [List.mem_singleton.mp hmem]
      trivial
  cases input with
  | operation status creation =>
    rw [actions] at haction
    unfold operationActions at haction
    rw [if_neg (by simp [h])] at haction
    rcases List.mem_cons.mp haction with rfl | haction
    · trivial
    · cases status with
      | start => exact absurd rfl (hinput creation)
      | stop =>
        simp only [List.mem_cons, List.not_mem_nil, or_false] at haction
        rcases haction with rfl | rfl | rfl <;> trivial
      | pause => exact hend _ _ haction
      | resume => exact hend _ _ haction
      | destroy => exact hend _ _ haction
      | interrupt => cases haction
  | read message =>
    rw [actions, if_neg (by simp [h]), readActions] at haction
    obtain ⟨⟨d, text⟩, -, rfl⟩ := List.mem_map.mp haction
    cases d <;> trivial
  | close => exact absurd rfl hclose
  | timeout => exact absurd rfl htimeout
  | keepAliveTimeout =>
    rw [actions] at haction
    split at haction
    · cases haction
    · simp only [List.mem_cons, List.not_mem_nil, or_false] at haction
      rcases haction with rfl | rfl <;> trivial
  | _ =>
    refine hevent _ ?_ haction
    trivial

/-- A start brings a timer with the new connection, or is reported. -/
theorem watched_start {s : SinkSession} {awaited : Option HandshakeMessage} (hi : s.interrupting = false)
    (h : SinkApp.Watched (s.app, awaited)) (creation : ClientCreation) :
    SinkApp.Watched
      ((s.actions (.operation .start creation)).foldl SinkApp.trackedAct (s.app, awaited)) := by
  rw [actions]
  unfold operationActions
  rw [if_neg (by simp [hi])]
  simp only [hi, Bool.false_eq_true, not_false_eq_true, true_and, operationEnd, false_and, if_false]
  split
  · intro hlive
    have hbefore := h hlive
    refine ⟨⟨fun hclosed => ?_, fun _ => rfl, hbefore.m8, hbefore.state, hbefore.waiting⟩,
      fun _ => rfl, fun _ hnone => ?_⟩
    · cases hclosed
    · cases hnone
  · exact SinkApp.watched_of_error (List.mem_append_right _ (List.mem_singleton_self _))

theorem watched_close {s : SinkSession} {awaited : Option HandshakeMessage} (hi : s.interrupting = false)
    (h : SinkApp.Watched (s.app, awaited)) :
    SinkApp.Watched ((s.actions .close).foldl SinkApp.trackedAct (s.app, awaited)) := by
  rw [actions, if_neg (by simp [hi])]
  split
  · exact SinkApp.watched_of_error (List.mem_append_right _ (List.mem_singleton_self _))
  · rename_i hstopping
    intro hlive
    exact absurd (not_not.mp hstopping) (h hlive).state

theorem watched_timeout {s : SinkSession} {awaited : Option HandshakeMessage}
    (hi : s.interrupting = false) (h : SinkApp.Watched (s.app, awaited)) :
    SinkApp.Watched ((s.actions .timeout).foldl SinkApp.trackedAct (s.app, awaited)) := by
  rw [actions]
  split
  · exact h
  · cases s.app.timeoutCallback with
    | interaction =>
      simp only [hi, Bool.false_eq_true, if_false]
      exact SinkApp.watched_of_error (List.mem_append_right _ (List.mem_singleton_self _))
    | network => exact SinkApp.watched_of_error (List.mem_append_right _ (List.mem_singleton_self _))

theorem watched_track {p : SinkSession × Option HandshakeMessage} {input : SinkInput}
    (h : p.1.interrupting = false → SinkApp.Watched (p.1.app, p.2))
    (hok : p.1.interrupting = false → AllMeet SinkApp.trackedAct
      (fun q action => q.1.KeepsSupervision q.2 action) (p.1.app, p.2) (p.1.actions input))
    (hgoes : (track p input).1.interrupting = false) :
    SinkApp.Watched ((track p input).1.app, (track p input).2) := by
  have hi : p.1.interrupting = false := by
    by_contra hi
    have hstays := interrupting_step (by simpa using hi) input
    exact absurd (hstays.symm.trans hgoes) (by simp)
  have hfold : ((track p input).1.app, (track p input).2) =
      (p.1.actions input).foldl SinkApp.trackedAct (p.1.app, p.2) := by
    refine Prod.ext ?_ rfl
    rw [SinkApp.foldl_trackedAct_fst]
    exact p.1.app_step input
  rw [hfold]
  by_cases hstart : ∃ creation, input = .operation .start creation
  · obtain ⟨creation, rfl⟩ := hstart
    exact watched_start hi (h hi) creation
  · by_cases hclose : input = .close
    · rw [hclose]
      exact watched_close hi (h hi)
    · by_cases htimeout : input = .timeout
      · rw [htimeout]
        exact watched_timeout hi (h hi)
      · exact (h hi).foldl (fun action => plain_of_mem_actions hi
          (fun creation he => hstart ⟨creation, he⟩) hclose htimeout) (hok hi)

theorem timeout_reported {s : SinkSession} (hi : s.interrupting = false)
    (h : s.app.timerArmed = true) : ∃ code, .notified (.error code) ∈ (s.step .timeout).app.log := by
  have harmed : ¬ ((s.app.timeoutTimer.bind (·.armed)).isNone = true) := by
    rw [SinkApp.timerArmed] at h
    rw [Option.isNone_iff_eq_none]
    intro hnone
    rw [hnone] at h
    cases h
  have hi' : (s.act .expire).interrupting = false := hi
  have hcallback : (s.act .expire).app.timeoutCallback = s.app.timeoutCallback := rfl
  rw [step, onTimeout, if_neg harmed]
  simp only [hcallback]
  cases s.app.timeoutCallback with
  | interaction =>
    simp only [hi', Bool.false_eq_true, if_false]
    exact ⟨_, List.mem_append_right _ (List.mem_singleton_self _)⟩
  | network => exact ⟨_, List.mem_append_right _ (List.mem_singleton_self _)⟩

theorem timeout_of_not_armed {s : SinkSession} (h : s.app.timerArmed = false) : s.step .timeout = s := by
  rw [step, onTimeout, if_pos]
  rw [SinkApp.timerArmed] at h
  rw [Option.isNone_iff_eq_none]
  exact Option.not_isSome_iff_eq_none.mp (by rw [h]; simp)

/-- While an answer is waited for, the timer is armed, and its end is reported; while nothing
is, the timer does nothing. -/
structure Supervises (s : SinkSession) (awaited : Option HandshakeMessage) : Prop where
  answers : ¬ NoneWaits s.app.unanswered → s.app.timerArmed = true ∧
    ∃ code, .notified (.error code) ∈ (s.step .timeout).app.log
  healthy : NoneWaits s.app.unanswered → awaited = none →
    s.app.timerArmed = false ∧ s.step .timeout = s

end SinkSession

/-- The runs of a sink that does not get interrupted, and what it waits for in the end. -/
abbrev SupervisedRun (ok : SinkApp → Option HandshakeMessage → SinkAction → Prop)
    (init : SinkSession) (inputs : List SinkInput) (p : SinkSession × Option HandshakeMessage) : Prop :=
  GuardedRun
    (fun p input => (.ok (SinkSession.track p input) : Except Fault (SinkSession × Option HandshakeMessage)))
    (fun p input => p.1.interrupting = false → AllMeet SinkApp.trackedAct
      (fun q action => ok q.1 q.2 action) (p.1.app, p.2) (p.1.actions input)) (init, none) inputs p

namespace SupervisedRun

theorem exists_of_check (ok : SinkApp → Option HandshakeMessage → SinkAction → Prop)
    [∀ a awaited action, Decidable (ok a awaited action)] (init : SinkSession) (inputs : List SinkInput)
    (P : SinkSession × Option HandshakeMessage → Prop) [DecidablePred P]
    (h : (GuardedRun.check
      (fun p input =>
        (.ok (SinkSession.track p input) : Except Fault (SinkSession × Option HandshakeMessage)))
      (fun p input => p.1.interrupting = false → AllMeet SinkApp.trackedAct
        (fun q action => ok q.1 q.2 action) (p.1.app, p.2) (p.1.actions input))
      (init, none) inputs).any fun p => decide (P p)) :
    ∃ p, SupervisedRun ok init inputs p ∧ P p := by
  obtain ⟨p, hp, hP⟩ := (Option.any_eq_true _ _).mp h
  exact ⟨p, GuardedRun.of_check hp, of_decide_eq_true hP⟩

theorem watched_new (network : List Sending) : SinkApp.Watched ((SinkSession.new network).app, none) := by
  intro _
  refine ⟨⟨fun _ => rfl, fun hopen => ?_, fun _ hc => ?_, fun hstate => ?_, fun _ hp => ?_⟩,
    fun hne => absurd rfl hne, fun _ _ => rfl⟩
  · cases hopen
  · cases hc
  · cases hstate
  · cases hp

/-- The timer watches over every answer and reports no healthy session, in the runs in
which the waits do not overlap in the ways that stop it or leave it armed. -/
theorem supervises {network : List Sending} {inputs : List SinkInput} {s : SinkSession}
    {awaited : Option HandshakeMessage}
    (run : SupervisedRun SinkApp.KeepsSupervision (.new network) inputs (s, awaited))
    (hi : s.interrupting = false) (hlive : Live s.app.log) : s.Supervises awaited := by
  have hwatched : s.interrupting = false → SinkApp.Watched (s.app, awaited) := by
    refine GuardedRun.invariant (I := fun p => p.1.interrupting = false → SinkApp.Watched (p.1.app, p.2))
      (fun _ => watched_new network) ?_ run
    intro p input p' hp hok hstep
    cases hstep
    exact SinkSession.watched_track hp hok
  have hsupervised := hwatched hi hlive
  constructor
  · intro hwaits
    have harmed := hsupervised.answers fun hnil => hwaits (hsupervised.noneWaits_iff.mpr hnil)
    exact ⟨harmed, SinkSession.timeout_reported hi harmed⟩
  · intro hnone hawaited
    have hquiet := hsupervised.healthy (hsupervised.noneWaits_iff.mp hnone) hawaited
    exact ⟨hquiet, SinkSession.timeout_of_not_armed hquiet⟩

/-- Two key frames are asked for, and the first answer stops the timer of the second. -/
theorem twoKeyFrames_not_supervised :
    ¬ ∀ network inputs s awaited,
      SupervisedRun (fun _ _ _ => True) (.new network) inputs (s, awaited) →
        s.interrupting = false → Live s.app.log → s.Supervises awaited := by
  intro h
  obtain ⟨⟨s, awaited⟩, hrun, hi, hlive, hwaits, harmed⟩ := exists_of_check (fun _ _ _ => True) (.new [])
    (sinkHandshake ++ [.requestIdr, .requestIdr, .read (plainAnswer "5")])
    (fun p => p.1.interrupting = false ∧ Live p.1.app.log ∧ ¬ NoneWaits p.1.app.unanswered ∧
      p.1.app.timerArmed = false) (by
      -- the texts as the lists of their characters
      unfold sinkHandshake sourceOptions optionsAnswer sourceGetParameter sourceSetParameter
        setupTrigger plainAnswer
      repeat rw [String.toList_append]
      repeat rw [String.toList_ofList]
      decide +kernel)
  have hwatched := ((h [] _ s awaited hrun hi hlive).answers hwaits).1
  exact absurd (hwatched.symm.trans harmed) (by simp)

/-- A handshake, a key frame that is asked for and answered, and another one that is asked for. -/
theorem keyFrame_supervises :
    ∃ p, SupervisedRun SinkApp.KeepsSupervision (.new [])
        (sinkHandshake ++ [.requestIdr, .read (plainAnswer "5"), .requestIdr]) p ∧
      p.1.app.wfdState = .playing ∧ p.1.app.unanswered = [(6, .idr)] ∧ p.1.Supervises p.2 := by
  obtain ⟨⟨s, awaited⟩, hrun, hi, hlive, hplaying, hwaits⟩ := exists_of_check SinkApp.KeepsSupervision
    (.new []) (sinkHandshake ++ [.requestIdr, .read (plainAnswer "5"), .requestIdr])
    (fun p => p.1.interrupting = false ∧ Live p.1.app.log ∧ p.1.app.wfdState = .playing ∧
      p.1.app.unanswered = [(6, .idr)])
    (by
      unfold sinkHandshake sourceOptions optionsAnswer sourceGetParameter sourceSetParameter
        setupTrigger plainAnswer
      repeat rw [String.toList_append]
      repeat rw [String.toList_ofList]
      decide +kernel)
  exact ⟨(s, awaited), hrun, hplaying, hwaits, supervises hrun hi hlive⟩

end SupervisedRun

end WifiDisplay
