import WifiDisplay.WfdSinkSteps

/-! A sink that stops does not play again. -/

namespace WifiDisplay

/-- The events that stand for playback on its way. -/
def SinkEvent.Starts (e : SinkEvent) : Prop :=
  e = .entered .ready ∨ e = .entered .playing ∨ e = .privateEvent .rtspPlayed

/-- The request that ends the session has gone out. -/
def SinkEvent.Stops : SinkEvent → Prop
  | .sent .m8 _ _ => True
  | _ => False

instance : DecidablePred SinkEvent.Stops := fun e => by unfold SinkEvent.Stops; split <;> infer_instance

def Stopped (log : List SinkEvent) : Prop := ∃ e ∈ log, e.Stops

instance (log : List SinkEvent) : Decidable (Stopped log) := inferInstanceAs (Decidable (∃ e ∈ log, _))

namespace SinkApp

/-- Behind the stop there is no start in the log, and the state is still that of the
stop. -/
structure StaysStopped (a : SinkApp) : Prop where
  log : EventLog.Guarded (fun before e => e.Starts → ¬ Stopped before) a.log
  state : Stopped a.log → a.wfdState = .stopping

/-- Once the session has stopped, the source does not trigger a SETUP that the sink gets
through, and does not answer a PLAY with success. -/
def KeepsStopping (a : SinkApp) : SinkAction → Prop
  | .request request _ => trigger? request = some "SETUP".toList → Stopped a.log →
      a.SendsNext → (a.network.tail.headD {}).ok = false
  | .response response =>
    a.responseHandlers response.cSeq = some .m7 → response.status = rtspStatusOk → ¬ Stopped a.log
  | _ => True

instance (a : SinkApp) : DecidablePred a.KeepsStopping
  | .request .. | .response .. | .idr | .teardown | .setStatus .. | .setPort .. | .setConnected .. | .setClient ..
  | .armTimer | .expire | .expireKeepAlive | .notify .. => by unfold KeepsStopping; infer_instance

variable {a b : SinkApp}

theorem StaysStopped.of_log (h : StaysStopped a) {new : List SinkEvent} (hlog : b.log = a.log ++ new)
    (hnew : ∀ e ∈ new, ¬ e.Starts ∧ ¬ e.Stops) (hstate : b.wfdState = a.wfdState) :
    StaysStopped b where
  log := by
    rw [hlog]
    exact h.log.append fun e he _ hstarts => absurd hstarts (hnew e he).1
  state := by
    rintro ⟨e, he, hstops⟩
    rw [hlog] at he
    rcases List.mem_append.mp he with he | he
    · exact hstate.trans (h.state ⟨e, he, hstops⟩)
    · exact absurd hstops (hnew e he).2

theorem SinkEvent.Quiet.not_starts {e : SinkEvent} (h : e.Quiet) : ¬ e.Starts ∧ ¬ e.Stops := by
  constructor
  · intro hstarts
    rcases hstarts with rfl | rfl | rfl
    · exact h
    · exact h
    · exact h rfl
  · intro hstops
    cases e with
    | notified notice => exact hstops
    | privateEvent type => exact hstops
    | _ => exact h

theorem StaysStopped.quietly (h : StaysStopped a) (hq : Quietly a b) : StaysStopped b := by
  obtain ⟨new, hlog, hnew⟩ := hq.log
  exact h.of_log hlog (fun e he => SinkEvent.Quiet.not_starts (hnew e he)) hq.state

theorem StaysStopped.same (h : StaysStopped a) (hlog : b.log = a.log)
    (hstate : b.wfdState = a.wfdState) : StaysStopped b :=
  h.of_log (by rw [hlog, List.append_nil]) (by simp) hstate

theorem StaysStopped.note (h : StaysStopped a) {e : SinkEvent} (hlog : b.log = a.log ++ [e])
    (hstarts : ¬ e.Starts) (hstops : ¬ e.Stops) (hstate : b.wfdState = a.wfdState) :
    StaysStopped b := by
  refine h.of_log hlog ?_ hstate
  intro e' he'
  rw [List.mem_singleton.mp he']
  exact ⟨hstarts, hstops⟩

/-- The stop itself, whether its request is sent or not. -/
theorem StaysStopped.enter_stopping (hlog : EventLog.Guarded
    (fun before e => e.Starts → ¬ Stopped before) a.log) : StaysStopped (a.enter .stopping) where
  log := EventLog.guarded_snoc.mpr ⟨hlog, fun hstarts => by simp [SinkEvent.Starts] at hstarts⟩
  state := fun _ => rfl

theorem not_stopped_snoc {log : List SinkEvent} {e : SinkEvent} (h : ¬ Stopped log) (he : ¬ e.Stops) :
    ¬ Stopped (log ++ [e]) := by
  rintro ⟨e', hmem, hstops⟩
  rcases List.mem_append.mp hmem with hmem | hmem
  · exact h ⟨e', hmem, hstops⟩
  · rw [List.mem_singleton.mp hmem] at hstops
    exact he hstops

theorem not_stopped_quietly (h : ¬ Stopped a.log) (hq : Quietly a b) : ¬ Stopped b.log := by
  obtain ⟨new, hlog, hnew⟩ := hq.log
  rw [hlog]
  rintro ⟨e, hmem, hstops⟩
  rcases List.mem_append.mp hmem with hmem | hmem
  · exact h ⟨e, hmem, hstops⟩
  · exact (SinkEvent.Quiet.not_starts (hnew e hmem)).2 hstops

/-- A session that has not stopped may go on. -/
theorem StaysStopped.start (h : StaysStopped a) (hgoes : ¬ Stopped a.log) {e : SinkEvent}
    (he : ¬ e.Stops) (hlog : b.log = a.log ++ [e]) : StaysStopped b where
  log := by
    rw [hlog]
    exact EventLog.guarded_snoc.mpr ⟨h.log, fun _ => hgoes⟩
  state := by
    rw [hlog]
    exact fun hstopped => absurd hstopped (not_stopped_snoc hgoes he)

theorem StaysStopped.launched (h : StaysStopped a) {request : SinkRequest} (hne : request ≠ .m8)
    (url : Text) : StaysStopped ((a.register request).launched request url) :=
  h.note rfl (by simp [SinkEvent.Starts]) (by cases request <;> first | exact id | exact absurd rfl hne)
    rfl

theorem StaysStopped.unregistered (h : StaysStopped a) (request : SinkRequest) :
    StaysStopped (a.register request).unregister := h.same rfl rfl

theorem StaysStopped.sendRequest (h : StaysStopped a) {request : SinkRequest} (hne : request ≠ .m8)
    (url : Text) (text : Int → Text) : StaysStopped (a.sendRequest request url text).2 :=
  sendRequest_keeps StaysStopped.quietly h (h.launched hne url) (h.unregistered request)

theorem StaysStopped.sendM6Request (h : StaysStopped a)
    (hgoes : Stopped a.log → a.SendsNext → False) : StaysStopped a.sendM6Request.2 := by
  refine sendM6Request_keeps StaysStopped.quietly h ?_ (h.unregistered .m6)
  intro b hq hsends
  have hmoves : ¬ Stopped a.log := fun hstopped => hgoes hstopped hsends
  exact StaysStopped.start ((h.launched (by simp) a.rtspUrl).quietly hq)
    (not_stopped_quietly (not_stopped_snoc hmoves id) hq) id rfl

theorem StaysStopped.sendM8Request (h : StaysStopped a) : StaysStopped a.sendM8Request.2 := by
  refine sendM8Request_keeps StaysStopped.quietly h ?_
  intro b hq
  rcases hq with hsent | hfailed
  · refine StaysStopped.enter_stopping ?_
    obtain ⟨new, hlog, hnew⟩ := hsent.log
    rw [hlog]
    have hlaunched : EventLog.Guarded (fun before e => e.Starts → ¬ Stopped before)
        ((a.register .m8).launched .m8 a.rtspUrl).log :=
      EventLog.guarded_snoc.mpr ⟨h.log, fun hstarts => by simp [SinkEvent.Starts] at hstarts⟩
    exact hlaunched.append fun e he _ hstarts =>
      absurd hstarts (SinkEvent.Quiet.not_starts (hnew e he)).1
  · exact .enter_stopping ((h.unregistered .m8).quietly hfailed).log

theorem StaysStopped.handleTriggerMethod (h : StaysStopped a) {cseq : Int} {method : Text}
    (hgoes : method = "SETUP".toList → Stopped a.log → a.SendsNext →
      (a.network.tail.headD {}).ok = false) : StaysStopped (a.handleTriggerMethod cseq method) := by
  have hnoted : StaysStopped (a.note .m5Received) := h.note rfl (by simp [SinkEvent.Starts]) id rfl
  refine handleTriggerMethod_keeps StaysStopped.quietly h hnoted ?_ ?_
  · intro b hsetup hsends hq hnetwork
    refine (hnoted.quietly hq).sendM6Request fun hstopped hnext => ?_
    refine absurd hnext.2 ?_
    rw [hnetwork, hgoes hsetup ?_ hsends]
    · simp
    · by_contra hmoves
      exact not_stopped_quietly (not_stopped_snoc hmoves id) hq hstopped
  · intro b hq
    exact (h.quietly hq).sendM8Request

theorem StaysStopped.handleOptionsRequest (h : StaysStopped a) (cseq : Int) :
    StaysStopped (a.handleOptionsRequest cseq) := by
  have hstart : StaysStopped { a.stopTimer with isFirstCast := true, isFirstCreateProsumer := true } :=
    h.same rfl rfl
  have hanswered : StaysStopped ({ a.stopTimer with
      isFirstCast := true, isFirstCreateProsumer := true }.sendM1Response cseq).2 :=
    sendM1Response_keeps StaysStopped.quietly hstart (hstart.same rfl rfl)
      (hstart.note rfl (by simp [SinkEvent.Starts]) id rfl)
  exact hanswered.sendRequest (by simp) ['*'] _

theorem StaysStopped.handleRequest (h : StaysStopped a) {request : RtspRequest} {message : Text}
    (hok : a.KeepsStopping (.request request message)) :
    StaysStopped (a.handleRequest request message) := by
  refine handleRequest_keeps StaysStopped.quietly h (fun _ => h.handleOptionsRequest request.cSeq)
    (h.note rfl (by simp [SinkEvent.Starts]) id rfl) ?_ (fun _ => h.same rfl rfl)
    (fun _ => h.note rfl (by simp [SinkEvent.Starts]) id rfl)
  intro method htrigger
  exact h.handleTriggerMethod fun hsetup => hok (htrigger.trans (congrArg some hsetup))

theorem StaysStopped.answered (h : StaysStopped a) (request : SinkRequest) (cseq status : Int) :
    StaysStopped (a.answered request cseq status) :=
  h.note rfl (by simp [SinkEvent.Starts]) id rfl

theorem StaysStopped.handleResponse (h : StaysStopped a) {response : RtspResponse}
    (hok : a.KeepsStopping (.response response)) : StaysStopped (a.handleResponse response) := by
  refine handleResponse_keeps StaysStopped.quietly h
    (fun request _ => h.answered request response.cSeq response.status) ?_ ?_ (fun _ hb => hb.same rfl rfl)
  · intro _ _ b hq
    exact ((h.answered .m6 response.cSeq response.status).quietly hq).sendRequest (by simp) b.rtspUrl _
  · intro hhandler hstatus
    have hread := h.answered .m7 response.cSeq response.status
    have hmoves : ¬ Stopped (a.answered .m7 response.cSeq response.status).log :=
      not_stopped_snoc (hok hhandler hstatus) id
    have hnotified : StaysStopped ((a.answered .m7 response.cSeq
        response.status).notifyAgentPrivateEvent .rtspPlayed) := hread.start hmoves id rfl
    exact hnotified.start (not_stopped_snoc hmoves id) id rfl

theorem StaysStopped.act (h : StaysStopped a) {action : SinkAction} (hok : a.KeepsStopping action) :
    StaysStopped (a.act action) := by
  cases action with
  | request request message => exact h.handleRequest hok
  | response response => exact h.handleResponse hok
  | idr =>
    exact sendIDRRequest_keeps StaysStopped.quietly h (h.launched (by simp) a.rtspUrl) (h.same rfl rfl)
  | teardown => exact h.sendM8Request
  | setClient rtspClient => exact h.same rfl rfl
  | _ => exact h.quietly (quietly_act a trivial)

theorem staysStopped_new (network : List Sending) : StaysStopped { network } :=
  ⟨EventLog.guarded_nil, by simp [Stopped]⟩

end SinkApp

/-- A sink that has gone to stop does not get ready, play or tell of playback again, in
the runs in which nothing of the source asks for that meanwhile. -/
theorem SinkRun.staysStopped {network : List Sending} {inputs : List SinkInput} {s : SinkSession}
    (run : SinkRun SinkApp.KeepsStopping (.new network) inputs s) : s.app.StaysStopped :=
  run.invariant (I := SinkApp.StaysStopped) (fun _ _ h hok => h.act hok)
    (SinkApp.staysStopped_new network)

/-- The answer to M7 comes behind the stop. -/
theorem latePlay_not_staysStopped :
    ¬ ∀ network inputs s, SinkRun (fun _ _ => True) (.new network) inputs s → s.app.StaysStopped := by
  intro h
  obtain ⟨s, hrun, hstopped, hplaying⟩ := SinkRun.exists_of_check (fun _ _ => True)
    (.new []) (sinkHandshake.dropLast ++ [.teardown, .read (plainAnswer "4")])
    (fun s => Stopped s.app.log ∧ s.app.wfdState = .playing) (by
      -- the texts as the lists of their characters
      unfold sinkHandshake sourceOptions optionsAnswer sourceGetParameter sourceSetParameter
        setupTrigger plainAnswer
      repeat rw [String.toList_append]
      repeat rw [String.toList_ofList]
      decide +kernel)
  have hstopping := (h [] _ s hrun).state hstopped
  rw [hplaying] at hstopping
  cases hstopping

/-- A session that plays, is torn down, and hears of it from the source. -/
theorem SinkRun.teardown_staysStopped :
    ∃ s, SinkRun SinkApp.KeepsStopping (.new [])
        (sinkHandshake ++ [.teardown, .read (plainAnswer "5")]) s ∧
      .entered .playing ∈ s.app.log ∧ Stopped s.app.log ∧ s.app.StaysStopped := by
  obtain ⟨s, hrun, hplayed, hstopped⟩ := SinkRun.exists_of_check SinkApp.KeepsStopping
    (.new []) (sinkHandshake ++ [.teardown, .read (plainAnswer "5")])
    (fun s => .entered .playing ∈ s.app.log ∧ Stopped s.app.log) (by
      unfold sinkHandshake sourceOptions optionsAnswer sourceGetParameter sourceSetParameter
        setupTrigger plainAnswer
      repeat rw [String.toList_append]
      repeat rw [String.toList_ofList]
      decide +kernel)
  exact ⟨s, hrun, hplayed, hstopped, SinkRun.staysStopped hrun⟩

end WifiDisplay
