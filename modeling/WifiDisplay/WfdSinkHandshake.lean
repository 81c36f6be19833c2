import WifiDisplay.PartialMaps
import WifiDisplay.WfdSinkSteps

/-! The order in which a sink comes to play. -/

namespace WifiDisplay

/-- The milestones of a handshake up to the request for the SETUP of a URL. -/
def setupStones (url : Text) (c6 : Int) : List SinkEvent :=
  [.m1Answered, .m3Answered, .m4Accepted url, .m5Received, .sent .m6 c6 url]

def playStones (url : Text) (c6 c7 : Int) : List SinkEvent :=
  setupStones url c6 ++ [SinkEvent.answered .m6 c6 rtspStatusOk] ++ [.sent .m7 c7 url]

def SetupSent (log : List SinkEvent) (url : Text) (c6 : Int) : Prop :=
  url ≠ [] ∧ (setupStones url c6).Sublist log

def PlaySent (log : List SinkEvent) (c7 : Int) : Prop :=
  ∃ url c6, url ≠ [] ∧ (playStones url c6 c7).Sublist log

/-- The whole handshake, for a URL. -/
def HandshakeDone (log : List SinkEvent) : Prop :=
  ∃ url c6 c7, url ≠ [] ∧ (playStones url c6 c7 ++ [SinkEvent.answered .m7 c7 rtspStatusOk]).Sublist log

def SinkEvent.Plays (e : SinkEvent) : Prop := e = .entered .playing ∨ e = .privateEvent .rtspPlayed

section Logs

variable {log : List SinkEvent} {url : Text} {c6 c7 : Int}

theorem SetupSent.append (h : SetupSent log url c6) (new : List SinkEvent) :
    SetupSent (log ++ new) url c6 := ⟨h.1, h.2.trans (List.sublist_append_left log new)⟩

theorem PlaySent.append (h : PlaySent log c7) (new : List SinkEvent) : PlaySent (log ++ new) c7 := by
  obtain ⟨url, c6, hurl, hstones⟩ := h
  exact ⟨url, c6, hurl, hstones.trans (List.sublist_append_left log new)⟩

theorem HandshakeDone.append (h : HandshakeDone log) (new : List SinkEvent) :
    HandshakeDone (log ++ new) := by
  obtain ⟨url, c6, c7, hurl, hstones⟩ := h
  exact ⟨url, c6, c7, hurl, hstones.trans (List.sublist_append_left log new)⟩

theorem PlaySent.done (h : PlaySent log c7) :
    HandshakeDone (log ++ [.answered .m7 c7 rtspStatusOk]) := by
  obtain ⟨url, c6, hurl, hstones⟩ := h
  exact ⟨url, c6, c7, hurl, EventLog.sublist_snoc hstones _⟩

end Logs

namespace SinkApp

/-- A sink plays, and tells of it, behind a whole handshake. -/
structure PlaysInOrder (a : SinkApp) : Prop where
  log : EventLog.Guarded (fun before e => e.Plays → HandshakeDone before) a.log
  state : a.wfdState = .playing → HandshakeDone a.log

/-- The trigger of a SETUP, if it gets through, comes behind M1, M3 and the M4 of the
URL, and no M4 changes the URL while an M6 waits. -/
def KeepsHandshake (a : SinkApp) : SinkAction → Prop
  | .request request message =>
    (trigger? request = some "SETUP".toList → a.SendsNext → (a.network.tail.headD {}).ok = true →
      a.rtspUrl ≠ [] ∧ [.m1Answered, .m3Answered, .m4Accepted a.rtspUrl].Sublist a.log) ∧
    (IsM4 request → ∀ p ∈ a.unanswered, a.responseHandlers p.1 = some .m6 → m4Url message = a.rtspUrl)
  | _ => True

instance (a : SinkApp) : DecidablePred a.KeepsHandshake
  | .request .. | .response .. | .idr | .teardown | .setStatus .. | .setPort .. | .setConnected .. | .setClient ..
  | .armTimer | .expire | .expireKeepAlive | .notify .. => by unfold KeepsHandshake; infer_instance

/-- What the handlers wait for, but for the one whose response is being handled. -/
structure Handshaking (x : Option Int) (a : SinkApp) : Prop extends PlaysInOrder a where
  m6 : ∀ c, some c ≠ x → a.responseHandlers c = some .m6 →
    (c, .m6) ∈ a.unanswered ∧ SetupSent a.log a.rtspUrl c
  m7 : ∀ c, some c ≠ x → a.responseHandlers c = some .m7 → PlaySent a.log c

variable {a b : SinkApp} {x : Option Int}

theorem PlaysInOrder.append (h : PlaysInOrder a) {new : List SinkEvent} (hlog : b.log = a.log ++ new)
    (hnew : ∀ e ∈ new, ¬ e.Plays) (hstate : b.wfdState = .playing → a.wfdState = .playing) :
    PlaysInOrder b where
  log := by
    rw [hlog]
    exact h.log.append fun e he _ hplays => absurd hplays (hnew e he)
  state := by
    intro hplaying
    rw [hlog]
    exact (h.state (hstate hplaying)).append new

/-- Events that have nothing to do with playback, and handlers that go. -/
theorem Handshaking.append (h : Handshaking x a) {new : List SinkEvent} (hlog : b.log = a.log ++ new)
    (hnew : ∀ e ∈ new, ¬ e.Plays) (hstate : b.wfdState = .playing → a.wfdState = .playing)
    (hurl : b.rtspUrl = a.rtspUrl) (hunanswered : ∀ p ∈ a.unanswered, p ∈ b.unanswered)
    (hhandlers : ∀ c request, request = .m6 ∨ request = .m7 → b.responseHandlers c = some request →
      a.responseHandlers c = some request) : Handshaking x b where
  toPlaysInOrder := h.toPlaysInOrder.append hlog hnew hstate
  m6 := by
    intro c hc hm6
    obtain ⟨hmem, hsent⟩ := h.m6 c hc (hhandlers c .m6 (.inl rfl) hm6)
    rw [hlog, hurl]
    exact ⟨hunanswered _ hmem, hsent.append new⟩
  m7 := by
    intro c hc hm7
    rw [hlog]
    exact (h.m7 c hc (hhandlers c .m7 (.inr rfl) hm7)).append new

theorem SinkEvent.Quiet.not_plays {e : SinkEvent} (h : e.Quiet) : ¬ e.Plays := by
  intro hplays
  rcases hplays with rfl | rfl
  · exact h
  · exact h rfl

theorem Handshaking.quietly (h : Handshaking x a) (hq : Quietly a b) : Handshaking x b := by
  obtain ⟨new, hlog, hnew⟩ := hq.log
  refine h.append hlog (fun e he => SinkEvent.Quiet.not_plays (hnew e he)) (fun hs => hq.state ▸ hs)
    hq.url ?_ ?_
  · rw [hq.unanswered]
    exact fun p hp => hp
  · rw [hq.handlers]
    exact fun c request _ hc => hc

theorem Handshaking.same (h : Handshaking x a) (hlog : b.log = a.log) (hstate : b.wfdState = a.wfdState)
    (hurl : b.rtspUrl = a.rtspUrl) (hunanswered : b.unanswered = a.unanswered)
    (hhandlers : b.responseHandlers = a.responseHandlers) : Handshaking x b := by
  refine h.append (by rw [hlog, List.append_nil]) (by simp) (fun hs => hstate ▸ hs) hurl ?_ ?_
  · rw [hunanswered]
    exact fun p hp => hp
  · rw [hhandlers]
    exact fun c request _ hc => hc

theorem Handshaking.note (h : Handshaking x a) {e : SinkEvent} (he : ¬ e.Plays) :
    Handshaking x (a.note e) := by
  refine h.append rfl ?_ id rfl (fun p hp => hp) (fun c request _ hc => hc)
  intro e' he'
  rwa [List.mem_singleton.mp he']

/-- A state other than that of playback. -/
theorem Handshaking.enter (h : Handshaking x a) {state : WfdSinkState} (hne : state ≠ .playing) :
    Handshaking x (a.enter state) := by
  refine h.append rfl ?_ (fun hs => absurd hs hne) rfl (fun p hp => hp) (fun c request _ hc => hc)
  intro e he hplays
  rw [List.mem_singleton.mp he] at hplays
  rcases hplays with hplays | hplays
  · exact hne (SinkEvent.entered.inj hplays)
  · cases hplays

theorem handlers_of_register {request request' : SinkRequest} {c : Int}
    (h : (a.register request).responseHandlers c = some request') :
    c = nextCSeq a.cseq ∧ request' = request ∨ a.responseHandlers c = some request' := by
  change Function.update a.responseHandlers (nextCSeq a.cseq) (some request) c = some request' at h
  exact (PartialMap.eq_some_of_insert h).imp_right And.right

theorem handlers_of_unregister {request request' : SinkRequest} {c : Int}
    (h : (a.register request).unregister.responseHandlers c = some request') :
    a.responseHandlers c = some request' := by
  change Function.update (Function.update a.responseHandlers (nextCSeq a.cseq) (some request))
    (nextCSeq a.cseq) none c = some request' at h
  obtain ⟨hc, h⟩ := PartialMap.eq_some_of_erase h
  rwa [Function.update_of_ne hc] at h

theorem Handshaking.unregistered (h : Handshaking x a) (request : SinkRequest) :
    Handshaking x (a.register request).unregister :=
  h.append (List.append_nil _).symm (by simp) id rfl (fun p hp => hp)
    fun _ _ _ hc => handlers_of_unregister hc

theorem sent_not_plays {request : SinkRequest} {cseq : Int} {url : Text} :
    ¬ (SinkEvent.sent request cseq url).Plays := by simp [SinkEvent.Plays]

/-- A request that is no part of the handshake behind M5. -/
theorem Handshaking.registered (h : Handshaking x a) {request : SinkRequest} (hm6 : request ≠ .m6)
    (hm7 : request ≠ .m7) : Handshaking x (a.register request) := by
  refine h.append (List.append_nil _).symm (by simp) id rfl (fun p hp => hp) ?_
  intro c request' hrequest' hc
  rcases handlers_of_register hc with ⟨-, hsame⟩ | hold
  · rcases hrequest' with rfl | rfl
    · exact absurd hsame.symm hm6
    · exact absurd hsame.symm hm7
  · exact hold

theorem Handshaking.launched (h : Handshaking x a) {request : SinkRequest} (hm6 : request ≠ .m6)
    (hm7 : request ≠ .m7) (url : Text) : Handshaking x ((a.register request).launched request url) := by
  refine (h.registered hm6 hm7).append rfl ?_ id rfl (fun p hp => List.mem_append_left _ hp)
    fun c request' _ hc => hc
  intro e he
  rw [List.mem_singleton.mp he]
  exact sent_not_plays

theorem Handshaking.launched_m6 (h : Handshaking x a) (hurl : a.rtspUrl ≠ [])
    (hstones : [.m1Answered, .m3Answered, .m4Accepted a.rtspUrl, .m5Received].Sublist a.log) :
    Handshaking x ((a.register .m6).launched .m6 a.rtspUrl) where
  toPlaysInOrder := by
    refine h.toPlaysInOrder.append rfl ?_ id
    intro e he
    rw [List.mem_singleton.mp he]
    exact sent_not_plays
  m6 := by
    intro c hx hc
    rcases handlers_of_register hc with ⟨hnext, -⟩ | hold
    · rw [hnext]
      exact ⟨List.mem_append_right _ (List.mem_singleton_self _), hurl,
        EventLog.sublist_snoc hstones _⟩
    · obtain ⟨hmem, hsent⟩ := h.m6 c hx hold
      exact ⟨List.mem_append_left _ hmem, hsent.append _⟩
  m7 := by
    intro c hx hc
    rcases handlers_of_register hc with ⟨-, hsame⟩ | hold
    · cases hsame
    · exact (h.m7 c hx hold).append _

theorem Handshaking.launched_m7 (h : Handshaking x a) {c6 : Int} (hurl : a.rtspUrl ≠ [])
    (hstones : (setupStones a.rtspUrl c6 ++ [SinkEvent.answered .m6 c6 rtspStatusOk]).Sublist a.log) :
    Handshaking x ((a.register .m7).launched .m7 a.rtspUrl) where
  toPlaysInOrder := by
    refine h.toPlaysInOrder.append rfl ?_ id
    intro e he
    rw [List.mem_singleton.mp he]
    exact sent_not_plays
  m6 := by
    intro c hx hc
    rcases handlers_of_register hc with ⟨-, hsame⟩ | hold
    · cases hsame
    · obtain ⟨hmem, hsent⟩ := h.m6 c hx hold
      exact ⟨List.mem_append_left _ hmem, hsent.append _⟩
  m7 := by
    intro c hx hc
    rcases handlers_of_register hc with ⟨hnext, -⟩ | hold
    · rw [hnext]
      exact ⟨a.rtspUrl, c6, hurl, EventLog.sublist_snoc hstones _⟩
    · exact (h.m7 c hx hold).append _

theorem Handshaking.sendM2Request (h : Handshaking x a) : Handshaking x a.sendM2Request.2 :=
  sendRequest_keeps Handshaking.quietly h (h.launched (by simp) (by simp) ['*']) (h.unregistered .m2)

theorem Handshaking.sendM6Request (h : Handshaking x a)
    (hstones : a.SendsNext → a.rtspUrl ≠ [] ∧
      [.m1Answered, .m3Answered, .m4Accepted a.rtspUrl, .m5Received].Sublist a.log) :
    Handshaking x a.sendM6Request.2 := by
  refine sendM6Request_keeps Handshaking.quietly h ?_ (h.unregistered .m6)
  intro b hq hsends
  obtain ⟨hurl, hbefore⟩ := hstones hsends
  exact ((h.launched_m6 hurl hbefore).quietly hq).enter (by simp)

theorem Handshaking.sendM7Request (h : Handshaking x a) {c6 : Int} (hurl : a.rtspUrl ≠ [])
    (hstones : (setupStones a.rtspUrl c6 ++ [SinkEvent.answered .m6 c6 rtspStatusOk]).Sublist a.log) :
    Handshaking x a.sendM7Request.2 :=
  sendRequest_keeps Handshaking.quietly h (h.launched_m7 hurl hstones) (h.unregistered .m7)

theorem Handshaking.sendM8Request (h : Handshaking x a) : Handshaking x a.sendM8Request.2 := by
  refine sendM8Request_keeps Handshaking.quietly h ?_
  intro b hq
  rcases hq with hsent | hfailed
  · exact ((h.launched (by simp) (by simp) a.rtspUrl).quietly hsent).enter (by simp)
  · exact ((h.unregistered .m8).quietly hfailed).enter (by simp)

theorem Handshaking.handleOptionsRequest (h : Handshaking x a) (cseq : Int) :
    Handshaking x (a.handleOptionsRequest cseq) := by
  have hstart : Handshaking x { a.stopTimer with isFirstCast := true, isFirstCreateProsumer := true } :=
    h.same rfl rfl rfl rfl rfl
  have htaken : Handshaking x { a.stopTimer with
      isFirstCast := true, isFirstCreateProsumer := true, cseq } := h.same rfl rfl rfl rfl rfl
  have hanswered : Handshaking x ({ a.stopTimer with
      isFirstCast := true, isFirstCreateProsumer := true }.sendM1Response cseq).2 :=
    sendM1Response_keeps Handshaking.quietly hstart htaken (htaken.note (by simp [SinkEvent.Plays]))
  exact hanswered.sendM2Request

theorem Handshaking.handleTriggerMethod (h : Handshaking none a) {cseq : Int} {method : Text}
    (hgoes : method = "SETUP".toList → a.SendsNext → (a.network.tail.headD {}).ok = true →
      a.rtspUrl ≠ [] ∧ [.m1Answered, .m3Answered, .m4Accepted a.rtspUrl].Sublist a.log) :
    Handshaking none (a.handleTriggerMethod cseq method) := by
  have hnoted : Handshaking none (a.note .m5Received) := h.note (by simp [SinkEvent.Plays])
  refine handleTriggerMethod_keeps Handshaking.quietly h hnoted ?_ ?_
  · intro b hsetup hsends hq hnetwork
    refine (hnoted.quietly hq).sendM6Request fun hnext => ?_
    obtain ⟨hurl, hstones⟩ := hgoes hsetup hsends (hnetwork ▸ hnext.2)
    obtain ⟨new, hlog, -⟩ := hq.log
    have hsame : b.rtspUrl = a.rtspUrl := hq.url
    rw [hsame, hlog]
    exact ⟨hurl, (EventLog.sublist_snoc hstones _).trans (List.sublist_append_left _ new)⟩
  · intro b hq
    exact (h.quietly hq).sendM8Request

theorem Handshaking.newUrl (h : Handshaking none a) {url : Text}
    (hsame : ∀ p ∈ a.unanswered, a.responseHandlers p.1 = some .m6 → url = a.rtspUrl) :
    Handshaking none { a with rtspUrl := url } where
  toPlaysInOrder := ⟨h.log, h.state⟩
  m6 := by
    intro c hx hc
    obtain ⟨hmem, hsent⟩ := h.m6 c hx hc
    refine ⟨hmem, ?_⟩
    change SetupSent a.log url c
    rwa [hsame _ hmem hc]
  m7 := h.m7

theorem Handshaking.handleRequest (h : Handshaking none a) {request : RtspRequest} {message : Text}
    (hok : a.KeepsHandshake (.request request message)) :
    Handshaking none (a.handleRequest request message) := by
  refine handleRequest_keeps Handshaking.quietly h (fun _ => h.handleOptionsRequest request.cSeq)
    (h.note (by simp [SinkEvent.Plays])) ?_ (fun hm4 => h.newUrl (hok.2 hm4))
    (fun hm4 => (h.newUrl (hok.2 hm4)).note (by simp [SinkEvent.Plays]))
  intro method htrigger
  exact h.handleTriggerMethod fun hsetup => hok.1 (htrigger.trans (congrArg some hsetup))

theorem Handshaking.answered (h : Handshaking none a) (request : SinkRequest) (cseq status : Int) :
    Handshaking (some cseq) (a.answered request cseq status) where
  toPlaysInOrder := by
    refine h.toPlaysInOrder.append rfl ?_ id
    intro e he hplays
    rw [List.mem_singleton.mp he] at hplays
    simp [SinkEvent.Plays] at hplays
  m6 := by
    intro c hx hc
    obtain ⟨hmem, hsent⟩ := h.m6 c (by simp) hc
    refine ⟨List.mem_filter.mpr ⟨hmem, ?_⟩, hsent.append _⟩
    have hne : c ≠ cseq := fun he => hx (congrArg some he)
    simpa using hne
  m7 := fun c _ hc => (h.m7 c (by simp) hc).append _

theorem Handshaking.erased {cseq : Int} (h : Handshaking (some cseq) a) :
    Handshaking none (a.erased cseq) := by
  have hold : ∀ c request, (a.erased cseq).responseHandlers c = some request →
      some c ≠ some cseq ∧ a.responseHandlers c = some request := by
    intro c request hc
    change Function.update a.responseHandlers cseq none c = some request at hc
    obtain ⟨hne, hc⟩ := PartialMap.eq_some_of_erase hc
    exact ⟨fun he => hne (Option.some.inj he), hc⟩
  refine ⟨⟨h.log, h.state⟩, ?_, ?_⟩
  · intro c _ hc
    exact h.m6 c (hold c _ hc).1 (hold c _ hc).2
  · intro c _ hc
    exact h.m7 c (hold c _ hc).1 (hold c _ hc).2

/-- Playback behind the answer to M7. -/
theorem Handshaking.plays (h : Handshaking x a) (hdone : HandshakeDone a.log) :
    Handshaking x ((a.notifyAgentPrivateEvent .rtspPlayed).enter .playing) where
  log := EventLog.guarded_snoc.mpr ⟨EventLog.guarded_snoc.mpr ⟨h.log, fun _ => hdone⟩,
    fun _ => hdone.append _⟩
  state := fun _ => (hdone.append _).append _
  m6 := by
    intro c hx hc
    obtain ⟨hmem, hsent⟩ := h.m6 c hx hc
    exact ⟨hmem, (hsent.append _).append _⟩
  m7 := fun c hx hc => ((h.m7 c hx hc).append _).append _

theorem Handshaking.handleResponse (h : Handshaking none a) (response : RtspResponse) :
    Handshaking none (a.handleResponse response) := by
  refine handleResponse_keeps Handshaking.quietly h
    (fun request _ => h.answered request response.cSeq response.status) ?_ ?_ (fun _ hb => hb.erased)
  · intro hhandler hstatus b hq
    obtain ⟨-, hurl, hstones⟩ := h.m6 response.cSeq (by simp) hhandler
    obtain ⟨new, hlog, -⟩ := hq.log
    have hsame : b.rtspUrl = a.rtspUrl := hq.url
    have hstones' : (setupStones b.rtspUrl response.cSeq ++
        [SinkEvent.answered .m6 response.cSeq rtspStatusOk]).Sublist b.log := by
      rw [hsame, hlog, ← hstatus]
      exact (EventLog.sublist_snoc hstones _).trans (List.sublist_append_left _ new)
    exact ((h.answered .m6 response.cSeq response.status).quietly hq).sendM7Request (hsame ▸ hurl) hstones'
  · intro hhandler hstatus
    refine (h.answered .m7 response.cSeq response.status).plays ?_
    rw [hstatus]
    exact (h.m7 response.cSeq (by simp) hhandler).done

theorem Handshaking.act (h : Handshaking none a) {action : SinkAction}
    (hok : a.KeepsHandshake action) : Handshaking none (a.act action) := by
  cases action with
  | request request message => exact h.handleRequest hok
  | response response => exact h.handleResponse response
  | idr =>
    exact sendIDRRequest_keeps Handshaking.quietly h (h.launched (by simp) (by simp) a.rtspUrl)
      (h.registered (by simp) (by simp))
  | teardown => exact h.sendM8Request
  | setClient rtspClient => exact h.same rfl rfl rfl rfl rfl
  | _ => exact h.quietly (quietly_act a trivial)

theorem handshaking_new (network : List Sending) : Handshaking none { network } where
  log := EventLog.guarded_nil
  state := fun hplaying => by cases hplaying
  m6 := fun c _ hc => by cases hc
  m7 := fun c _ hc => by cases hc

end SinkApp

/-- A sink plays only behind M1 to M7, all for one URL, in the runs in which the source
keeps to their order. -/
theorem SinkRun.playsInOrder {network : List Sending} {inputs : List SinkInput} {s : SinkSession}
    (run : SinkRun SinkApp.KeepsHandshake (.new network) inputs s) : s.app.PlaysInOrder :=
  (run.invariant (I := SinkApp.Handshaking none) (fun _ _ h hok => h.act hok)
    (SinkApp.handshaking_new network)).toPlaysInOrder

/-- The source begins with the trigger of the SETUP. -/
theorem setupFirst_not_playsInOrder :
    ¬ ∀ network inputs s, SinkRun (fun _ _ => True) (.new network) inputs s → s.app.PlaysInOrder := by
  intro h
  obtain ⟨s, hrun, hplaying, hlog⟩ := SinkRun.exists_of_check (fun _ _ => True) (.new [])
    [.operation .start .created, .read setupTrigger, .read (plainAnswer "1"), .read (plainAnswer "2")]
    (fun s => s.app.wfdState = .playing ∧ .m1Answered ∉ s.app.log) (by
      -- the texts as the lists of their characters
      unfold setupTrigger plainAnswer
      repeat rw [String.toList_append]
      repeat rw [String.toList_ofList]
      decide +kernel)
  obtain ⟨url, c6, c7, -, hstones⟩ := (h [] _ s hrun).state hplaying
  exact hlog (hstones.subset (by simp [playStones, setupStones]))

theorem SinkRun.handshake_playsInOrder :
    ∃ s, SinkRun SinkApp.KeepsHandshake (.new []) sinkHandshake s ∧ s.app.wfdState = .playing ∧
      s.app.PlaysInOrder := by
  obtain ⟨s, hrun, hplaying⟩ := SinkRun.exists_of_check SinkApp.KeepsHandshake (.new [])
    sinkHandshake (fun s => s.app.wfdState = .playing) (by
      unfold sinkHandshake sourceOptions optionsAnswer sourceGetParameter sourceSetParameter
        setupTrigger plainAnswer
      repeat rw [String.toList_append]
      repeat rw [String.toList_ofList]
      decide +kernel)
  exact ⟨s, hrun, hplaying, SinkRun.playsInOrder hrun⟩

end WifiDisplay
