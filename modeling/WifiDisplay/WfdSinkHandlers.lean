import WifiDisplay.WfdSinkCSeqs

/-! The handlers that the sink keeps for the answers to come, against the requests that it has
sent. -/

namespace WifiDisplay

namespace SinkApp

/-- Every request that waits has an entry of its own, and there is no other entry. -/
structure HandlersMatch (a : SinkApp) : Prop extends AnswersApart a where
  waits : ∀ cseq request, a.responseHandlers cseq = some request → (cseq, request) ∈ a.unanswered

/-- The entries with those of the requests that went out. -/
def enterSent (handlers : Int → Option SinkRequest) (log : List SinkEvent) : Int → Option SinkRequest :=
  log.foldl (fun handlers e => match e with
    | .sent request cseq _ => Function.update handlers cseq (some request)
    | _ => handlers) handlers

/-- The entries without that of a response. -/
def removeAnswered (a : SinkApp) : SinkAction → Int → Option SinkRequest
  | .response response => Function.update a.responseHandlers response.cSeq none
  | _ => a.responseHandlers

/-- An action takes the entry of the response away, adds those of the requests that it sends, and
touches no other; so a send that fails leaves nothing. -/
def Bookkept (a : SinkApp) (action : SinkAction) : Prop :=
  (a.act action).HandlersMatch ∧ ∃ new, (a.act action).log = a.log ++ new ∧
    (a.act action).responseHandlers = enterSent (a.removeAnswered action) new

/-- The next CSeq has no entry yet. -/
def Fresh (a : SinkApp) : Prop := a.responseHandlers (nextCSeq a.cseq) = none

/-- An M8 goes to the network. -/
def SendsM8 (a : SinkApp) : Prop := a.wfdState ≠ .stopping ∧ a.rtspClient = true ∧ a.connected = true

/-- Every request gets a CSeq that has no entry, and requests for key frames get through. -/
def KeepsHandlers (a : SinkApp) : SinkAction → Prop
  | .request request _ =>
    if request.method = "OPTIONS".toList then
      a.rtspClient = true → a.responseHandlers (nextCSeq request.cSeq) = none
    else if trigger? request = some "SETUP".toList then a.SendsNext → a.Fresh
    else if trigger? request = some "TEARDOWN".toList then a.SendsNext → a.SendsM8 → a.Fresh
    else True
  | .response response =>
    a.responseHandlers response.cSeq = some .m6 → response.status = rtspStatusOk → a.rtspClient = true → a.Fresh
  | .idr => a.wfdState = .playing → a.rtspClient = true → a.Fresh ∧ a.SendsNext
  | .teardown => a.SendsM8 → a.Fresh
  | _ => True

instance (a : SinkApp) : Decidable a.Fresh := inferInstanceAs (Decidable (_ = _))

instance (a : SinkApp) : Decidable a.SendsM8 := inferInstanceAs (Decidable (_ ∧ _ ∧ _))

instance (a : SinkApp) : DecidablePred a.KeepsHandlers
  | .request .. | .response .. | .idr | .teardown | .setStatus .. | .setPort .. | .setConnected .. | .setClient ..
  | .armTimer | .expire | .expireKeepAlive | .notify .. => by unfold KeepsHandlers; infer_instance

/-- The books since the entries were `handlers` and the log was `log`. -/
def Books (handlers : Int → Option SinkRequest) (log : List SinkEvent) (b : SinkApp) : Prop :=
  b.HandlersMatch ∧ ∃ new, b.log = log ++ new ∧ b.responseHandlers = enterSent handlers new

variable {handlers : Int → Option SinkRequest} {log : List SinkEvent} {a b : SinkApp}

theorem HandlersMatch.of_eq (h : HandlersMatch a) (hhandlers : b.responseHandlers = a.responseHandlers)
    (hunanswered : b.unanswered = a.unanswered) : HandlersMatch b where
  nodup := hunanswered ▸ h.nodup
  handled := by
    rw [hunanswered, hhandlers]
    exact h.handled
  waits := by
    rw [hunanswered, hhandlers]
    exact h.waits

theorem enterSent_quiet {new : List SinkEvent} (h : ∀ e ∈ new, e.Quiet) : enterSent handlers new = handlers := by
  induction new with
  | nil => rfl
  | cons e new ih =>
    obtain ⟨he, hnew⟩ := List.forall_mem_cons.mp h
    rw [enterSent, List.foldl_cons]
    cases e with
    | notified notice => exact ih hnew
    | privateEvent type => exact ih hnew
    | _ => exact he.elim

theorem enterSent_append (new new' : List SinkEvent) :
    enterSent handlers (new ++ new') = enterSent (enterSent handlers new) new' := List.foldl_append

/-- The books go on over events that send nothing. -/
theorem Books.of_log (h : Books handlers log a) (hhandlers : b.responseHandlers = a.responseHandlers)
    (hunanswered : b.unanswered = a.unanswered) {new : List SinkEvent} (hlog : b.log = a.log ++ new)
    (hnew : ∀ handlers, enterSent handlers new = handlers) : Books handlers log b := by
  obtain ⟨hmatch, before, hbefore, hentries⟩ := h
  refine ⟨hmatch.of_eq hhandlers hunanswered, before ++ new, ?_, ?_⟩
  · rw [hlog, hbefore, List.append_assoc]
  · rw [enterSent_append, hnew, hhandlers, hentries]

theorem Books.same (h : Books handlers log a) (hhandlers : b.responseHandlers = a.responseHandlers)
    (hunanswered : b.unanswered = a.unanswered) (hlog : b.log = a.log) : Books handlers log b :=
  h.of_log hhandlers hunanswered (hlog.trans (List.append_nil _).symm) fun _ => rfl

theorem Books.quietly (h : Books handlers log a) (hq : Quietly a b) : Books handlers log b := by
  obtain ⟨new, hlog, hnew⟩ := hq.log
  exact h.of_log hq.handlers hq.unanswered hlog fun _ => enterSent_quiet hnew

theorem HandlersMatch.next_ne (h : HandlersMatch a) (hfresh : a.Fresh) {p : Int × SinkRequest}
    (hp : p ∈ a.unanswered) : p.1 ≠ nextCSeq a.cseq := by
  intro heq
  have hhandled := h.handled p hp
  rw [heq, hfresh] at hhandled
  cases hhandled

/-- A request that goes out gets its entry. -/
theorem Books.launched (h : Books handlers log a) (hfresh : a.Fresh) (request : SinkRequest) (url : Text) :
    Books handlers log ((a.register request).launched request url) := by
  obtain ⟨hmatch, new, hlog, hentries⟩ := h
  refine ⟨⟨⟨?_, ?_⟩, ?_⟩, new ++ [.sent request (nextCSeq a.cseq) url], ?_, ?_⟩
  · change ((a.unanswered ++ [(nextCSeq a.cseq, request)]).map Prod.fst).Nodup
    rw [List.map_append, List.nodup_append]
    refine ⟨hmatch.nodup, List.nodup_singleton _, ?_⟩
    intro c hc c' hc'
    obtain ⟨p, hp, rfl⟩ := List.mem_map.mp hc
    rw [List.mem_singleton.mp hc']
    exact hmatch.next_ne hfresh hp
  · intro p hp
    rcases List.mem_append.mp hp with hp | hp
    · exact (Function.update_of_ne (hmatch.next_ne hfresh hp) _ _).trans (hmatch.handled p hp)
    · rw [List.mem_singleton.mp hp]
      exact Function.update_self _ _ _
  · intro c r hc
    change Function.update a.responseHandlers (nextCSeq a.cseq) (some request) c = some r at hc
    rcases PartialMap.eq_some_of_insert hc with ⟨rfl, rfl⟩ | ⟨-, hc⟩
    · exact List.mem_append_right _ (List.mem_singleton_self _)
    · exact List.mem_append_left _ (hmatch.waits c r hc)
  · change a.log ++ _ = _
    rw [hlog, List.append_assoc]
    rfl
  · rw [enterSent_append, ← hentries]
    rfl

/-- A request that did not go out leaves the entries as they were. -/
theorem Books.unregistered (h : Books handlers log a) (hfresh : a.Fresh) (request : SinkRequest) :
    Books handlers log (a.register request).unregister := by
  refine h.same ?_ rfl rfl
  rw [unregister_handlers, Function.update_eq_self_iff]
  exact hfresh.symm

theorem Books.sendRequest (h : Books handlers log a) (hfresh : a.rtspClient = true → a.Fresh)
    (request : SinkRequest) (url : Text) (text : Int → Text) :
    Books handlers log (a.sendRequest request url text).2 := by
  rcases a.sendRequest_cases request url text with ⟨-, hsame⟩ | ⟨hclient, -, hsent⟩ | ⟨hclient, -, hfailed⟩
  · rw [hsame]
    exact h
  · exact (h.launched (hfresh hclient) request url).quietly hsent
  · exact (h.unregistered (hfresh hclient) request).quietly hfailed

theorem Books.enter (h : Books handlers log a) (state : WfdSinkState) : Books handlers log (a.enter state) :=
  h.of_log rfl rfl rfl fun _ => rfl

theorem Books.sendM6Request (h : Books handlers log a) (hfresh : a.rtspClient = true → a.Fresh) :
    Books handlers log a.sendM6Request.2 := by
  rw [SinkApp.sendM6Request]
  have hsent := h.sendRequest hfresh .m6 a.rtspUrl fun cseq =>
    (wfdRtspM6Request cseq a.rtspUrl a.localRtpPort).stringify
  simp only
  split
  · exact hsent.enter .ready
  · exact hsent

theorem Books.sendM8Request (h : Books handlers log a) (hfresh : a.SendsM8 → a.Fresh) :
    Books handlers log a.sendM8Request.2 := by
  rcases a.sendM8Request_cases with ⟨hq, -⟩ | ⟨hstate, hclient, b, hstopping, hq⟩
  · exact h.quietly hq
  · by_cases hconnected : a.connected = true
    · have hnext := hfresh ⟨hstate, hclient, hconnected⟩
      rw [hstopping]
      rcases hq with hsent | hfailed
      · exact ((h.launched hnext .m8 a.rtspUrl).quietly hsent).enter .stopping
      · exact ((h.unregistered hnext .m8).quietly hfailed).enter .stopping
    · rw [SinkApp.sendM8Request, if_neg hstate, if_pos (.inr hconnected)]
      exact h

theorem Books.sendIDRRequest (h : Books handlers log a)
    (hok : a.wfdState = .playing → a.rtspClient = true → a.Fresh ∧ a.SendsNext) :
    Books handlers log a.sendIDRRequest.2 := by
  rw [SinkApp.sendIDRRequest]
  split
  · exact h
  · rename_i hplaying
    split
    · exact h
    · rename_i hclient
      rw [not_not] at hplaying hclient
      obtain ⟨hfresh, -, hsends⟩ := hok hplaying hclient
      have hlaunched := h.launched hfresh .idr a.rtspUrl
      rcases ((a.register .idr).startTimer 6).sendRegistered_cases .idr
        ((a.register .idr).startTimer 6).rtspUrl
        (wfdRtspIDRRequest ((a.register .idr).startTimer 6).cseq
          ((a.register .idr).startTimer 6).rtspUrl
          ((a.register .idr).startTimer 6).rtspSession).stringify with ⟨-, hsent⟩ | ⟨hfailed, -⟩
      · have hsame : Quietly ((a.register .idr).launched .idr a.rtspUrl)
            (((a.register .idr).startTimer 6).launched .idr a.rtspUrl) :=
          .of_eq rfl rfl rfl rfl rfl rfl rfl
        exact hlaunched.quietly (hsame.trans hsent)
      · exact absurd (hfailed.symm.trans hsends) Bool.false_ne_true

/-- The M2 that follows the OPTIONS of the source has the CSeq behind theirs. -/
theorem Books.handleOptionsRequest (h : Books handlers log a) {cseq : Int}
    (hfresh : a.rtspClient = true → a.responseHandlers (nextCSeq cseq) = none) :
    Books handlers log (a.handleOptionsRequest cseq) := by
  rw [SinkApp.handleOptionsRequest]
  simp only
  generalize hb : ({ a.stopTimer with isFirstCast := true, isFirstCreateProsumer := true } : SinkApp) = b
  have hbfresh : b.rtspClient = true → b.responseHandlers (nextCSeq cseq) = none := by
    rw [← hb]
    exact hfresh
  have hbooks : Books handlers log b := by
    rw [← hb]
    exact h.same rfl rfl rfl
  rcases b.sendM1Response_cases cseq with ⟨hclient, hsame⟩ | ⟨hclient, hanswered⟩
  · rw [hsame]
    exact hbooks.sendRequest (fun hopen => by cases hclient.symm.trans hopen) _ _ _
  · have hm1 : Books handlers log (b.sendM1Response cseq).2 ∧ (b.sendM1Response cseq).2.cseq = cseq ∧
        (b.sendM1Response cseq).2.responseHandlers = b.responseHandlers := by
      have htaken : Books handlers log { b with cseq } := hbooks.same rfl rfl rfl
      rcases hanswered with hq | hq
      · exact ⟨htaken.quietly hq, hq.cseq, hq.handlers⟩
      · have hnoted : Books handlers log ({ b with cseq }.note .m1Answered) :=
          htaken.of_log rfl rfl rfl fun _ => rfl
        exact ⟨hnoted.quietly hq, hq.cseq, hq.handlers⟩
    refine hm1.1.sendRequest (fun _ => ?_) _ _ _
    rw [Fresh, hm1.2.1, hm1.2.2]
    exact hbfresh hclient

theorem sendCommonResponse_connected (a : SinkApp) (cseq : Int) :
    (a.sendCommonResponse cseq).2.connected = a.connected := by
  rw [sendCommonResponse]
  split <;> rfl

theorem Fresh.quietly (h : a.Fresh) (hq : Quietly a b) : b.Fresh := by
  rw [Fresh, hq.handlers, hq.cseq]
  exact h

theorem Books.handleTriggerMethod (h : Books handlers log a) (cseq : Int) {method : Text}
    (hsetup : method = "SETUP".toList → a.SendsNext → a.Fresh)
    (hteardown : method = "TEARDOWN".toList → a.SendsNext → a.SendsM8 → a.Fresh) :
    Books handlers log (a.handleTriggerMethod cseq method) := by
  have hnoted : Books handlers log (a.note .m5Received) := h.of_log rfl rfl rfl fun _ => rfl
  by_cases hmethod : method = "SETUP".toList
  · rw [hmethod]
    rcases a.handleTriggerMethod_setup cseq with hq | ⟨hsends, b, hq, -, hsent⟩
    · exact hnoted.quietly hq
    · rw [hsent]
      have hfresh : (a.note .m5Received).Fresh := hsetup hmethod hsends
      exact (hnoted.quietly hq).sendM6Request fun _ => hfresh.quietly hq
  · by_cases hends : method = "TEARDOWN".toList
    · rw [SinkApp.handleTriggerMethod, if_neg hmethod, if_pos hends]
      have hq := quietly_sendCommonResponse a cseq
      simp only
      split
      · rename_i hok
        refine (h.quietly hq).sendM8Request fun hsendsM8 => ?_
        obtain ⟨hstate, hclient, hconnected⟩ := hsendsM8
        rw [hq.state] at hstate
        rw [hq.client] at hclient
        rw [sendCommonResponse_connected] at hconnected
        have hsends := (a.sendCommonResponse_fst cseq).mp hok
        exact (hteardown hends hsends ⟨hstate, hclient, hconnected⟩).quietly hq
      · exact (h.quietly hq).quietly (quietly_error _ _)
    · rw [a.handleTriggerMethod_other cseq hmethod hends]
      exact h

theorem Books.handleRequest (h : Books handlers log a) {request : RtspRequest} {message : Text}
    (hok : a.KeepsHandlers (.request request message)) :
    Books handlers log (a.handleRequest request message) := by
  refine handleRequest_keeps Books.quietly h ?_ ?_ ?_ ?_ ?_
  · intro hmethod
    rw [KeepsHandlers, if_pos hmethod] at hok
    exact h.handleOptionsRequest hok
  · exact h.of_log rfl rfl rfl fun _ => rfl
  · intro method htrigger
    rw [KeepsHandlers, if_neg (by rw [method_of_trigger? htrigger]; decide), htrigger] at hok
    refine h.handleTriggerMethod request.cSeq ?_ ?_
    · rintro rfl
      rwa [if_pos rfl] at hok
    · rintro rfl
      rwa [if_neg (by decide), if_pos rfl] at hok
  · exact fun _ => h.same rfl rfl rfl
  · exact fun _ => h.of_log rfl rfl rfl fun _ => rfl

/-- The request whose answer is read waits no longer, and its entry goes. -/
theorem Books.answered (h : HandlersMatch a) (request : SinkRequest) (cseq status : Int) :
    Books (Function.update a.responseHandlers cseq none) a.log ((a.answered request cseq status).erased cseq) := by
  refine ⟨⟨⟨h.nodup.sublist (List.filter_sublist.map Prod.fst), ?_⟩, ?_⟩, [.answered request cseq status], rfl, rfl⟩
  · intro p hp
    obtain ⟨hp, hne⟩ := List.mem_filter.mp hp
    exact (Function.update_of_ne (by simpa using hne) _ _).trans (h.handled p hp)
  · intro c r hc
    change Function.update a.responseHandlers cseq none c = some r at hc
    obtain ⟨hcseq, hc⟩ := PartialMap.eq_some_of_erase hc
    exact List.mem_filter.mpr ⟨h.waits c r hc, by simpa using hcseq⟩

theorem Books.erased_quietly {cseq : Int} (h : Books handlers log (a.erased cseq)) (hq : Quietly a b) :
    Books handlers log (b.erased cseq) := by
  have herased : Quietly (a.erased cseq) (b.erased cseq) := by
    refine ⟨hq.cseq, ?_, hq.unanswered, hq.state, hq.url, hq.client, hq.log⟩
    rw [erased, hq.handlers]
    rfl
  exact h.quietly herased

/-- The PLAY that follows a SETUP gets an entry before that of the SETUP goes. -/
theorem Books.sendM7Request {cseq : Int} (h : Books handlers log (a.erased cseq))
    (hwaits : a.responseHandlers cseq ≠ none) (hfresh : a.rtspClient = true → a.Fresh) :
    Books handlers log (a.sendM7Request.2.erased cseq) := by
  rw [SinkApp.sendM7Request]
  rcases a.sendRequest_cases .m7 a.rtspUrl fun cseq =>
    (wfdRtspM7Request cseq a.rtspUrl a.rtspSession).stringify with
    ⟨-, hsame⟩ | ⟨hclient, -, hsent⟩ | ⟨hclient, -, hfailed⟩
  · rw [hsame]
    exact h
  · have hne : nextCSeq a.cseq ≠ cseq := fun heq => hwaits (heq ▸ hfresh hclient)
    have hnext : (a.erased cseq).Fresh := (Function.update_of_ne hne _ _).trans (hfresh hclient)
    have hlaunched := h.launched hnext .m7 a.rtspUrl
    have herased : Books handlers log (((a.register .m7).launched .m7 a.rtspUrl).erased cseq) :=
      hlaunched.same (Function.update_comm hne _ _ _) rfl rfl
    exact herased.erased_quietly hsent
  · have hunregistered : (a.register .m7).unregister.responseHandlers = a.responseHandlers := by
      rw [unregister_handlers, Function.update_eq_self_iff]
      exact (hfresh hclient).symm
    have herased : Books handlers log ((a.register .m7).unregister.erased cseq) := by
      refine h.same ?_ rfl rfl
      rw [erased, hunregistered]
      rfl
    exact herased.erased_quietly hfailed

theorem Books.handleResponse (h : HandlersMatch a) {response : RtspResponse}
    (hok : a.KeepsHandlers (.response response)) :
    Books (Function.update a.responseHandlers response.cSeq none) a.log (a.handleResponse response) := by
  cases hhandler : a.responseHandlers response.cSeq with
  | none =>
    rw [handleResponse_none hhandler, Function.update_eq_self_iff.mpr hhandler.symm]
    exact ⟨h, [], (List.append_nil _).symm, rfl⟩
  | some request =>
    rw [handleResponse_some hhandler]
    refine handle_keeps (I := fun b => Books (Function.update a.responseHandlers response.cSeq none) a.log
      (b.erased response.cSeq)) Books.erased_quietly (Books.answered h request response.cSeq response.status) ?_ ?_
    · rintro rfl hstatus b hq
      have hread := (Books.answered h .m6 response.cSeq response.status).erased_quietly hq
      have hentry : b.responseHandlers response.cSeq = some .m6 := by
        rw [hq.handlers]
        exact hhandler
      refine hread.sendM7Request (by simp [hentry]) fun hclient => ?_
      rw [hq.client] at hclient
      have hfresh : (a.answered .m6 response.cSeq response.status).Fresh := hok hhandler hstatus hclient
      exact hfresh.quietly hq
    · intro _ _
      have hread := Books.answered h .m7 response.cSeq response.status
      have hplayed : Books (Function.update a.responseHandlers response.cSeq none) a.log
          (((a.answered .m7 response.cSeq response.status).notifyAgentPrivateEvent .rtspPlayed).erased
            response.cSeq) := hread.of_log rfl rfl rfl fun _ => rfl
      exact hplayed.enter .playing

theorem HandlersMatch.act (h : HandlersMatch a) {action : SinkAction} (hok : a.KeepsHandlers action) :
    Bookkept a action := by
  have hbooks : Books a.responseHandlers a.log a := ⟨h, [], (List.append_nil _).symm, rfl⟩
  cases action with
  | request request message => exact hbooks.handleRequest hok
  | response response => exact Books.handleResponse h hok
  | idr => exact hbooks.sendIDRRequest hok
  | teardown => exact hbooks.sendM8Request hok
  | setClient rtspClient => exact hbooks.same rfl rfl rfl
  | _ => exact hbooks.quietly (quietly_act a trivial)

theorem handlersMatch_new (network : List Sending) : HandlersMatch { network } :=
  ⟨⟨List.nodup_nil, by simp⟩, by simp⟩

end SinkApp

/-- In the runs of a sink whose requests get CSeqs without an entry, and whose requests for key
frames get through, the entries are those of the requests that wait; and each action does its
bookkeeping. -/
theorem SinkRun.bookkept {network : List Sending} {inputs : List SinkInput} {s : SinkSession}
    (run : SinkRun SinkApp.KeepsHandlers (.new network) inputs s) :
    s.app.HandlersMatch ∧ ∀ input, AllMeet SinkApp.act SinkApp.KeepsHandlers s.app (s.actions input) →
      AllMeet SinkApp.act SinkApp.Bookkept s.app (s.actions input) := by
  have hmatch : SinkApp.HandlersMatch s.app := run.invariant (I := SinkApp.HandlersMatch) (fun _ _ h hok => (h.act hok).1)
    (SinkApp.handlersMatch_new network)
  refine ⟨hmatch, fun input hmeet => ?_⟩
  have hcongr : AllMeet SinkApp.act (fun _ _ => True) s.app (s.actions input) ↔
      AllMeet SinkApp.act SinkApp.Bookkept s.app (s.actions input) :=
    AllMeet.congr (I := SinkApp.HandlersMatch) (fun a action h hok =>
      ⟨iff_of_true trivial (SinkApp.HandlersMatch.act h hok), fun _ => (SinkApp.HandlersMatch.act h hok).1⟩) hmatch hmeet
  exact hcongr.mp (hmeet.imp fun _ _ _ => trivial)

/-- A request for a key frame that does not get through leaves its entry. -/
theorem lostKeyFrame_not_handlersMatch :
    ¬ ∀ network inputs s, SinkRun (fun _ _ => True) (.new network) inputs s → s.app.HandlersMatch := by
  intro h
  obtain ⟨s, hrun, hnone, hentry⟩ := SinkRun.exists_of_check (fun _ _ => True)
    (.new (List.replicate 7 ({} : Sending) ++ [{ ok := false }])) (sinkHandshake ++ [.requestIdr])
    (fun s => s.app.unanswered = [] ∧ s.app.responseHandlers 5 = some .idr) (by
      -- the texts as the lists of their characters
      unfold sinkHandshake sourceOptions optionsAnswer sourceGetParameter sourceSetParameter
        setupTrigger plainAnswer
      repeat rw [String.toList_append]
      repeat rw [String.toList_ofList]
      decide +kernel)
  have hwaits := (h _ _ s hrun).waits 5 .idr hentry
  rw [hnone] at hwaits
  exact absurd hwaits List.not_mem_nil

/-- A key frame is asked for behind the handshake; then it is answered. -/
theorem SinkRun.keyFrame_bookkept :
    ∃ s, SinkRun SinkApp.KeepsHandlers (.new []) (sinkHandshake ++ [.requestIdr]) s ∧
      s.app.unanswered = [(5, .idr)] ∧ s.app.HandlersMatch ∧
      AllMeet SinkApp.act SinkApp.Bookkept s.app (s.actions (.read (plainAnswer "5"))) := by
  obtain ⟨s, hrun, hwaiting, hmeet⟩ := SinkRun.exists_of_check SinkApp.KeepsHandlers (.new [])
    (sinkHandshake ++ [.requestIdr])
    (fun s => s.app.unanswered = [(5, .idr)] ∧
      AllMeet SinkApp.act SinkApp.KeepsHandlers s.app (s.actions (.read (plainAnswer "5")))) (by
      unfold sinkHandshake sourceOptions optionsAnswer sourceGetParameter sourceSetParameter
        setupTrigger plainAnswer
      repeat rw [String.toList_append]
      repeat rw [String.toList_ofList]
      decide +kernel)
  obtain ⟨hmatch, hnext⟩ := SinkRun.bookkept hrun
  exact ⟨s, hrun, hwaiting, hmatch, hnext _ hmeet⟩

end WifiDisplay
