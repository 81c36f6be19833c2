import WifiDisplay.WfdSinkSession

/-! What each sender and handler of the sink does to its CSeqs, its state and its log, up
to timers, sent texts and notices. -/

namespace WifiDisplay

/-- What the agent is told other than that playback has started. -/
def SinkEvent.Quiet : SinkEvent → Prop
  | .notified _ => True
  | .privateEvent type => type ≠ .rtspPlayed
  | _ => False

namespace SinkApp

/-- Nothing changes but timers, the network, flags and quiet notices. -/
structure Quietly (a a' : SinkApp) : Prop where
  cseq : a'.cseq = a.cseq
  handlers : a'.responseHandlers = a.responseHandlers
  unanswered : a'.unanswered = a.unanswered
  state : a'.wfdState = a.wfdState
  url : a'.rtspUrl = a.rtspUrl
  client : a'.rtspClient = a.rtspClient
  log : ∃ new, a'.log = a.log ++ new ∧ ∀ e ∈ new, e.Quiet

variable {a a' a'' : SinkApp}

theorem Quietly.refl (a : SinkApp) : Quietly a a :=
  ⟨rfl, rfl, rfl, rfl, rfl, rfl, [], (List.append_nil _).symm, by simp⟩

theorem Quietly.trans (h : Quietly a a') (h' : Quietly a' a'') : Quietly a a'' := by
  obtain ⟨new, hlog, hnew⟩ := h.log
  obtain ⟨new', hlog', hnew'⟩ := h'.log
  refine ⟨h'.cseq.trans h.cseq, h'.handlers.trans h.handlers, h'.unanswered.trans h.unanswered,
    h'.state.trans h.state, h'.url.trans h.url, h'.client.trans h.client, new ++ new', ?_, ?_⟩
  · rw [hlog', hlog, List.append_assoc]
  · intro e he
    rcases List.mem_append.mp he with he | he
    · exact hnew e he
    · exact hnew' e he

theorem Quietly.of_eq (hcseq : a'.cseq = a.cseq) (hhandlers : a'.responseHandlers = a.responseHandlers)
    (hunanswered : a'.unanswered = a.unanswered) (hstate : a'.wfdState = a.wfdState)
    (hurl : a'.rtspUrl = a.rtspUrl) (hclient : a'.rtspClient = a.rtspClient) (hlog : a'.log = a.log) :
    Quietly a a' :=
  ⟨hcseq, hhandlers, hunanswered, hstate, hurl, hclient, [], by rw [hlog, List.append_nil], by simp⟩

theorem quietly_note (a : SinkApp) {e : SinkEvent} (h : e.Quiet) : Quietly a (a.note e) := by
  refine ⟨rfl, rfl, rfl, rfl, rfl, rfl, [e], rfl, ?_⟩
  intro e' he'
  rwa [List.mem_singleton.mp he']

theorem quietly_error (a : SinkApp) (code : SessionErrorCode) : Quietly a (a.notifyServiceError code) :=
  quietly_note a trivial

theorem quietly_stopTimer (a : SinkApp) : Quietly a a.stopTimer :=
  .of_eq rfl rfl rfl rfl rfl rfl rfl

theorem quietly_startTimer (a : SinkApp) (seconds : Int) : Quietly a (a.startTimer seconds) :=
  .of_eq rfl rfl rfl rfl rfl rfl rfl

theorem quietly_send (a : SinkApp) (text : Text → Text) : Quietly a (a.send text).2 :=
  .of_eq rfl rfl rfl rfl rfl rfl rfl

theorem quietly_sendCommonResponse (a : SinkApp) (cseq : Int) :
    Quietly a (a.sendCommonResponse cseq).2 := by
  rw [sendCommonResponse]
  split
  · exact .refl a
  · exact quietly_send a _

/-- The next send gets through. -/
def SendsNext (a : SinkApp) : Prop := a.rtspClient = true ∧ (a.network.headD {}).ok = true

instance (a : SinkApp) : Decidable a.SendsNext := inferInstanceAs (Decidable (_ ∧ _))

theorem sendCommonResponse_fst (a : SinkApp) (cseq : Int) :
    (a.sendCommonResponse cseq).1 = true ↔ a.SendsNext := by
  rw [sendCommonResponse, SendsNext]
  split
  · rename_i hclient
    simp [hclient]
  · rename_i hclient
    rw [not_not] at hclient
    simp [send, hclient]

theorem sendRequest_fst (a : SinkApp) (request : SinkRequest) (url : Text) (text : Int → Text) :
    (a.sendRequest request url text).1 = true ↔ a.SendsNext := by
  have hsend : ((a.register request).startTimer 5).network = a.network := rfl
  rw [sendRequest, SendsNext]
  split
  · rename_i hclient
    simp [hclient]
  · rename_i hclient
    rw [not_not] at hclient
    simp only [sendRegistered, send, hsend]
    split
    · simp_all
    · simp_all

/-- The request that has been registered last is on its way. -/
def launched (a : SinkApp) (request : SinkRequest) (url : Text) : SinkApp :=
  { a with unanswered := a.unanswered ++ [(a.cseq, request)] }.note (.sent request a.cseq url)

theorem sendRegistered_cases (a : SinkApp) (request : SinkRequest) (url text : Text) :
    (a.sendRegistered request url text).1 = true ∧
        Quietly (a.launched request url) (a.sendRegistered request url text).2 ∨
      (a.sendRegistered request url text).1 = false ∧
        Quietly a (a.sendRegistered request url text).2 := by
  rw [sendRegistered]
  simp only
  split
  · rename_i hok
    exact .inl ⟨hok, .of_eq rfl rfl rfl rfl rfl rfl rfl⟩
  · rename_i hok
    exact .inr ⟨by simpa using hok, quietly_send a _⟩

theorem sendRequest_cases (a : SinkApp) (request : SinkRequest) (url : Text) (text : Int → Text) :
    a.rtspClient = false ∧ a.sendRequest request url text = (false, a) ∨
      a.rtspClient = true ∧ (a.sendRequest request url text).1 = true ∧
        Quietly ((a.register request).launched request url) (a.sendRequest request url text).2 ∨
      a.rtspClient = true ∧ (a.sendRequest request url text).1 = false ∧
        Quietly (a.register request).unregister (a.sendRequest request url text).2 := by
  rw [sendRequest]
  split
  · rename_i hclient
    exact .inl ⟨by simpa using hclient, rfl⟩
  · rename_i hclient
    rw [not_not] at hclient
    right
    rcases ((a.register request).startTimer 5).sendRegistered_cases request url
      (text ((a.register request).startTimer 5).cseq) with ⟨hok, hsent⟩ | ⟨hok, hsent⟩
    · simp only [hok, if_true]
      have hsame : Quietly ((a.register request).launched request url)
          (((a.register request).startTimer 5).launched request url) :=
        .of_eq rfl rfl rfl rfl rfl rfl rfl
      exact .inl ⟨hclient, trivial, hsame.trans hsent⟩
    · simp only [hok, Bool.false_eq_true, if_false]
      refine .inr ⟨hclient, trivial, .trans ?_ ((quietly_stopTimer _).trans (quietly_error _ _))⟩
      have hcseq := hsent.cseq
      have hhandlers := hsent.handlers
      exact ⟨hcseq, by rw [unregister, unregister, hcseq, hhandlers]; rfl, hsent.unanswered,
        hsent.state, hsent.url, hsent.client, hsent.log⟩

/-- A session that is stopping already, or cannot stop, or stops now. -/
theorem sendM8Request_cases (a : SinkApp) :
    Quietly a a.sendM8Request.2 ∧ (a.wfdState = .stopping ∨ a.sendM8Request.1 = false) ∨
      a.wfdState ≠ .stopping ∧ a.rtspClient = true ∧ ∃ b, a.sendM8Request.2 = b.enter .stopping ∧
        (Quietly ((a.register .m8).launched .m8 a.rtspUrl) b ∨ Quietly (a.register .m8).unregister b) := by
  rw [sendM8Request]
  split
  · rename_i hstopping
    exact .inl ⟨.refl a, .inl hstopping⟩
  · rename_i hstopping
    split
    · exact .inl ⟨.refl a, .inr rfl⟩
    · rename_i hopen
      rw [not_or, not_not] at hopen
      refine .inr ⟨hstopping, hopen.1, _, rfl, ?_⟩
      rcases (a.register .m8).sendRegistered_cases .m8 (a.register .m8).rtspUrl
        (wfdRtspM8Request (a.register .m8).cseq (a.register .m8).rtspUrl
          (a.register .m8).rtspSession).stringify with ⟨hok, hsent⟩ | ⟨hok, hsent⟩
      · simp only [hok, if_true]
        exact .inl hsent
      · simp only [hok, Bool.false_eq_true, if_false]
        have hcseq := hsent.cseq
        have hhandlers := hsent.handlers
        exact .inr ⟨hcseq, by rw [unregister, unregister, hcseq, hhandlers], hsent.unanswered,
          hsent.state, hsent.url, hsent.client, hsent.log⟩

theorem sendIDRRequest_cases (a : SinkApp) :
    Quietly a a.sendIDRRequest.2 ∨
      a.wfdState = .playing ∧ a.rtspClient = true ∧
        (Quietly ((a.register .idr).launched .idr a.rtspUrl) a.sendIDRRequest.2 ∨
          Quietly (a.register .idr) a.sendIDRRequest.2) := by
  rw [sendIDRRequest]
  split
  · exact .inl (.refl a)
  · rename_i hplaying
    split
    · exact .inl (.refl a)
    · rename_i hclient
      rw [not_not] at hplaying hclient
      refine .inr ⟨hplaying, hclient, ?_⟩
      rcases ((a.register .idr).startTimer 6).sendRegistered_cases .idr
        ((a.register .idr).startTimer 6).rtspUrl
        (wfdRtspIDRRequest ((a.register .idr).startTimer 6).cseq
          ((a.register .idr).startTimer 6).rtspUrl
          ((a.register .idr).startTimer 6).rtspSession).stringify with ⟨-, hsent⟩ | ⟨-, hsent⟩
      · have hsame : Quietly ((a.register .idr).launched .idr a.rtspUrl)
            (((a.register .idr).startTimer 6).launched .idr a.rtspUrl) :=
          .of_eq rfl rfl rfl rfl rfl rfl rfl
        exact .inl (hsame.trans hsent)
      · exact .inr ((quietly_startTimer _ _).trans hsent)

theorem sendM1Response_cases (a : SinkApp) (cseq : Int) :
    a.rtspClient = false ∧ a.sendM1Response cseq = (false, a) ∨
      a.rtspClient = true ∧ (Quietly { a with cseq } (a.sendM1Response cseq).2 ∨
        Quietly ({ a with cseq }.note .m1Answered) (a.sendM1Response cseq).2) := by
  rw [sendM1Response]
  split
  · rename_i hclient
    exact .inl ⟨by simpa using hclient, rfl⟩
  · rename_i hclient
    rw [not_not] at hclient
    refine .inr ⟨hclient, ?_⟩
    simp only
    split
    · exact .inr (.of_eq rfl rfl rfl rfl rfl rfl rfl)
    · exact .inl (.of_eq rfl rfl rfl rfl rfl rfl rfl)

theorem sendM3Response_cases (a : SinkApp) (cseq : Int) (params : List Text) :
    Quietly a (a.sendM3Response cseq params).2 ∨
      Quietly (a.note .m3Answered) (a.sendM3Response cseq params).2 := by
  rw [sendM3Response]
  split
  · exact .inl (.refl a)
  · simp only
    split
    · exact .inr (.of_eq rfl rfl rfl rfl rfl rfl rfl)
    · exact .inl (((quietly_startTimer a 6).trans (quietly_send _ _)).trans
        ((quietly_stopTimer _).trans (quietly_error _ _)))

theorem handleGetParamRequest_cases (a : SinkApp) (cseq : Int) (params : List Text) :
    Quietly a (a.handleGetParamRequest cseq params) ∨
      Quietly (a.note .m3Answered) (a.handleGetParamRequest cseq params) := by
  rw [handleGetParamRequest]
  split
  · rcases a.stopTimer.sendM3Response_cases cseq params with hquiet | hanswered
    · exact .inl ((quietly_stopTimer a).trans hquiet)
    · have hsame : Quietly (a.note .m3Answered) (a.stopTimer.note .m3Answered) :=
        .of_eq rfl rfl rfl rfl rfl rfl rfl
      exact .inr (hsame.trans hanswered)
  · split
    · exact .inl (.refl a)
    · exact .inl ((quietly_sendCommonResponse a cseq).trans (.of_eq rfl rfl rfl rfl rfl rfl rfl))

/-- The URL of an M4, read from the text that comes with it. -/
def m4Url (message : Text) : Text := (WfdRtspM4Request.parse {} message).1.getPresentationUrl

theorem sendCommonResponse_log (a : SinkApp) (cseq : Int) :
    (a.sendCommonResponse cseq).2.log = a.log := by
  rw [sendCommonResponse]
  split <;> rfl

theorem answerM4Request_cases {b : SinkApp} (h : Quietly a b) (hlog : b.log = a.log) (cseq : Int) :
    (b.answerM4Request cseq).1 = true ∧
        Quietly (a.note (.m4Accepted a.rtspUrl)) (b.answerM4Request cseq).2 ∨
      (b.answerM4Request cseq).1 = false ∧ Quietly a (b.answerM4Request cseq).2 := by
  have hsent := h.trans (quietly_sendCommonResponse b cseq)
  rw [answerM4Request]
  simp only
  split
  · refine .inl ⟨rfl, .of_eq hsent.cseq hsent.handlers hsent.unanswered hsent.state hsent.url
      hsent.client ?_⟩
    simp only [note, hsent.url, sendCommonResponse_log, hlog]
  · exact .inr ⟨rfl, hsent.trans ((quietly_stopTimer _).trans (quietly_error _ _))⟩

/-- The URL of an M4 is taken, whether it is answered or not. -/
theorem handleM4Request_cases (a : SinkApp) (message : Text) :
    (a.handleM4Request message).1 = true ∧
        Quietly ({ a with rtspUrl := m4Url message }.note (.m4Accepted (m4Url message)))
          (a.handleM4Request message).2 ∨
      (a.handleM4Request message).1 = false ∧
        Quietly { a with rtspUrl := m4Url message } (a.handleM4Request message).2 := by
  rw [handleM4Request]
  simp only
  split
  · exact answerM4Request_cases (quietly_startTimer { a with rtspUrl := m4Url message } 6) rfl _
  · exact answerM4Request_cases (.refl { a with rtspUrl := m4Url message }) rfl _

theorem sendM6Request_cases (a : SinkApp) :
    a.rtspClient = false ∧ a.sendM6Request.2 = a ∨
      a.rtspClient = true ∧
        ((∃ b, Quietly ((a.register .m6).launched .m6 a.rtspUrl) b ∧ a.SendsNext ∧
            a.sendM6Request.2 = b.enter .ready) ∨
          Quietly (a.register .m6).unregister a.sendM6Request.2) := by
  rw [sendM6Request]
  simp only
  rcases a.sendRequest_cases .m6 a.rtspUrl fun cseq =>
    (wfdRtspM6Request cseq a.rtspUrl a.localRtpPort).stringify with
    ⟨hclient, hsame⟩ | ⟨hclient, hok, hsent⟩ | ⟨hclient, hok, hfailed⟩
  · exact .inl ⟨hclient, by rw [hsame]; rfl⟩
  · exact .inr ⟨hclient, .inl ⟨_, hsent, (a.sendRequest_fst _ _ _).mp hok, by rw [if_pos hok]⟩⟩
  · exact .inr ⟨hclient, .inr (by rwa [if_neg (by simp [hok])])⟩

theorem handleTriggerMethod_setup (a : SinkApp) (cseq : Int) :
    Quietly (a.note .m5Received) (a.handleTriggerMethod cseq "SETUP".toList) ∨
      a.SendsNext ∧ ∃ b, Quietly (a.note .m5Received) b ∧ b.network = a.network.tail ∧
        a.handleTriggerMethod cseq "SETUP".toList = b.sendM6Request.2 := by
  rw [handleTriggerMethod, if_pos rfl]
  have hsent := (quietly_stopTimer (a.note .m5Received)).trans (quietly_sendCommonResponse _ cseq)
  simp only
  split
  · rename_i hok
    have hgoes := (sendCommonResponse_fst _ cseq).mp hok
    refine .inr ⟨hgoes, _, hsent, ?_, rfl⟩
    rw [sendCommonResponse, if_neg (not_not.mpr hgoes.1)]
    rfl
  · exact .inl (hsent.trans (quietly_error _ _))

theorem handleTriggerMethod_teardown (a : SinkApp) (cseq : Int) :
    Quietly a (a.handleTriggerMethod cseq "TEARDOWN".toList) ∨
      ∃ b, Quietly a b ∧ a.handleTriggerMethod cseq "TEARDOWN".toList = b.sendM8Request.2 := by
  rw [handleTriggerMethod, if_neg (by decide), if_pos rfl]
  have hsent := quietly_sendCommonResponse a cseq
  simp only
  split
  · exact .inr ⟨_, hsent, rfl⟩
  · exact .inl (hsent.trans (quietly_error _ _))

theorem handleTriggerMethod_other (a : SinkApp) (cseq : Int) {method : Text}
    (hsetup : method ≠ "SETUP".toList) (hteardown : method ≠ "TEARDOWN".toList) :
    a.handleTriggerMethod cseq method = a := by
  rw [handleTriggerMethod, if_neg hsetup, if_neg hteardown]

/-- The trigger in a request, if it has one. -/
def trigger? (request : RtspRequest) : Option Text :=
  if request.method = "SET_PARAMETER".toList then
    (RtspCommon.splitParameter request.body).find? wfdParamTrigger
  else none

theorem method_of_trigger? {request : RtspRequest} {method : Text}
    (h : trigger? request = some method) : request.method = "SET_PARAMETER".toList := by
  rw [trigger?] at h
  split at h
  · assumption
  · cases h

/-- An M4 that is a parameter request without a trigger. -/
def IsM4 (request : RtspRequest) : Prop :=
  request.method = "SET_PARAMETER".toList ∧ RtspCommon.splitParameter request.body ≠ [] ∧
    (RtspCommon.splitParameter request.body).find? wfdParamTrigger = none

instance (request : RtspRequest) : Decidable (IsM4 request) := inferInstanceAs (Decidable (_ ∧ _ ∧ _))

/-- The kinds of requests that a source sends, and what they come down to. -/
inductive RequestKind (request : RtspRequest) (message : Text) : SinkApp → SinkApp → Prop where
  | ignored {a : SinkApp} (hm4 : ¬ IsM4 request) (htrigger : trigger? request = none) :
      RequestKind request message a a
  | options {a : SinkApp} (h : request.method = "OPTIONS".toList) :
      RequestKind request message a (a.handleOptionsRequest request.cSeq)
  | getParam {a : SinkApp} (h : request.method = "GET_PARAMETER".toList) :
      RequestKind request message a (a.handleGetParamRequest request.cSeq request.body)
  | trigger {a : SinkApp} {method : Text} (h : trigger? request = some method) :
      RequestKind request message a (a.handleTriggerMethod request.cSeq method)
  | m4 {a b : SinkApp} (h : IsM4 request)
      (hb : Quietly (a.stopTimer.handleM4Request message).2 b)
      (htimer : b.timeoutTimer = (a.stopTimer.handleM4Request message).2.timeoutTimer) :
      RequestKind request message a b

theorem handleRequest_kind (a : SinkApp) (request : RtspRequest) (message : Text) :
    RequestKind request message a (a.handleRequest request message) := by
  rw [handleRequest]
  split
  · rename_i h
    exact .options h
  · split
    · rename_i h
      exact .getParam h
    · split
      · rename_i h
        rw [handleSetParamRequest]
        simp only
        split
        · rename_i hparams
          refine .ignored (fun hm4 => hm4.2.1 hparams) ?_
          rw [trigger?, if_pos h, hparams]
          rfl
        · rename_i hparams
          split
          · rename_i method hmethod
            exact .trigger (by rw [trigger?, if_pos h, hmethod])
          · rename_i hnone
            refine .m4 ⟨h, hparams, hnone⟩ ?_ ?_
            · split
              · refine ⟨rfl, rfl, rfl, rfl, rfl, rfl, [.notified .prosumerCreate], rfl, ?_⟩
                intro e he
                rw [List.mem_singleton.mp he]
                trivial
              · exact .refl _
            · split <;> rfl
      · rename_i h
        exact .ignored (fun hm4 => h hm4.1) (if_neg h)

/-- The answer to a request was read. -/
def answered (a : SinkApp) (request : SinkRequest) (cseq status : Int) : SinkApp :=
  { a with unanswered := a.unanswered.filter (·.1 ≠ cseq) }.note (.answered request cseq status)

def erased (a : SinkApp) (cseq : Int) : SinkApp :=
  { a with responseHandlers := Function.update a.responseHandlers cseq none }

theorem handleResponse_none {response : RtspResponse} (h : a.responseHandlers response.cSeq = none) :
    a.handleResponse response = a := by
  rw [handleResponse, h]

theorem handleResponse_some {response : RtspResponse} {request : SinkRequest}
    (h : a.responseHandlers response.cSeq = some request) :
    a.handleResponse response =
      ((a.answered request response.cSeq response.status).handle request response).erased
        response.cSeq := by
  rw [handleResponse, h]
  rfl

theorem quietly_handleM2Response (a : SinkApp) (response : RtspResponse) :
    Quietly a (a.handleM2Response response) := by
  have htimer := quietly_startTimer a 6
  rw [handleM2Response]
  simp only
  split
  · exact htimer.trans (quietly_error _ _)
  · have hmethods : Quietly a
        (if sinkSupportsMethods ((response.tokens.find? rtspTokenPublic).getD []) then a.startTimer 6
          else (a.startTimer 6).notifyServiceError .interactionFailure) := by
      split
      · exact htimer
      · exact htimer.trans (quietly_error _ _)
    generalize (if sinkSupportsMethods ((response.tokens.find? rtspTokenPublic).getD [])
      then a.startTimer 6 else (a.startTimer 6).notifyServiceError .interactionFailure) = b at hmethods ⊢
    split
    · have hflag : Quietly b { b with isPcSource := true } := .of_eq rfl rfl rfl rfl rfl rfl rfl
      exact (hmethods.trans hflag).trans (quietly_note _ (by simp [SinkEvent.Quiet]))
    · exact hmethods

theorem quietly_handleM8Response (a : SinkApp) (response : RtspResponse) :
    Quietly a (a.handleM8Response response) := by
  rw [handleM8Response]
  split
  · exact quietly_error a _
  · exact quietly_note a (by simp [SinkEvent.Quiet])

theorem quietly_handleCommonResponse (a : SinkApp) (response : RtspResponse) :
    Quietly a (a.handleCommonResponse response) := by
  rw [handleCommonResponse]
  split
  · exact (quietly_stopTimer a).trans (quietly_error _ _)
  · exact quietly_stopTimer a

theorem handleM6Response_cases (a : SinkApp) (response : RtspResponse) :
    response.status ≠ rtspStatusOk ∧ Quietly a (a.handleM6Response response) ∨
      response.status = rtspStatusOk ∧
        ∃ b, Quietly a b ∧ a.handleM6Response response = b.sendM7Request.2 := by
  rw [handleM6Response]
  simp only
  split
  · rename_i hstatus
    exact .inl ⟨hstatus, (quietly_stopTimer a).trans (quietly_error _ _)⟩
  · rename_i hstatus
    rw [not_not] at hstatus
    refine .inr ⟨hstatus, _, ?_, rfl⟩
    exact .of_eq rfl rfl rfl rfl rfl rfl rfl

theorem handleM7Response_cases (a : SinkApp) (response : RtspResponse) :
    response.status ≠ rtspStatusOk ∧ Quietly a (a.handleM7Response response) ∨
      response.status = rtspStatusOk ∧
        Quietly ((a.notifyAgentPrivateEvent .rtspPlayed).enter .playing) (a.handleM7Response response) := by
  rw [handleM7Response]
  simp only
  split
  · rename_i hstatus
    exact .inl ⟨hstatus, (quietly_stopTimer a).trans (quietly_error _ _)⟩
  · rename_i hstatus
    rw [not_not] at hstatus
    exact .inr ⟨hstatus, .of_eq rfl rfl rfl rfl rfl rfl rfl⟩

theorem quietly_act (a : SinkApp) {action : SinkAction}
    (h : match action with
      | .request _ _ | .response _ | .idr | .teardown | .setClient _ => False
      | _ => True) : Quietly a (a.act action) := by
  cases action with
  | request request message => exact h.elim
  | response response => exact h.elim
  | idr => exact h.elim
  | teardown => exact h.elim
  | setClient rtspClient => exact h.elim
  | notify notice => exact quietly_note a trivial
  | _ => exact .of_eq rfl rfl rfl rfl rfl rfl rfl

/-- A property that quiet steps keep. What else the senders and handlers do to it is left
to show. -/
def KeptQuietly (I : SinkApp → Prop) : Prop := ∀ {a b}, I a → Quietly a b → I b

section Kept

variable {I : SinkApp → Prop} (hI : KeptQuietly I)

include hI

theorem sendRequest_keeps {request : SinkRequest} {url : Text} {text : Int → Text} (h : I a)
    (hsent : I ((a.register request).launched request url))
    (hfailed : I (a.register request).unregister) : I (a.sendRequest request url text).2 := by
  rcases a.sendRequest_cases request url text with ⟨-, hsame⟩ | ⟨-, -, hq⟩ | ⟨-, -, hq⟩
  · rw [hsame]
    exact h
  · exact hI hsent hq
  · exact hI hfailed hq

theorem sendM6Request_keeps (h : I a)
    (hready : ∀ b, Quietly ((a.register .m6).launched .m6 a.rtspUrl) b → a.SendsNext → I (b.enter .ready))
    (hfailed : I (a.register .m6).unregister) : I a.sendM6Request.2 := by
  rcases a.sendM6Request_cases with ⟨-, hsame⟩ | ⟨-, ⟨b, hq, hsends, hsent⟩ | hq⟩
  · rw [hsame]
    exact h
  · rw [hsent]
    exact hready b hq hsends
  · exact hI hfailed hq

theorem sendM8Request_keeps (h : I a)
    (hstops : ∀ b, Quietly ((a.register .m8).launched .m8 a.rtspUrl) b ∨
      Quietly (a.register .m8).unregister b → I (b.enter .stopping)) : I a.sendM8Request.2 := by
  rcases a.sendM8Request_cases with ⟨hq, -⟩ | ⟨-, -, b, hstopping, hq⟩
  · exact hI h hq
  · rw [hstopping]
    exact hstops b hq

theorem sendIDRRequest_keeps (h : I a) (hsent : I ((a.register .idr).launched .idr a.rtspUrl))
    (hfailed : I (a.register .idr)) : I a.sendIDRRequest.2 := by
  rcases a.sendIDRRequest_cases with hq | ⟨-, -, hq | hq⟩
  · exact hI h hq
  · exact hI hsent hq
  · exact hI hfailed hq

theorem sendM1Response_keeps {cseq : Int} (h : I a) (htaken : I { a with cseq })
    (hanswered : I ({ a with cseq }.note .m1Answered)) : I (a.sendM1Response cseq).2 := by
  rcases a.sendM1Response_cases cseq with ⟨-, hsame⟩ | ⟨-, hq | hq⟩
  · rw [hsame]
    exact h
  · exact hI htaken hq
  · exact hI hanswered hq

theorem handleTriggerMethod_keeps {cseq : Int} {method : Text} (h : I a)
    (hnoted : I (a.note .m5Received))
    (hsetup : ∀ b, method = "SETUP".toList → a.SendsNext → Quietly (a.note .m5Received) b →
      b.network = a.network.tail → I b.sendM6Request.2)
    (hteardown : ∀ b, Quietly a b → I b.sendM8Request.2) : I (a.handleTriggerMethod cseq method) := by
  by_cases hmethod : method = "SETUP".toList
  · have hsent := a.handleTriggerMethod_setup cseq
    rw [← hmethod] at hsent
    rcases hsent with hq | ⟨hsends, b, hq, hnetwork, hsent⟩
    · exact hI hnoted hq
    · rw [hsent]
      exact hsetup b hmethod hsends hq hnetwork
  · by_cases hends : method = "TEARDOWN".toList
    · rw [hends]
      rcases a.handleTriggerMethod_teardown cseq with hq | ⟨b, hq, hsent⟩
      · exact hI h hq
      · rw [hsent]
        exact hteardown b hq
    · rw [a.handleTriggerMethod_other cseq hmethod hends]
      exact h

theorem handleRequest_keeps {request : RtspRequest} {message : Text} (h : I a)
    (hoptions : request.method = "OPTIONS".toList → I (a.handleOptionsRequest request.cSeq))
    (hm3 : I (a.note .m3Answered))
    (htrigger : ∀ method, trigger? request = some method → I (a.handleTriggerMethod request.cSeq method))
    (hurl : IsM4 request → I { a with rtspUrl := m4Url message })
    (hm4 : IsM4 request → I ({ a with rtspUrl := m4Url message }.note (.m4Accepted (m4Url message)))) :
    I (a.handleRequest request message) := by
  have hkind := handleRequest_kind a request message
  generalize a.handleRequest request message = b at hkind ⊢
  cases hkind with
  | ignored => exact h
  | options hmethod => exact hoptions hmethod
  | getParam hmethod =>
    rcases a.handleGetParamRequest_cases request.cSeq request.body with hq | hq
    · exact hI h hq
    · exact hI hm3 hq
  | trigger hmethod => exact htrigger _ hmethod
  | m4 hkind hq _ =>
    rcases a.stopTimer.handleM4Request_cases message with ⟨-, haccepted⟩ | ⟨-, hfailed⟩
    · have hstopped : Quietly ({ a with rtspUrl := m4Url message }.note (.m4Accepted (m4Url message)))
          ({ a.stopTimer with rtspUrl := m4Url message }.note (.m4Accepted (m4Url message))) :=
        .of_eq rfl rfl rfl rfl rfl rfl rfl
      exact hI (hm4 hkind) ((hstopped.trans haccepted).trans hq)
    · have hstopped : Quietly { a with rtspUrl := m4Url message }
          { a.stopTimer with rtspUrl := m4Url message } := .of_eq rfl rfl rfl rfl rfl rfl rfl
      exact hI (hurl hkind) ((hstopped.trans hfailed).trans hq)

theorem handle_keeps {request : SinkRequest} {response : RtspResponse}
    (hread : I (a.answered request response.cSeq response.status))
    (hm6 : request = .m6 → response.status = rtspStatusOk →
      ∀ b, Quietly (a.answered .m6 response.cSeq response.status) b → I b.sendM7Request.2)
    (hm7 : request = .m7 → response.status = rtspStatusOk →
      I (((a.answered .m7 response.cSeq response.status).notifyAgentPrivateEvent .rtspPlayed).enter
        .playing)) :
    I ((a.answered request response.cSeq response.status).handle request response) := by
  cases request with
  | m2 => exact hI hread (quietly_handleM2Response _ response)
  | m6 =>
    rcases (a.answered .m6 response.cSeq response.status).handleM6Response_cases response with
      ⟨-, hq⟩ | ⟨hstatus, b, hq, hsent⟩
    · exact hI hread hq
    · change I ((a.answered .m6 response.cSeq response.status).handleM6Response response)
      rw [hsent]
      exact hm6 rfl hstatus b hq
  | m7 =>
    rcases (a.answered .m7 response.cSeq response.status).handleM7Response_cases response with
      ⟨-, hq⟩ | ⟨hstatus, hq⟩
    · exact hI hread hq
    · exact hI (hm7 rfl hstatus) hq
  | m8 => exact hI hread (quietly_handleM8Response _ response)
  | idr => exact hI hread (quietly_handleCommonResponse _ response)

/-- `I` is what holds as long as the handler is not erased. -/
theorem handleResponse_keeps {J : SinkApp → Prop} {response : RtspResponse} (h : J a)
    (hread : ∀ request, a.responseHandlers response.cSeq = some request →
      I (a.answered request response.cSeq response.status))
    (hm6 : a.responseHandlers response.cSeq = some .m6 → response.status = rtspStatusOk →
      ∀ b, Quietly (a.answered .m6 response.cSeq response.status) b → I b.sendM7Request.2)
    (hm7 : a.responseHandlers response.cSeq = some .m7 → response.status = rtspStatusOk →
      I (((a.answered .m7 response.cSeq response.status).notifyAgentPrivateEvent .rtspPlayed).enter
        .playing))
    (herased : ∀ b, I b → J (b.erased response.cSeq)) : J (a.handleResponse response) := by
  cases hhandler : a.responseHandlers response.cSeq with
  | none =>
    rw [handleResponse_none hhandler]
    exact h
  | some request =>
    rw [handleResponse_some hhandler]
    refine herased _ (handle_keeps hI (hread request hhandler) ?_ ?_)
    · rintro rfl
      exact hm6 hhandler
    · rintro rfl
      exact hm7 hhandler

end Kept

end SinkApp

end WifiDisplay
