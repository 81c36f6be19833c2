import WifiDisplay.PartialMaps
import WifiDisplay.WfdSinkSteps

/-! The one timer that watches over the answers a sink waits for. -/

namespace WifiDisplay

/-- The messages of the source that lead through the handshake. -/
inductive HandshakeMessage where
  | m1 | m3 | m4 | m5
  deriving DecidableEq

/-- The session stops, or is reported as failed. -/
def SinkEvent.Ends : SinkEvent → Prop
  | .notified (.error _) => True
  | .entered .stopping => True
  | _ => False

instance : DecidablePred SinkEvent.Ends := fun e => by unfold SinkEvent.Ends; split <;> infer_instance

def Live (log : List SinkEvent) : Prop := ∀ e ∈ log, ¬ e.Ends

instance (log : List SinkEvent) : Decidable (Live log) := inferInstanceAs (Decidable (∀ e ∈ log, _))

theorem Live.before {log new : List SinkEvent} (h : Live (log ++ new)) : Live log :=
  fun e he => h e (List.mem_append_left new he)

/-- Requests other than an M8, which no timer watches. -/
def NoneWaits (waiting : List (Int × SinkRequest)) : Prop := ∀ p ∈ waiting, p.2 = .m8

instance (waiting : List (Int × SinkRequest)) : Decidable (NoneWaits waiting) :=
  inferInstanceAs (Decidable (∀ p ∈ waiting, _))

namespace SinkApp

def timerArmed (a : SinkApp) : Bool := (a.timeoutTimer.bind (·.armed)).isSome

/-- The message of the handshake that the sink waits for next. -/
def awaits (a : SinkApp) (awaited : Option HandshakeMessage) : SinkAction → Option HandshakeMessage
  | .armTimer => some .m1
  | .request request _ =>
    if request.method = "OPTIONS".toList then some .m3
    else if request.method = "GET_PARAMETER".toList then
      if request.body ≠ [] then some .m4 else awaited
    else if IsM4 request then if a.isFirstCast then some .m5 else none
    else if trigger? request = some "SETUP".toList then none
    else awaited
  | _ => awaited

/-- The requests that still wait behind a response. -/
def others (a : SinkApp) (cseq : Int) : List (Int × SinkRequest) := a.unanswered.filter (·.1 ≠ cseq)

/-- A repeated M4, and the answer to an M7 or to a request for a key frame, come when
nothing else waits; the answer to an M2 and a failed request for a key frame when
something does. -/
def KeepsSupervision (a : SinkApp) (awaited : Option HandshakeMessage) : SinkAction → Prop
  | .request request _ =>
    Live a.log → IsM4 request → a.isFirstCast = false → a.SendsNext → NoneWaits a.unanswered
  | .response response =>
    Live a.log → response.status = rtspStatusOk →
      (a.responseHandlers response.cSeq = some .m2 →
        sinkSupportsMethods ((response.tokens.find? rtspTokenPublic).getD []) = true →
          awaited = none → ¬ NoneWaits (a.others response.cSeq)) ∧
      (a.responseHandlers response.cSeq = some .m7 ∨ a.responseHandlers response.cSeq = some .idr →
        NoneWaits (a.others response.cSeq))
  | .idr =>
    Live a.log → a.wfdState = .playing → a.rtspClient = true → ¬ a.SendsNext →
      awaited = none → ¬ NoneWaits a.unanswered
  | _ => True

instance (a : SinkApp) (awaited : Option HandshakeMessage) : DecidablePred (a.KeepsSupervision awaited)
  | .request .. | .response .. | .idr | .teardown | .setStatus .. | .setPort .. | .setConnected .. | .setClient ..
  | .armTimer | .expire | .expireKeepAlive | .notify .. => by unfold KeepsSupervision; infer_instance

/-- What a live session has for its next request. -/
structure Supervisable (a : SinkApp) : Prop where
  client : a.rtspClient = false → a.unanswered = []
  timer : a.rtspClient = true → a.timeoutTimer.isSome = true
  m8 : ∀ c, a.responseHandlers c ≠ some .m8
  state : a.wfdState ≠ .stopping
  waiting : ∀ p ∈ a.unanswered, p.2 ≠ .m8

/-- The timer is armed while an answer is waited for, and not without a wait. -/
structure Supervised (a : SinkApp) (awaited : Option HandshakeMessage) : Prop extends
    Supervisable a where
  answers : a.unanswered ≠ [] → a.timerArmed = true
  healthy : a.unanswered = [] → awaited = none → a.timerArmed = false

variable {a b : SinkApp} {awaited : Option HandshakeMessage} {request : SinkRequest}

theorem Supervisable.noneWaits_iff (h : Supervisable a) : NoneWaits a.unanswered ↔ a.unanswered = [] := by
  constructor
  · intro hnone
    refine List.eq_nil_iff_forall_not_mem.mpr fun p hp => ?_
    exact h.waiting p hp (hnone p hp)
  · intro hnil
    simp [NoneWaits, hnil]

theorem Supervisable.frame (h : Supervisable a) (hunanswered : b.unanswered = a.unanswered)
    (hhandlers : b.responseHandlers = a.responseHandlers) (hstate : b.wfdState ≠ .stopping)
    (hclient : b.rtspClient = a.rtspClient)
    (htimer : b.timeoutTimer.isSome = a.timeoutTimer.isSome) : Supervisable b where
  client := by
    rw [hunanswered, hclient]
    exact h.client
  timer := by
    rw [hclient, htimer]
    exact h.timer
  m8 := hhandlers ▸ h.m8
  state := hstate
  waiting := hunanswered ▸ h.waiting

theorem Supervisable.quietly (h : Supervisable a) (hq : Quietly a b)
    (htimer : b.timeoutTimer.isSome = a.timeoutTimer.isSome) : Supervisable b :=
  h.frame hq.unanswered hq.handlers (hq.state ▸ h.state) hq.client htimer

theorem Supervised.frame (h : Supervised a awaited) (hunanswered : b.unanswered = a.unanswered)
    (hhandlers : b.responseHandlers = a.responseHandlers) (hstate : b.wfdState ≠ .stopping)
    (hclient : b.rtspClient = a.rtspClient) (htimer : b.timeoutTimer = a.timeoutTimer) :
    Supervised b awaited where
  toSupervisable := h.toSupervisable.frame hunanswered hhandlers hstate hclient (by rw [htimer])
  answers := by
    rw [hunanswered, timerArmed, htimer]
    exact h.answers
  healthy := by
    rw [hunanswered, timerArmed, htimer]
    exact h.healthy

theorem Supervised.quietly (h : Supervised a awaited) (hq : Quietly a b)
    (htimer : b.timeoutTimer = a.timeoutTimer) : Supervised b awaited :=
  h.frame hq.unanswered hq.handlers (hq.state ▸ h.state) hq.client htimer

theorem startTimer_isSome (a : SinkApp) (seconds : Int) :
    (a.startTimer seconds).timeoutTimer.isSome = a.timeoutTimer.isSome := by simp [startTimer]

theorem stopTimer_isSome (a : SinkApp) : a.stopTimer.timeoutTimer.isSome = a.timeoutTimer.isSome := by
  simp [stopTimer]

/-- A timer that has just been started watches over whatever waits. -/
theorem Supervisable.armed (h : Supervisable a) {seconds : Int}
    (htimer : a.timeoutTimer = (b.startTimer seconds).timeoutTimer)
    (hwaits : a.unanswered = [] → awaited ≠ none) : Supervised a awaited where
  toSupervisable := h
  answers := by
    intro hne
    have hclient : a.rtspClient = true := by
      by_contra hclient
      exact hne (h.client (by simpa using hclient))
    have hsome := h.timer hclient
    rw [timerArmed, htimer] at *
    cases hb : b.timeoutTimer with
    | none => simp [startTimer, hb] at hsome
    | some timer => simp [startTimer, hb]
  healthy := fun hnil hnone => absurd hnone (hwaits hnil)

theorem stopped_not_armed (htimer : a.timeoutTimer = b.stopTimer.timeoutTimer) : a.timerArmed = false := by
  rw [timerArmed, htimer, stopTimer]
  cases b.timeoutTimer <;> rfl

theorem Supervisable.stopped (h : Supervisable a) (hnone : a.unanswered = [])
    (htimer : a.timeoutTimer = b.stopTimer.timeoutTimer) : Supervised a awaited where
  toSupervisable := h
  answers := fun hne => absurd hnone hne
  healthy := fun _ _ => stopped_not_armed htimer

theorem sendRegistered_timer (a : SinkApp) (request : SinkRequest) (url text : Text) :
    (a.sendRegistered request url text).2.timeoutTimer = a.timeoutTimer := by
  rw [sendRegistered]
  simp only
  split <;> rfl

theorem sendRequest_timer {url : Text} {text : Int → Text}
    (h : (a.sendRequest request url text).1 = true) :
    (a.sendRequest request url text).2.timeoutTimer = (a.startTimer 5).timeoutTimer := by
  rw [sendRequest] at h ⊢
  split at h
  · cases h
  · rename_i hclient
    rw [if_neg hclient]
    simp only at h ⊢
    split at h
    · rename_i hok
      rw [if_pos hok]
      exact sendRegistered_timer _ _ _ _
    · cases h

theorem sendRequest_reported {url : Text} {text : Int → Text} (hclient : a.rtspClient = true)
    (h : (a.sendRequest request url text).1 = false) :
    .notified (.error .interactionFailure) ∈ (a.sendRequest request url text).2.log := by
  rw [sendRequest, if_neg (not_not.mpr hclient)] at h ⊢
  simp only at h ⊢
  split at h
  · cases h
  · rename_i hok
    rw [if_neg hok]
    exact List.mem_append_right _ (List.mem_singleton_self _)

theorem not_live_of_error {code : SessionErrorCode} {log : List SinkEvent}
    (h : .notified (.error code) ∈ log) : ¬ Live log := fun hlive => hlive _ h trivial

theorem not_live_error (a : SinkApp) (code : SessionErrorCode) :
    ¬ Live (a.notifyServiceError code).log :=
  not_live_of_error (List.mem_append_right _ (List.mem_singleton_self _))

/-- A request other than an M8 that has been given a CSeq. -/
theorem Supervisable.registered (h : Supervisable a) (hne : request ≠ .m8) :
    Supervisable (a.register request) where
  client := h.client
  timer := h.timer
  m8 := by
    intro c hc
    change Function.update a.responseHandlers (nextCSeq a.cseq) (some request) c = some .m8 at hc
    rcases PartialMap.eq_some_of_insert hc with ⟨-, hrequest⟩ | ⟨-, hc⟩
    · exact hne hrequest.symm
    · exact h.m8 c hc
  state := h.state
  waiting := h.waiting

theorem Supervisable.launched (h : Supervisable a) (hne : request ≠ .m8)
    (hclient : a.rtspClient = true) (url : Text) :
    Supervisable ((a.register request).launched request url) where
  client := fun hclosed => absurd (hclient.symm.trans hclosed) (by simp)
  timer := h.timer
  m8 := (h.registered hne).m8
  state := h.state
  waiting := by
    intro p hp
    rcases List.mem_append.mp hp with hp | hp
    · exact h.waiting p hp
    · rw [List.mem_singleton.mp hp]
      exact hne

/-- Whatever waits when M2, M6 or M7 is sent, the timer starts anew. -/
theorem Supervisable.sendRequest (h : Supervisable a) (hne : request ≠ .m8)
    (hclient : a.rtspClient = true) {url : Text} {text : Int → Text}
    (hlive : Live (a.sendRequest request url text).2.log) :
    Supervised (a.sendRequest request url text).2 awaited := by
  rcases a.sendRequest_cases request url text with ⟨hclosed, -⟩ | ⟨-, hok, hsent⟩ | ⟨-, hok, -⟩
  · cases hclient.symm.trans hclosed
  · have htimer := sendRequest_timer hok
    have hbase := (h.launched hne hclient url).quietly hsent (by rw [htimer]; exact startTimer_isSome a 5)
    refine hbase.armed htimer fun hnil => ?_
    rw [hsent.unanswered] at hnil
    exact absurd hnil (List.append_ne_nil_of_right_ne_nil _ (List.cons_ne_nil _ _))
  · exact absurd hlive (not_live_of_error (sendRequest_reported hclient hok))

/-- A key frame that is asked for in vain leaves the timer armed. -/
theorem Supervised.sendIDRRequest (h : Supervised a awaited)
    (hwaits : a.wfdState = .playing → a.rtspClient = true → ¬ a.SendsNext →
      a.unanswered = [] → awaited ≠ none) : Supervised a.sendIDRRequest.2 awaited := by
  rw [SinkApp.sendIDRRequest]
  split
  · exact h
  · rename_i hplaying
    split
    · exact h
    · rename_i hclient
      rw [not_not] at hplaying hclient
      have htimer := sendRegistered_timer ((a.register .idr).startTimer 6) .idr a.rtspUrl
        (wfdRtspIDRRequest (nextCSeq a.cseq) a.rtspUrl a.rtspSession).stringify
      have hregistered : Supervisable ((a.register .idr).startTimer 6) :=
        (h.registered (by simp)).frame rfl rfl h.state rfl (startTimer_isSome _ 6)
      have hlaunched : Supervisable (((a.register .idr).startTimer 6).launched .idr a.rtspUrl) :=
        (h.launched (by simp) hclient a.rtspUrl).frame rfl rfl h.state rfl (startTimer_isSome _ 6)
      rcases ((a.register .idr).startTimer 6).sendRegistered_cases .idr a.rtspUrl
        (wfdRtspIDRRequest (nextCSeq a.cseq) a.rtspUrl a.rtspSession).stringify with
        ⟨-, hsent⟩ | ⟨hok, hsent⟩
      · refine (hlaunched.quietly hsent (by rw [htimer]; rfl)).armed htimer fun hnil => ?_
        rw [hsent.unanswered] at hnil
        exact absurd hnil (List.append_ne_nil_of_right_ne_nil _ (List.cons_ne_nil _ _))
      · refine (hregistered.quietly hsent (by rw [htimer])).armed htimer fun hnil => ?_
        refine hwaits hplaying hclient (fun hsends => ?_) (hsent.unanswered.symm.trans hnil)
        exact absurd (hsends.2.symm.trans hok) (by simp)

theorem Supervised.sendM8Request (h : Supervised a awaited) (hlive : Live a.sendM8Request.2.log) :
    Supervised a.sendM8Request.2 awaited := by
  rw [SinkApp.sendM8Request] at hlive ⊢
  split at hlive
  · exact absurd (by assumption) h.state
  · rename_i hstopping
    rw [if_neg hstopping]
    split at hlive
    · rename_i hopen
      rw [if_pos hopen]
      exact h
    · exact absurd trivial (hlive _ (List.mem_append_right _ (List.mem_singleton_self _)))

theorem Supervisable.sendM1Response (h : Supervisable a) (cseq : Int) :
    Supervisable (a.sendM1Response cseq).2 := by
  have htaken : Supervisable { a with cseq } := h.frame rfl rfl h.state rfl rfl
  have htimer : (a.sendM1Response cseq).2.timeoutTimer = a.timeoutTimer := by
    rw [SinkApp.sendM1Response]
    split
    · rfl
    · simp only
      split <;> rfl
  rcases a.sendM1Response_cases cseq with ⟨-, hsame⟩ | ⟨-, hquiet | hanswered⟩
  · rw [hsame]
    exact h
  · exact htaken.quietly hquiet (by rw [htimer])
  · have hnoted : Supervisable ({ a with cseq }.note .m1Answered) := h.frame rfl rfl h.state rfl rfl
    exact hnoted.quietly hanswered (by rw [htimer]; rfl)

theorem sendM1Response_client (a : SinkApp) (cseq : Int) :
    (a.sendM1Response cseq).2.rtspClient = a.rtspClient := by
  rcases a.sendM1Response_cases cseq with ⟨-, hsame⟩ | ⟨-, hquiet | hanswered⟩
  · rw [hsame]
  · exact hquiet.client
  · exact hanswered.client

theorem Supervisable.handleOptionsRequest (h : Supervisable a) (cseq : Int)
    (hlive : Live (a.handleOptionsRequest cseq).log) :
    Supervised (a.handleOptionsRequest cseq) (some .m3) := by
  have hstart : Supervisable { a.stopTimer with isFirstCast := true, isFirstCreateProsumer := true } :=
    h.frame rfl rfl h.state rfl (stopTimer_isSome a)
  have hanswered := hstart.sendM1Response cseq
  have hclient := sendM1Response_client
    { a.stopTimer with isFirstCast := true, isFirstCreateProsumer := true } cseq
  by_cases hopen : a.rtspClient = true
  · exact hanswered.sendRequest (by simp) (hclient.trans hopen) hlive
  · have hclosed := hclient.trans (by simpa using hopen : a.rtspClient = false)
    rw [SinkApp.handleOptionsRequest, SinkApp.sendM2Request, SinkApp.sendRequest,
      if_pos (by rw [hclosed]; simp)]
    exact ⟨hanswered, fun hne => absurd (hanswered.client hclosed) hne, fun _ hnone => by cases hnone⟩

theorem Supervisable.sendM3Response (h : Supervisable a) (cseq : Int) {params : List Text}
    (hparams : params ≠ []) (hlive : Live (a.stopTimer.sendM3Response cseq params).2.log) :
    Supervised (a.stopTimer.sendM3Response cseq params).2 (some .m4) := by
  have hstopped : Supervisable a.stopTimer := h.frame rfl rfl h.state rfl (stopTimer_isSome a)
  rw [SinkApp.sendM3Response] at hlive ⊢
  split at hlive
  · rename_i hclosed
    rw [if_pos hclosed]
    refine hstopped.stopped (hstopped.client ?_) rfl
    simpa [hparams] using hclosed
  · rename_i hopen
    rw [if_neg hopen]
    simp only at hlive ⊢
    split at hlive
    · rename_i hok
      rw [if_pos hok]
      have hanswered : Supervisable (((a.stopTimer.startTimer 6).send
          (a.stopTimer.m3Response cseq params).stringify).2.note .m3Answered) :=
        hstopped.frame rfl rfl h.state rfl (startTimer_isSome a.stopTimer 6)
      have htimer : (((a.stopTimer.startTimer 6).send
          (a.stopTimer.m3Response cseq params).stringify).2.note .m3Answered).timeoutTimer =
          (a.stopTimer.startTimer 6).timeoutTimer := rfl
      exact hanswered.armed htimer fun _ hnone => by cases hnone
    · exact absurd hlive (not_live_error _ _)

theorem sendCommonResponse_timer (a : SinkApp) (cseq : Int) :
    (a.sendCommonResponse cseq).2.timeoutTimer = a.timeoutTimer := by
  rw [sendCommonResponse]
  split <;> rfl

theorem Supervised.handleGetParamRequest (h : Supervised a awaited) (cseq : Int) (params : List Text)
    (hlive : Live (a.handleGetParamRequest cseq params).log) :
    Supervised (a.handleGetParamRequest cseq params) (if params ≠ [] then some .m4 else awaited) := by
  rw [SinkApp.handleGetParamRequest] at hlive ⊢
  split at hlive
  · rename_i hparams
    rw [if_pos hparams, if_pos hparams]
    exact h.sendM3Response cseq hparams hlive
  · rename_i hparams
    rw [if_neg hparams, if_neg hparams]
    split
    · exact h
    · have hsent := h.quietly (quietly_sendCommonResponse a cseq) (sendCommonResponse_timer a cseq)
      exact hsent.frame rfl rfl hsent.state rfl rfl

theorem answerM4Request_live {cseq : Int} (hlive : Live (a.answerM4Request cseq).2.log) :
    a.SendsNext ∧ (a.answerM4Request cseq).2.timeoutTimer = a.timeoutTimer := by
  rw [answerM4Request] at hlive ⊢
  simp only at hlive ⊢
  split at hlive
  · rename_i hok
    rw [if_pos hok]
    exact ⟨(sendCommonResponse_fst a cseq).mp hok, sendCommonResponse_timer a cseq⟩
  · exact absurd hlive (not_live_error _ _)

theorem Supervisable.answerM4Request (h : Supervisable a) (cseq : Int)
    (htimer : (a.answerM4Request cseq).2.timeoutTimer = a.timeoutTimer) :
    Supervisable (a.answerM4Request cseq).2 := by
  rcases answerM4Request_cases (.refl a) rfl cseq with ⟨-, haccepted⟩ | ⟨-, hfailed⟩
  · have hnoted : Supervisable (a.note (.m4Accepted a.rtspUrl)) := h.frame rfl rfl h.state rfl rfl
    exact hnoted.quietly haccepted (by rw [htimer]; rfl)
  · exact h.quietly hfailed (by rw [htimer])

theorem answerM4Request_unanswered (a : SinkApp) (cseq : Int) :
    (a.answerM4Request cseq).2.unanswered = a.unanswered := by
  rcases answerM4Request_cases (.refl a) rfl cseq with ⟨-, haccepted⟩ | ⟨-, hfailed⟩
  · exact haccepted.unanswered
  · exact hfailed.unanswered

/-- Only the first M4 has the sink wait for M5. -/
theorem Supervisable.handleM4Request (h : Supervisable a) (message : Text)
    (hwaits : a.isFirstCast = false → a.SendsNext → a.unanswered = [])
    (hlive : Live (a.stopTimer.handleM4Request message).2.log) :
    Supervised (a.stopTimer.handleM4Request message).2
      (if a.isFirstCast = true then some .m5 else none) := by
  have htaken : Supervisable { a.stopTimer with rtspUrl := m4Url message } :=
    h.frame rfl rfl h.state rfl (stopTimer_isSome a)
  have hfirst : { a.stopTimer with rtspUrl := m4Url message }.isFirstCast = a.isFirstCast := rfl
  rw [SinkApp.handleM4Request] at hlive ⊢
  change Live ((if { a.stopTimer with rtspUrl := m4Url message }.isFirstCast = true then
    { a.stopTimer with rtspUrl := m4Url message }.startTimer 6 else
      { a.stopTimer with rtspUrl := m4Url message }).answerM4Request _).2.log at hlive
  change Supervised ((if { a.stopTimer with rtspUrl := m4Url message }.isFirstCast = true then
    { a.stopTimer with rtspUrl := m4Url message }.startTimer 6 else
      { a.stopTimer with rtspUrl := m4Url message }).answerM4Request _).2 _
  rw [hfirst] at hlive ⊢
  by_cases hcast : a.isFirstCast = true
  · rw [if_pos hcast] at hlive
    rw [if_pos hcast, if_pos hcast]
    obtain ⟨-, htimer⟩ := answerM4Request_live hlive
    have hstarted : Supervisable ({ a.stopTimer with rtspUrl := m4Url message }.startTimer 6) :=
      htaken.frame rfl rfl h.state rfl (startTimer_isSome _ 6)
    exact (hstarted.answerM4Request _ htimer).armed htimer (by simp)
  · rw [if_neg hcast] at hlive
    rw [if_neg hcast, if_neg hcast]
    obtain ⟨hsends, htimer⟩ := answerM4Request_live hlive
    refine (htaken.answerM4Request _ htimer).stopped (b := a) ?_ htimer
    exact (answerM4Request_unanswered _ _).trans (hwaits (by simpa using hcast) hsends)

theorem Supervisable.sendM6Request (h : Supervisable a) (hclient : a.rtspClient = true)
    (hlive : Live a.sendM6Request.2.log) : Supervised a.sendM6Request.2 awaited := by
  have hsent : Live (a.sendRequest .m6 a.rtspUrl fun cseq =>
      (wfdRtspM6Request cseq a.rtspUrl a.localRtpPort).stringify).2.log →
      Supervised (a.sendRequest .m6 a.rtspUrl fun cseq =>
        (wfdRtspM6Request cseq a.rtspUrl a.localRtpPort).stringify).2 awaited :=
    h.sendRequest (by simp) hclient
  rw [SinkApp.sendM6Request] at hlive ⊢
  simp only at hlive ⊢
  split at hlive
  · rename_i hok
    rw [if_pos hok]
    exact (hsent hlive.before).frame rfl rfl (by simp [enter, note]) rfl rfl
  · rename_i hok
    rw [if_neg hok]
    exact hsent hlive

theorem Supervised.handleTriggerMethod (h : Supervised a awaited) (cseq : Int) (method : Text)
    (hlive : Live (a.handleTriggerMethod cseq method).log) :
    Supervised (a.handleTriggerMethod cseq method)
      (if method = "SETUP".toList then none else awaited) := by
  rw [SinkApp.handleTriggerMethod] at hlive ⊢
  by_cases hsetup : method = "SETUP".toList
  · rw [if_pos hsetup] at hlive
    rw [if_pos hsetup, if_pos hsetup]
    simp only at hlive ⊢
    split at hlive
    · rename_i hok
      rw [if_pos hok]
      have hquiet := quietly_sendCommonResponse (a.note .m5Received).stopTimer cseq
      have hstopped : Supervisable (a.note .m5Received).stopTimer :=
        h.toSupervisable.frame rfl rfl h.state rfl (stopTimer_isSome a)
      have hsends := (sendCommonResponse_fst _ cseq).mp hok
      have hanswered := hstopped.quietly hquiet (by rw [sendCommonResponse_timer])
      exact hanswered.sendM6Request (hquiet.client.trans hsends.1) hlive
    · exact absurd hlive (not_live_error _ _)
  · rw [if_neg hsetup] at hlive
    rw [if_neg hsetup, if_neg hsetup]
    split at hlive
    · rename_i hteardown
      rw [if_pos hteardown]
      simp only at hlive ⊢
      split at hlive
      · rename_i hok
        rw [if_pos hok]
        have hanswered := h.quietly (quietly_sendCommonResponse a cseq) (sendCommonResponse_timer a cseq)
        exact hanswered.sendM8Request hlive
      · exact absurd hlive (not_live_error _ _)
    · rename_i hteardown
      rw [if_neg hteardown]
      exact h

theorem Supervised.handleRequest (h : Supervised a awaited) {request : RtspRequest} {message : Text}
    (hok : a.KeepsSupervision awaited (.request request message))
    (hlive : Live (a.handleRequest request message).log) (hbefore : Live a.log) :
    Supervised (a.handleRequest request message) (a.awaits awaited (.request request message)) := by
  have hkind := handleRequest_kind a request message
  generalize a.handleRequest request message = b at hkind hlive ⊢
  rw [awaits]
  cases hkind with
  | ignored hm4 htrigger =>
    have hsetup : trigger? request ≠ some "SETUP".toList := by
      rw [htrigger]
      simp
    rw [if_neg hm4, if_neg hsetup]
    refine ⟨h.toSupervisable, h.answers, fun hnil hnone => h.healthy hnil ?_⟩
    by_cases hoptions : request.method = "OPTIONS".toList
    · rw [if_pos hoptions] at hnone
      cases hnone
    · rw [if_neg hoptions] at hnone
      split at hnone
      · split at hnone
        · cases hnone
        · exact hnone
      · exact hnone
  | options hmethod =>
    rw [if_pos hmethod]
    exact h.handleOptionsRequest request.cSeq hlive
  | getParam hmethod =>
    rw [if_neg (by rw [hmethod]; decide), if_pos hmethod]
    exact h.handleGetParamRequest request.cSeq request.body hlive
  | trigger htrigger =>
    rename_i method
    have hmethod := method_of_trigger? htrigger
    have hm4 : ¬ IsM4 request := by
      intro hm4
      rw [trigger?, if_pos hmethod, hm4.2.2] at htrigger
      cases htrigger
    rw [if_neg (by rw [hmethod]; decide), if_neg (by rw [hmethod]; decide), if_neg hm4, htrigger]
    simp only [Option.some.injEq]
    exact h.handleTriggerMethod request.cSeq method hlive
  | m4 hm4 hb htimer =>
    rw [if_neg (by rw [hm4.1]; decide), if_neg (by rw [hm4.1]; decide), if_pos hm4]
    obtain ⟨new, hlog, -⟩ := hb.log
    rw [hlog] at hlive
    refine (h.handleM4Request message ?_ hlive.before).quietly hb htimer
    exact fun hcast hsends => h.noneWaits_iff.mp (hok hbefore hm4 hcast hsends)

theorem Supervisable.answered (h : Supervisable a) (request : SinkRequest) (cseq status : Int) :
    Supervisable (a.answered request cseq status) where
  client := by
    intro hclosed
    change a.unanswered.filter _ = []
    rw [h.client hclosed]
    rfl
  timer := h.timer
  m8 := h.m8
  state := h.state
  waiting := fun p hp => h.waiting p (List.mem_filter.mp hp).1

theorem Supervised.erased (h : Supervised a awaited) (cseq : Int) : Supervised (a.erased cseq) awaited where
  client := h.client
  timer := h.timer
  m8 := by
    intro c hc
    change Function.update a.responseHandlers cseq none c = some .m8 at hc
    exact h.m8 c (PartialMap.eq_some_of_erase hc).2
  state := h.state
  waiting := h.waiting
  answers := h.answers
  healthy := h.healthy

/-- The timer starts for M3, whatever it has been waiting for. -/
theorem Supervisable.handleM2Response (h : Supervisable a) (response : RtspResponse)
    (hlive : Live (a.handleM2Response response).log)
    (hwaits : response.status = rtspStatusOk →
      sinkSupportsMethods ((response.tokens.find? rtspTokenPublic).getD []) = true →
        a.unanswered = [] → awaited ≠ none) : Supervised (a.handleM2Response response) awaited := by
  have hstarted : Supervisable (a.startTimer 6) := h.frame rfl rfl h.state rfl (startTimer_isSome a 6)
  rw [SinkApp.handleM2Response] at hlive ⊢
  simp only at hlive ⊢
  split at hlive
  · exact absurd hlive (not_live_error _ _)
  · rename_i hstatus
    rw [if_neg hstatus]
    rw [not_not] at hstatus
    by_cases hsupports :
        sinkSupportsMethods ((response.tokens.find? rtspTokenPublic).getD []) = true
    · rw [if_pos hsupports]
      have hwatched : Supervised (a.startTimer 6) awaited :=
        hstarted.armed (b := a) rfl (hwaits hstatus hsupports)
      split
      · exact hwatched.frame rfl rfl h.state rfl rfl
      · exact hwatched
    · rw [if_neg hsupports] at hlive
      split at hlive
      · exact absurd hlive.before (not_live_error _ _)
      · exact absurd hlive (not_live_error _ _)

theorem Supervisable.handleM6Response (h : Supervisable a) (response : RtspResponse)
    (hlive : Live (a.handleM6Response response).log) :
    Supervised (a.handleM6Response response) awaited := by
  have hstopped : Supervisable a.stopTimer := h.frame rfl rfl h.state rfl (stopTimer_isSome a)
  rw [SinkApp.handleM6Response] at hlive ⊢
  simp only at hlive ⊢
  split at hlive
  · exact absurd hlive (not_live_error _ _)
  · rename_i hstatus
    rw [if_neg hstatus]
    generalize hb : ({ a.stopTimer with
      rtspSession := response.session
      keepAliveTimeout := if response.timeout < wfdKeepAliveTimeoutMin then wfdKeepAliveTimeoutDefault
        else response.timeout } : SinkApp) = b at hlive ⊢
    have hbase : Supervisable b := by
      rw [← hb]
      exact hstopped.frame rfl rfl h.state rfl rfl
    have htimer : b.timeoutTimer = a.stopTimer.timeoutTimer := by rw [← hb]
    by_cases hclient : b.rtspClient = true
    · exact hbase.sendRequest (by simp) hclient hlive
    · rw [SinkApp.sendM7Request, SinkApp.sendRequest, if_pos hclient]
      exact hbase.stopped (hbase.client (by simpa using hclient)) htimer

theorem Supervisable.handleM7Response (h : Supervisable a) (response : RtspResponse)
    (hlive : Live (a.handleM7Response response).log)
    (hwaits : response.status = rtspStatusOk → a.unanswered = []) :
    Supervised (a.handleM7Response response) awaited := by
  rw [SinkApp.handleM7Response] at hlive ⊢
  simp only at hlive ⊢
  split at hlive
  · exact absurd hlive (not_live_error _ _)
  · rename_i hstatus
    rw [if_neg hstatus]
    have hbase : Supervisable a.stopTimer := h.frame rfl rfl h.state rfl (stopTimer_isSome a)
    have hstopped : Supervised a.stopTimer awaited :=
      hbase.stopped (b := a) (hwaits (not_not.mp hstatus)) rfl
    exact hstopped.frame rfl rfl (by simp [enter, note, notifyAgentPrivateEvent]) rfl rfl

theorem Supervisable.handleCommonResponse (h : Supervisable a) (response : RtspResponse)
    (hlive : Live (a.handleCommonResponse response).log)
    (hwaits : response.status = rtspStatusOk → a.unanswered = []) :
    Supervised (a.handleCommonResponse response) awaited := by
  rw [SinkApp.handleCommonResponse] at hlive ⊢
  split at hlive
  · exact absurd hlive (not_live_error _ _)
  · rename_i hstatus
    rw [if_neg hstatus]
    have hbase : Supervisable a.stopTimer := h.frame rfl rfl h.state rfl (stopTimer_isSome a)
    exact hbase.stopped (b := a) (hwaits (not_not.mp hstatus)) rfl

theorem Supervised.handleResponse (h : Supervised a awaited) {response : RtspResponse}
    (hok : a.KeepsSupervision awaited (.response response))
    (hlive : Live (a.handleResponse response).log) (hbefore : Live a.log) :
    Supervised (a.handleResponse response) awaited := by
  cases hhandler : a.responseHandlers response.cSeq with
  | none =>
    rw [handleResponse_none hhandler]
    exact h
  | some request =>
    rw [handleResponse_some hhandler] at hlive ⊢
    have hbase := h.toSupervisable.answered request response.cSeq response.status
    refine Supervised.erased ?_ response.cSeq
    cases request with
    | m2 =>
      refine hbase.handleM2Response response hlive fun hstatus hsupports hnil hnone => ?_
      exact (hok hbefore hstatus).1 hhandler hsupports hnone (hbase.noneWaits_iff.mpr hnil)
    | m6 => exact hbase.handleM6Response response hlive
    | m7 =>
      refine hbase.handleM7Response response hlive fun hstatus => ?_
      exact hbase.noneWaits_iff.mp ((hok hbefore hstatus).2 (.inl hhandler))
    | m8 => exact absurd hhandler (h.m8 _)
    | idr =>
      refine hbase.handleCommonResponse response hlive fun hstatus => ?_
      exact hbase.noneWaits_iff.mp ((hok hbefore hstatus).2 (.inr hhandler))

end SinkApp

end WifiDisplay
