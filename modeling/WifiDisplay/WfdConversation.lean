import WifiDisplay.WfdSourceUtterances

/-! A source and a sink of a wireless display with the messages on their way between them: what each of the
two does to its half of the state when it reads a message of the other, and when it reads none. -/

namespace WifiDisplay

namespace SinkApp

/-- Every request went out under a CSeq of its own: no handler of another one stands under it, and it is none
of those to come. -/
def Numbered (a : SinkApp) : Prop :=
  ∀ request cseq url, .sent request cseq url ∈ a.log →
    cseq ≤ a.cseq ∧ ∀ handler, a.responseHandlers cseq = some handler → handler = request

variable {a b : SinkApp}

theorem Numbered.of_log (h : a.Numbered) (hcseq : b.cseq = a.cseq) (hhandlers : b.responseHandlers = a.responseHandlers)
    (hlog : ∀ request cseq url, .sent request cseq url ∈ b.log → .sent request cseq url ∈ a.log) : b.Numbered := by
  intro request cseq url hsent
  rw [hcseq, hhandlers]
  exact h request cseq url (hlog request cseq url hsent)

theorem Numbered.quietly : KeptQuietly Numbered := by
  intro a b h hq
  obtain ⟨new, hlog, hnew⟩ := hq.log
  refine h.of_log hq.cseq hq.handlers fun request cseq url hsent => ?_
  rw [hlog] at hsent
  rcases List.mem_append.mp hsent with hsent | hsent
  · exact hsent
  · exact (hnew _ hsent).elim

theorem Numbered.note (h : a.Numbered) {e : SinkEvent} (he : ∀ request cseq url, e ≠ .sent request cseq url) :
    (a.note e).Numbered := by
  refine h.of_log rfl rfl fun request cseq url hsent => ?_
  rcases List.mem_append.mp hsent with hsent | hsent
  · exact hsent
  · exact absurd (List.mem_singleton.mp hsent).symm (he request cseq url)

/-- The next CSeq is taken, whatever becomes of its handler. -/
theorem Numbered.skipped (h : a.Numbered) (hmax : a.cseq ≠ maxCSeq) {handler : Option SinkRequest}
    (hcseq : b.cseq = nextCSeq a.cseq)
    (hhandlers : b.responseHandlers = Function.update a.responseHandlers (nextCSeq a.cseq) handler)
    (hlog : b.log = a.log) : b.Numbered := by
  intro request cseq url hsent
  rw [hlog] at hsent
  obtain ⟨hle, hhandler⟩ := h request cseq url hsent
  rw [nextCSeq_eq hmax] at hcseq hhandlers
  refine ⟨by omega, ?_⟩
  rwa [hhandlers, Function.update_of_ne (by omega)]

theorem Numbered.launched (h : a.Numbered) (hmax : a.cseq ≠ maxCSeq) (request : SinkRequest) (url : Text) :
    ((a.register request).launched request url).Numbered := by
  have hregistered : (a.register request).Numbered := h.skipped hmax rfl rfl rfl
  intro request' cseq url' hsent
  rcases List.mem_append.mp hsent with hsent | hsent
  · exact hregistered request' cseq url' hsent
  · obtain ⟨rfl, rfl, rfl⟩ := SinkEvent.sent.inj (List.mem_singleton.mp hsent)
    refine ⟨Int.le_refl _, fun handler hhandler => ?_⟩
    change Function.update a.responseHandlers (nextCSeq a.cseq) (some request') (nextCSeq a.cseq) = some handler at hhandler
    rw [Function.update_self] at hhandler
    exact (Option.some.inj hhandler).symm

theorem Numbered.unregistered (h : a.Numbered) (hmax : a.cseq ≠ maxCSeq) (request : SinkRequest) :
    (a.register request).unregister.Numbered :=
  h.skipped hmax rfl (a.unregister_handlers request) rfl

theorem Numbered.sendRequest (h : a.Numbered) (hmax : a.cseq ≠ maxCSeq) (request : SinkRequest) (url : Text)
    (text : Int → Text) : (a.sendRequest request url text).2.Numbered :=
  sendRequest_keeps Numbered.quietly h (h.launched hmax request url) (h.unregistered hmax request)

theorem Numbered.enter (h : a.Numbered) (state : WfdSinkState) : (a.enter state).Numbered :=
  Numbered.note (h.of_log (b := { a with wfdState := state }) rfl rfl fun _ _ _ hsent => hsent) (by simp)

theorem Numbered.sendM6Request (h : a.Numbered) (hmax : a.cseq ≠ maxCSeq) : a.sendM6Request.2.Numbered := by
  refine sendM6Request_keeps Numbered.quietly h ?_ (h.unregistered hmax .m6)
  intro b hq _
  exact ((h.launched hmax .m6 a.rtspUrl).quietly hq).enter .ready

theorem Numbered.sendM8Request (h : a.Numbered) (hmax : a.cseq ≠ maxCSeq) : a.sendM8Request.2.Numbered := by
  refine sendM8Request_keeps Numbered.quietly h ?_
  intro b hq
  rcases hq with hsent | hfailed
  · exact ((h.launched hmax .m8 a.rtspUrl).quietly hsent).enter .stopping
  · exact ((h.unregistered hmax .m8).quietly hfailed).enter .stopping

theorem Numbered.sendIDRRequest (h : a.Numbered) (hmax : a.cseq ≠ maxCSeq) : a.sendIDRRequest.2.Numbered :=
  sendIDRRequest_keeps Numbered.quietly h (h.launched hmax .idr a.rtspUrl) (h.skipped hmax rfl rfl rfl)

/-- The CSeqs go on from that of the OPTIONS. -/
theorem Numbered.handleOptionsRequest (h : a.Numbered) {cseq : Int} (hmax : cseq ≠ maxCSeq) (hle : a.cseq ≤ cseq) :
    (a.handleOptionsRequest cseq).Numbered := by
  rw [SinkApp.handleOptionsRequest]
  simp only
  generalize hb : ({ a.stopTimer with isFirstCast := true, isFirstCreateProsumer := true } : SinkApp) = b
  have hnumbered : b.Numbered ∧ b.cseq = a.cseq := by
    rw [← hb]
    exact ⟨h.of_log rfl rfl fun _ _ _ hsent => hsent, rfl⟩
  rcases b.sendM1Response_cases cseq with ⟨hclient, hsame⟩ | ⟨-, hanswered⟩
  · rw [hsame, sendM2Request, SinkApp.sendRequest, if_pos (by simp [hclient])]
    exact hnumbered.1
  · have htaken : Numbered { b with cseq } := by
      intro request n url hsent
      obtain ⟨hn, hhandler⟩ := hnumbered.1 request n url hsent
      exact ⟨Int.le_trans (Int.le_trans hn (Int.le_of_eq hnumbered.2)) hle, hhandler⟩
    have hm1 : (b.sendM1Response cseq).2.Numbered ∧ (b.sendM1Response cseq).2.cseq = cseq := by
      rcases hanswered with hq | hq
      · exact ⟨htaken.quietly hq, hq.cseq⟩
      · exact ⟨(Numbered.note htaken (by simp)).quietly hq, hq.cseq⟩
    exact hm1.1.sendRequest (by rwa [hm1.2]) .m2 ['*'] _

theorem Numbered.handleRequest (h : a.Numbered) (hmax : a.cseq ≠ maxCSeq) {request : RtspRequest} {message : Text}
    (hoptions : request.method = "OPTIONS".toList → request.cSeq ≠ maxCSeq ∧ a.cseq ≤ request.cSeq) :
    (a.handleRequest request message).Numbered := by
  refine handleRequest_keeps Numbered.quietly h ?_ (h.note (by simp)) ?_ ?_ ?_
  · intro hmethod
    exact h.handleOptionsRequest (hoptions hmethod).1 (hoptions hmethod).2
  · intro method _
    refine handleTriggerMethod_keeps Numbered.quietly h (h.note (by simp)) ?_ ?_
    · intro b _ _ hq _
      exact ((h.note (by simp)).quietly hq).sendM6Request (by rwa [hq.cseq])
    · intro b hq
      exact (h.quietly hq).sendM8Request (by rwa [hq.cseq])
  · exact fun _ => h.of_log rfl rfl fun _ _ _ hsent => hsent
  · intro _
    have htaken : Numbered { a with rtspUrl := m4Url message } := h.of_log rfl rfl fun _ _ _ hsent => hsent
    exact Numbered.note htaken (by simp)

theorem Numbered.erased (h : a.Numbered) (cseq : Int) : (a.erased cseq).Numbered := by
  intro request n url hsent
  obtain ⟨hle, hhandler⟩ := h request n url hsent
  exact ⟨hle, fun handler hn => hhandler handler (PartialMap.eq_some_of_erase hn).2⟩

theorem Numbered.handleResponse (h : a.Numbered) (hmax : a.cseq ≠ maxCSeq) (response : RtspResponse) :
    (a.handleResponse response).Numbered := by
  have hread (request : SinkRequest) : (a.answered request response.cSeq response.status).Numbered := by
    refine Numbered.note ?_ (by simp)
    exact h.of_log rfl rfl fun _ _ _ hsent => hsent
  refine handleResponse_keeps (I := Numbered) Numbered.quietly h (fun request _ => hread request) ?_ ?_
    fun b hb => hb.erased response.cSeq
  · intro _ _ b hq
    exact ((hread .m6).quietly hq).sendRequest (by rwa [hq.cseq]) .m7 _ _
  · intro _ _
    exact ((hread .m7).note (by simp)).enter .playing

/-- An action that sends nothing. -/
def Calm : SinkAction → Prop
  | .request _ _ | .response _ | .idr | .teardown => False
  | .setPort _ capabilities => PlainCapabilities capabilities
  | _ => True

theorem calm_cases (a : SinkApp) {action : SinkAction} (h : Calm action) :
    Quietly a (a.act action) ∨ ∃ rtspClient, action = .setClient rtspClient := by
  cases action with
  | request request message => exact h.elim
  | response response => exact h.elim
  | idr => exact h.elim
  | teardown => exact h.elim
  | setClient rtspClient => exact .inr ⟨rtspClient, rfl⟩
  | _ => exact .inl (quietly_act a trivial)

theorem Numbered.calm (h : a.Numbered) {action : SinkAction} (hcalm : Calm action) : (a.act action).Numbered := by
  rcases a.calm_cases hcalm with hq | ⟨rtspClient, rfl⟩
  · exact h.quietly hq
  · exact h.of_log rfl rfl fun _ _ _ hsent => hsent

theorem CSeqOrder.calm (h : a.CSeqOrder) {action : SinkAction} (hcalm : Calm action) : (a.act action).CSeqOrder := by
  rcases a.calm_cases hcalm with hq | ⟨rtspClient, rfl⟩
  · exact h.quietly hq
  · exact h.of_eq rfl rfl rfl

theorem calm_cseq (a : SinkApp) {action : SinkAction} (hcalm : Calm action) :
    (a.act action).cseq = a.cseq ∧ (a.act action).wfdState = a.wfdState := by
  rcases a.calm_cases hcalm with hq | ⟨rtspClient, rfl⟩
  · exact ⟨hq.cseq, hq.state⟩
  · exact ⟨rfl, rfl⟩

theorem Says.calm {u : Option SourceUtterance} {Q : Reasons} {k : ℕ} {a₀ : SinkApp} (h : Says u Q k a₀ a)
    {action : SinkAction} (hcalm : Calm action) : Says u Q k a₀ (a.act action) := by
  cases action with
  | request request message => exact hcalm.elim
  | response response => exact hcalm.elim
  | idr => exact hcalm.elim
  | teardown => exact hcalm.elim
  | setPort localRtpPort capabilities =>
    exact h.silent ⟨h.plain.cseq, h.plain.url, h.plain.session, hcalm, h.plain.network⟩ rfl rfl
  | notify notice => exact h.note (by simp [Reasons.Allow, SinkEvent.stage?])
  | expire => exact h.stopTimer
  | _ => exact h.same rfl rfl rfl rfl rfl rfl rfl

end SinkApp

namespace SinkSession

open SinkApp (Calm)

variable (s : SinkSession)

theorem app_read_interrupting (h : s.interrupting = true) (message : Text) :
    (s.step (.read message)).app = s.interruption.foldl SinkApp.act s.app := by
  rw [step, if_pos h]
  exact s.app_notifyInterrupted

theorem calm_interruption : ∀ action ∈ s.interruption, Calm action := by
  intro action haction
  rw [interruption] at haction
  split at haction
  · rw [List.mem_singleton.mp haction]
    trivial
  · exact absurd haction List.not_mem_nil

/-- A request of the source is handled along with its text. -/
theorem app_read_request (hreads : ¬ s.interrupting = true) {f : RequestFields} (h : (RtspMessage.request f).Sound) :
    ∃ r, f.Carried r ∧ (s.step (.read f.build.stringify)).app = s.app.act (.request r f.build.stringify) := by
  obtain ⟨r, hcarried, hread⟩ := s.readData_requestText sinkHandlers h
  refine ⟨r, hcarried, ?_⟩
  rw [step, if_neg hreads, WfdSinkSession.onClientReadData, if_neg hreads, hread]
  rfl

theorem app_read_response (hreads : ¬ s.interrupting = true) {f : ResponseFields} {date : Text}
    (h : (RtspMessage.response f date).Sound) :
    ∃ r, f.Carried date r ∧ (s.step (.read (f.text date))).app = s.app.act (.response r) := by
  obtain ⟨r, hcarried, hread⟩ := s.readData_responseText sinkHandlers h
  refine ⟨r, hcarried, ?_⟩
  rw [step, if_neg hreads, WfdSinkSession.onClientReadData, if_neg hreads, hread, ← hcarried.cSeq]
  split
  · rfl
  · rename_i hnone
    have hhandler : s.app.responseHandlers r.cSeq = none := by
      have hnone' : ¬ (s.app.responseHandlers r.cSeq).isSome = true := hnone
      simpa using hnone'
    exact (SinkApp.handleResponse_none hhandler).symm

/-- An input that is no read comes down to one request at most. -/
theorem actions_calm {input : SinkInput} (hread : ∀ message, input ≠ .read message)
    (hinit : ∀ port capabilities, input = .sessionInit port capabilities → PlainCapabilities capabilities) :
    (∀ action ∈ s.actions input, Calm action) ∨ ∃ before action after, s.actions input = before ++ action :: after ∧
      (action = .idr ∨ action = .teardown) ∧ (∀ x ∈ before, Calm x) ∧ ∀ x ∈ after, Calm x := by
  have hevent {action : SinkAction} (h : Calm action) : ∀ x ∈ s.eventActions action, Calm x := by
    intro x hx
    rw [eventActions] at hx
    split at hx
    · rw [List.mem_singleton.mp hx]
      trivial
    · rwa [List.mem_singleton.mp hx]
  have hsends {action : SinkAction} (h : action = .idr ∨ action = .teardown) :
      (∀ x ∈ s.eventActions action, Calm x) ∨ ∃ before x after, s.eventActions action = before ++ x :: after ∧
        (x = .idr ∨ x = .teardown) ∧ (∀ x ∈ before, Calm x) ∧ ∀ x ∈ after, Calm x := by
    rw [eventActions]
    split
    · left
      intro x hx
      rw [List.mem_singleton.mp hx]
      trivial
    · exact .inr ⟨[], action, [], rfl, h, List.forall_mem_nil _, List.forall_mem_nil _⟩
  have hends (status : SessionRunningStatus) (notice : SinkNotice) : ∀ x ∈ s.operationEnd status notice, Calm x := by
    intro x hx
    rw [operationEnd] at hx
    split at hx
    · exact absurd hx List.not_mem_nil
    · rw [List.mem_singleton.mp hx]
      trivial
  cases input with
  | operation status creation =>
    rw [actions]
    unfold operationActions
    split
    · left
      simp [Calm]
    · cases status with
      | stop =>
        exact .inr ⟨[.setStatus .stop], .teardown, [.setConnected false, .notify .stopped], rfl, .inr rfl, by simp [Calm],
          by simp [Calm]⟩
      | start =>
        left
        refine List.forall_mem_cons.mpr ⟨trivial, List.forall_mem_cons.mpr ⟨trivial, ?_⟩⟩
        split
        · simp [Calm]
        · exact hends _ _
      | pause => exact .inl (List.forall_mem_cons.mpr ⟨trivial, hends _ _⟩)
      | resume => exact .inl (List.forall_mem_cons.mpr ⟨trivial, hends _ _⟩)
      | destroy => exact .inl (List.forall_mem_cons.mpr ⟨trivial, hends _ _⟩)
      | interrupt => exact .inl (List.forall_mem_cons.mpr ⟨trivial, List.forall_mem_nil _⟩)
  | sessionInit localRtpPort capabilities => exact .inl (hevent (hinit localRtpPort capabilities rfl))
  | prosumerInitState ok => exact .inl (hevent trivial)
  | prosumerCreated => exact .inl (hevent trivial)
  | prosumerResumed => exact hsends (.inl rfl)
  | requestIdr => exact hsends (.inl rfl)
  | teardown => exact hsends (.inr rfl)
  | writeWarning => exact .inl (hevent trivial)
  | read message => exact absurd rfl (hread message)
  | close =>
    left
    refine List.forall_mem_cons.mpr ⟨trivial, ?_⟩
    split
    · exact s.calm_interruption
    · split
      · simp [Calm]
      · exact List.forall_mem_nil _
  | timeout =>
    left
    rw [actions]
    split
    · exact List.forall_mem_nil _
    · refine List.forall_mem_cons.mpr ⟨trivial, ?_⟩
      split
      · split
        · exact s.calm_interruption
        · simp [Calm]
      · simp [Calm]
  | keepAliveTimeout =>
    left
    rw [actions]
    split
    · exact List.forall_mem_nil _
    · simp [Calm]

theorem foldl_calm {I : SinkApp → Prop} (hcalm : ∀ a action, Calm action → I a → I (a.act action)) {a : SinkApp}
    {actions : List SinkAction} (h : I a) (hactions : ∀ action ∈ actions, Calm action) : I (actions.foldl SinkApp.act a) := by
  induction actions generalizing a with
  | nil => exact h
  | cons action actions ih =>
    obtain ⟨haction, hrest⟩ := List.forall_mem_cons.mp hactions
    exact ih (hcalm a action haction h) hrest

/-- What calm actions keep and a request at most leads on to. -/
theorem step_keeps {I J : SinkApp → Prop} {input : SinkInput} (hread : ∀ message, input ≠ .read message)
    (hinit : ∀ port capabilities, input = .sessionInit port capabilities → PlainCapabilities capabilities)
    (hcalm : ∀ a action, Calm action → I a → I (a.act action)) (hcalmJ : ∀ a action, Calm action → J a → J (a.act action))
    (hidr : ∀ a, I a → J a.sendIDRRequest.2) (hteardown : ∀ a, I a → J a.sendM8Request.2) (hIJ : ∀ a, I a → J a)
    (h : I s.app) : J (s.step input).app := by
  rw [app_step]
  rcases s.actions_calm hread hinit with hall | ⟨before, action, after, hactions, hsends, hbefore, hafter⟩
  · exact hIJ _ (foldl_calm hcalm h hall)
  · rw [hactions, List.foldl_append, List.foldl_cons]
    refine foldl_calm hcalmJ ?_ hafter
    rcases hsends with rfl | rfl
    · exact hidr _ (foldl_calm hcalm h hbefore)
    · exact hteardown _ (foldl_calm hcalm h hbefore)

end SinkSession

namespace SourceSession

variable (s : SourceSession)

def sent : List Text :=
  match s.app with
  | .ok a => a.sent
  | .error _ => []

def log : List SourceEvent :=
  match s.app with
  | .ok a => a.log
  | .error _ => []

/-- A request of the sink is handled. -/
theorem read_request {f : RequestFields} (h : (RtspMessage.request f).Sound) :
    ∃ r, f.Carried r ∧ (step s (.read s.rtspServerFd f.build.stringify)).app = s.app.map (·.handleRequest r) ∧
      (step s (.read s.rtspServerFd f.build.stringify)).dispatched = s.dispatched ++ [.request r] := by
  obtain ⟨r, hcarried, hread⟩ := s.readData_requestText sourceHandlers.all h
  refine ⟨r, hcarried, ?_⟩
  rw [step, WfdSourceSession.onServerReadData, if_neg (not_not.mpr rfl), hread]
  exact ⟨rfl, rfl⟩

theorem read_response {f : ResponseFields} {date : Text} (h : (RtspMessage.response f date).Sound) :
    ∃ r, f.Carried date r ∧ (step s (.read s.rtspServerFd (f.text date))).app = s.app >>= (·.handleResponse r) ∧
      (step s (.read s.rtspServerFd (f.text date))).dispatched = s.dispatched ++ [.response r] := by
  obtain ⟨r, hcarried, hread⟩ := s.readData_responseText sourceHandlers.all h
  refine ⟨r, hcarried, ?_⟩
  rw [step, WfdSourceSession.onServerReadData, if_neg (not_not.mpr rfl), hread]
  exact ⟨rfl, rfl⟩

end SourceSession

/-- A source and a sink with the messages on their way between them, and the stages of the handshake in the
order in which the two have reached them. -/
structure WfdConversation where
  source : SourceSession
  sink : SinkSession
  toSink : List Text := []
  toSource : List Text := []
  stages : List HandshakeStage := []

/-- Something happens to one of the two, the next message is read, or one on the way is lost. -/
inductive ConversationInput where
  | source (input : SourceInput)
  | sink (input : SinkInput)
  | sourceReads
  | sinkReads
  | sourceLoses (n : ℕ)
  | sinkLoses (n : ℕ)

namespace WfdConversation

variable (c : WfdConversation)

def sourceDoes (input : SourceInput) : WfdConversation :=
  let source := c.source.step input
  { c with
    source
    toSink := c.toSink ++ source.sent.drop c.source.sent.length
    stages := c.stages ++ (source.log.drop c.source.log.length).filterMap SourceEvent.stage? }

def sinkDoes (input : SinkInput) : WfdConversation :=
  let sink := c.sink.step input
  { c with
    sink
    toSource := c.toSource ++ sink.app.sent.drop c.sink.app.sent.length
    stages := c.stages ++ (sink.app.log.drop c.sink.app.log.length).filterMap SinkEvent.stage? }

def step : ConversationInput → WfdConversation
  | .source input => c.sourceDoes input
  | .sink input => c.sinkDoes input
  | .sourceReads =>
    match c.toSource with
    | [] => c
    | text :: toSource => { c with toSource }.sourceDoes (.read c.source.rtspServerFd text)
  | .sinkReads =>
    match c.toSink with
    | [] => c
    | text :: toSink => { c with toSink }.sinkDoes (.read text)
  | .sourceLoses n => { c with toSource := c.toSource.eraseIdx n }
  | .sinkLoses n => { c with toSink := c.toSink.eraseIdx n }

/-- The source reads from the one connection that it has accepted, and keeps it alive once it plays. The agents
give plain texts. The sink does not get to the last CSeq of its type. -/
def Regular : ConversationInput → Prop
  | .source (.sessionInit ip _ _) => PlainIp ip
  | .source (.accept fd localIp _) => c.source.rtspServerFd = 0 ∧ fd ≠ 0 ∧ PlainIp localIp
  | .source (.read _ _) => False
  | .source .keepAlive => .played ∈ c.stages
  | .sink (.sessionInit _ capabilities) => PlainCapabilities capabilities ∧ c.sink.app.cseq ≠ SinkApp.maxCSeq
  | .sink (.read _) => False
  | .sink _ => c.sink.app.cseq ≠ SinkApp.maxCSeq
  | .sourceReads => c.source.rtspServerFd ≠ 0
  | .sinkReads => c.sink.app.cseq ≠ SinkApp.maxCSeq
  | _ => True

/-- Neither of the two has done anything yet. -/
def new (sessionId : Text) (sourceNetwork sinkNetwork : List Sending) : WfdConversation :=
  { source := { app := .ok { sessionId, network := sourceNetwork }, rtspServerFd := 0 }
    sink := .new sinkNetwork }

end WfdConversation

abbrev ConversationRun (init : WfdConversation) (inputs : List ConversationInput) (c : WfdConversation) : Prop :=
  GuardedRun (fun c input => (.ok (WfdConversation.step c input) : Except Fault WfdConversation))
    WfdConversation.Regular init inputs c

end WifiDisplay
