import WifiDisplay.WfdConversationTexts
import WifiDisplay.WfdSinkCSeqs

/-! What the source and the sink of a wireless display say in one step, and what makes them say it. -/

namespace WifiDisplay

open RtspCommon

/-- The stages of the handshake that one party reaches by reading what the other has said. -/
inductive HandshakeStage where
  | m2Sent | m2Answered | m3Answered | m3Accepted | m4Accepted | m5Sent
  | m6Sent | m6Answered | m7Sent | played | rtspPlayed
  deriving DecidableEq, Repr

namespace HandshakeStage

def all : List HandshakeStage :=
  [.m2Sent, .m2Answered, .m3Answered, .m3Accepted, .m4Accepted, .m5Sent, .m6Sent, .m6Answered, .m7Sent, .played,
    .rtspPlayed]

/-- The stage of the other party that a stage follows. -/
def before : HandshakeStage → Option HandshakeStage
  | .m2Sent => none
  | .m2Answered => some .m2Sent
  | .m3Answered => some .m2Answered
  | .m3Accepted => some .m3Answered
  | .m4Accepted => some .m3Accepted
  | .m5Sent => some .m4Accepted
  | .m6Sent => some .m5Sent
  | .m6Answered => some .m6Sent
  | .m7Sent => some .m6Answered
  | .played => some .m7Sent
  | .rtspPlayed => some .played

end HandshakeStage

def SourceEvent.stage? : SourceEvent → Option HandshakeStage
  | .m2Answered => some .m2Answered
  | .m3Accepted => some .m3Accepted
  | .m5Sent => some .m5Sent
  | .m6Answered => some .m6Answered
  | .played => some .played
  | _ => none

def SinkEvent.stage? : SinkEvent → Option HandshakeStage
  | .sent .m2 _ _ => some .m2Sent
  | .m3Answered => some .m3Answered
  | .m4Accepted _ => some .m4Accepted
  | .sent .m6 _ _ => some .m6Sent
  | .sent .m7 _ _ => some .m7Sent
  | .privateEvent .rtspPlayed => some .rtspPlayed
  | _ => none

/-- The stage that the sink can reach when it handles a request of the source. -/
def SourceRequest.handledAt : SourceRequest → Option HandshakeStage
  | .m1 => some .m2Sent
  | .m3 => some .m3Answered
  | .m4 _ _ => some .m4Accepted
  | .m5 => some .m6Sent
  | .m16 => none

/-- The stage that the source can reach when its request is answered. -/
def SourceRequest.settledAt : SourceRequest → Option HandshakeStage
  | .m3 => some .m3Accepted
  | .m4 _ _ => some .m5Sent
  | _ => none

def SinkRequest.handledAt : SinkRequest → Option HandshakeStage
  | .m2 => some .m2Answered
  | .m6 => some .m6Answered
  | .m7 => some .played
  | _ => none

def SinkRequest.settledAt : SinkRequest → Option HandshakeStage
  | .m6 => some .m7Sent
  | .m7 => some .rtspPlayed
  | _ => none

/-- A request of the source, or its answer to one of the sink. -/
inductive SourceUtterance where
  | asks (request : SourceRequest) (cSeq : ℕ) (session : Text)
  | answers (request : SinkRequest) (fields : ResponseFields) (date : Text)

inductive SinkUtterance where
  | asks (request : SinkRequest) (cSeq : Int) (url session : Text) (port : BitVec 16)
  | answers (request : SourceRequest) (fields : ResponseFields) (date : Text)

namespace SourceUtterance

def message : SourceUtterance → RtspMessage
  | asks request cSeq session => .request (request.fields cSeq session)
  | answers _ fields date => .response fields date

/-- What goes into the message is well-formed. -/
def Plain : SourceUtterance → Prop
  | asks request cSeq session => request.Plain ∧ cSeq < 2 ^ 16 ∧ PlainSession session
  | answers _ fields date => (RtspMessage.response fields date).Sound

theorem isCSeq_of_lt {cSeq : ℕ} (h : cSeq < 2 ^ 16) : IsCSeq cSeq := ⟨Int.natCast_nonneg _, by omega⟩

theorem Plain.sound {u : SourceUtterance} (h : u.Plain) : u.message.Sound := by
  cases u with
  | asks request cSeq session => exact SourceRequest.sound h.1 (isCSeq_of_lt h.2.1) h.2.2
  | answers request fields date => exact h

/-- The stage that the sink can reach when it reads this. -/
def leadsTo : SourceUtterance → Option HandshakeStage
  | asks request _ _ => request.handledAt
  | answers request _ _ => request.settledAt

end SourceUtterance

namespace SinkUtterance

def message : SinkUtterance → RtspMessage
  | asks request cSeq url session port => .request (request.fields cSeq url session port)
  | answers _ fields date => .response fields date

/-- The stage that the source can reach when it reads this. -/
def leadsTo : SinkUtterance → Option HandshakeStage
  | asks request _ _ _ _ => request.handledAt
  | answers request _ _ => request.settledAt

def isRequest : SinkUtterance → Bool
  | asks _ _ _ _ _ => true
  | answers _ _ _ => false

/-- What is said has its reason in what was read and noted. -/
structure Meant (u : Option SourceUtterance) (events : List SinkEvent) (v : SinkUtterance) : Prop where
  sound : v.message.Sound
  backed : ∀ stage ∈ v.leadsTo, ∀ p ∈ stage.before, ∃ e ∈ events, e.stage? = some p
  sent : ∀ request cSeq url session port, v = asks request cSeq url session port → .sent request cSeq url ∈ events
  answers : ∀ request fields date, v = answers request fields date → fields.status = rtspStatusOk ∧
    ∃ (cSeq : ℕ) (session : Text), u = some (.asks request cSeq session) ∧ fields.cSeq = cSeq

theorem Meant.mono {u : Option SourceUtterance} {events events' : List SinkEvent} {v : SinkUtterance}
    (h : v.Meant u events) (hsub : events ⊆ events') : v.Meant u events' where
  sound := h.sound
  backed stage hstage p hp := by
    obtain ⟨e, he, hp⟩ := h.backed stage hstage p hp
    exact ⟨e, hsub he, hp⟩
  sent request cSeq url session port hv := hsub (h.sent request cSeq url session port hv)
  answers := h.answers

end SinkUtterance

namespace SinkApp

/-- What goes into the messages is well-formed. -/
structure Plain (a : SinkApp) : Prop where
  cseq : 0 ≤ a.cseq ∧ a.cseq ≤ maxCSeq
  url : ' ' ∉ a.rtspUrl ∧ LineText a.rtspUrl
  session : PlainSession a.rtspSession
  capabilities : PlainCapabilities a.capabilities
  network : ∀ sending ∈ a.network, LineText sending.date

theorem Plain.of_eq {a b : SinkApp} (h : a.Plain) (hcseq : b.cseq = a.cseq) (hurl : b.rtspUrl = a.rtspUrl)
    (hsession : b.rtspSession = a.rtspSession) (hcapabilities : b.capabilities = a.capabilities)
    (hnetwork : b.network = a.network) : b.Plain := by
  refine ⟨?_, ?_, ?_, ?_, ?_⟩
  · rw [hcseq]
    exact h.cseq
  · rw [hurl]
    exact h.url
  · rw [hsession]
    exact h.session
  · rw [hcapabilities]
    exact h.capabilities
  · rw [hnetwork]
    exact h.network

/-- The stages that a step may reach, and the answers that it may take. -/
structure Reasons where
  stage : HandshakeStage → Prop
  answer : SinkRequest → Int → Int → Prop

def Reasons.Allow (Q : Reasons) (e : SinkEvent) : Prop :=
  (∀ stage ∈ e.stage?, Q.stage stage) ∧ ∀ request cSeq status, e = .answered request cSeq status →
    Q.answer request cSeq status

theorem Reasons.allow_stage {Q : Reasons} {e : SinkEvent} {stage : HandshakeStage} (he : e.stage? = some stage)
    (hstage : Q.stage stage) : Q.Allow e := by
  refine ⟨fun stage' hs => ?_, ?_⟩
  · rw [he] at hs
    cases hs
    exact hstage
  · rintro _ _ _ rfl
    cases he

/-- What is said between two moments of a step in which `u` is read: no more than `k` requests. -/
structure Says (u : Option SourceUtterance) (Q : Reasons) (k : ℕ) (a₀ a : SinkApp) : Prop where
  plain : a.Plain
  said : ∃ (vs : List SinkUtterance) (events : List SinkEvent), a.sent = a₀.sent ++ vs.map (·.message.text) ∧
    a.log = a₀.log ++ events ∧ (∀ v ∈ vs, v.Meant u events) ∧ (∀ e ∈ events, Q.Allow e) ∧
    vs.countP SinkUtterance.isRequest ≤ k

variable {u : Option SourceUtterance} {Q : Reasons} {k n : ℕ} {a₀ a b : SinkApp}

theorem Plain.date (h : a.Plain) : LineText (a.network.headD {}).date := by
  cases hnetwork : a.network with
  | nil => exact (by decide : LineText [])
  | cons sending network => exact h.network sending (by simp [hnetwork])

theorem Says.refl (h : a.Plain) : Says u Q 0 a a :=
  ⟨h, [], [], (List.append_nil _).symm, (List.append_nil _).symm, List.forall_mem_nil _, List.forall_mem_nil _,
    Nat.le_refl 0⟩

theorem Says.more (h : Says u Q k a₀ a) : Says u Q (k + 1) a₀ a := by
  obtain ⟨hplain, vs, events, hsent, hlog, hmeant, hevents, hcount⟩ := h
  exact ⟨hplain, vs, events, hsent, hlog, hmeant, hevents, Nat.le_succ_of_le hcount⟩

/-- What is said next, and what is noted along with it. -/
theorem Says.append (vs : List SinkUtterance) (events : List SinkEvent) (h : Says u Q k a₀ a) (hplain : b.Plain)
    (hsent : b.sent = a.sent ++ vs.map (·.message.text)) (hlog : b.log = a.log ++ events)
    (hvs : ∀ v ∈ vs, v.Meant u events) (hevents : ∀ e ∈ events, Q.Allow e)
    (hcount : vs.countP SinkUtterance.isRequest ≤ n) : Says u Q (k + n) a₀ b := by
  obtain ⟨us, before, hus, hbefore, hmeant, hstages, hbound⟩ := h.said
  refine ⟨hplain, us ++ vs, before ++ events, ?_, ?_, ?_, ?_, ?_⟩
  · rw [hsent, hus, List.map_append, List.append_assoc]
  · rw [hlog, hbefore, List.append_assoc]
  · intro v hv
    rcases List.mem_append.mp hv with hv | hv
    · exact (hmeant v hv).mono (List.subset_append_left _ _)
    · exact (hvs v hv).mono (List.subset_append_right _ _)
  · intro e he
    rcases List.mem_append.mp he with he | he
    · exact hstages e he
    · exact hevents e he
  · rw [List.countP_append]
    exact Nat.add_le_add hbound hcount

theorem Says.silent (h : Says u Q k a₀ a) (hplain : b.Plain) (hsent : b.sent = a.sent) (hlog : b.log = a.log) :
    Says u Q k a₀ b :=
  h.append [] [] (n := 0) hplain (by simp [hsent]) (by simp [hlog]) (List.forall_mem_nil _)
    (List.forall_mem_nil _) (Nat.le_refl 0)

theorem Says.same (h : Says u Q k a₀ a) (hcseq : b.cseq = a.cseq) (hurl : b.rtspUrl = a.rtspUrl)
    (hsession : b.rtspSession = a.rtspSession) (hcapabilities : b.capabilities = a.capabilities)
    (hnetwork : b.network = a.network) (hsent : b.sent = a.sent) (hlog : b.log = a.log) : Says u Q k a₀ b :=
  h.silent (h.plain.of_eq hcseq hurl hsession hcapabilities hnetwork) hsent hlog

theorem Says.note (h : Says u Q k a₀ a) {e : SinkEvent} (he : Q.Allow e) : Says u Q k a₀ (a.note e) := by
  refine h.append [] [e] (n := 0) (h.plain.of_eq rfl rfl rfl rfl rfl) (List.append_nil _).symm rfl
    (List.forall_mem_nil _) ?_ (Nat.le_refl 0)
  intro e' he'
  rwa [List.mem_singleton.mp he']

theorem Says.error (h : Says u Q k a₀ a) (code : SessionErrorCode) : Says u Q k a₀ (a.notifyServiceError code) :=
  h.note (by simp [Reasons.Allow, SinkEvent.stage?])

theorem Says.stopTimer (h : Says u Q k a₀ a) : Says u Q k a₀ a.stopTimer :=
  h.same rfl rfl rfl rfl rfl rfl rfl

theorem Says.startTimer (h : Says u Q k a₀ a) (seconds : Int) : Says u Q k a₀ (a.startTimer seconds) :=
  h.same rfl rfl rfl rfl rfl rfl rfl

theorem Says.enter (h : Says u Q k a₀ a) (state : WfdSinkState) : Says u Q k a₀ (a.enter state) :=
  Says.note (h.same (b := { a with wfdState := state }) rfl rfl rfl rfl rfl rfl rfl) (by simp [Reasons.Allow, SinkEvent.stage?])

theorem Plain.send (h : a.Plain) (text : Text → Text) : (a.send text).2.Plain :=
  ⟨h.cseq, h.url, h.session, h.capabilities, fun sending hs => h.network sending (List.mem_of_mem_tail hs)⟩

theorem Plain.register (h : a.Plain) (hmax : a.cseq ≠ maxCSeq) (request : SinkRequest) :
    (a.register request).Plain := by
  obtain ⟨hlow, hhigh⟩ := h.cseq
  have hnext : (a.register request).cseq = a.cseq + 1 := nextCSeq_eq hmax
  refine ⟨?_, h.url, h.session, h.capabilities, h.network⟩
  rw [hnext]
  omega

theorem Says.register (h : Says u Q k a₀ a) (hmax : a.cseq ≠ maxCSeq) (request : SinkRequest) :
    Says u Q k a₀ (a.register request) := h.silent (h.plain.register hmax request) rfl rfl

theorem Says.unregister (h : Says u Q k a₀ a) : Says u Q k a₀ a.unregister :=
  h.same rfl rfl rfl rfl rfl rfl rfl

/-- The request that `a` has registered last. -/
def asked (a : SinkApp) (request : SinkRequest) (url : Text) : SinkUtterance :=
  .asks request a.cseq url a.rtspSession a.localRtpPort

theorem Says.sendRegistered (request : SinkRequest) (h : Says u Q k a₀ a) {url text : Text}
    (hurl : ' ' ∉ url ∧ LineText url) (htext : text = (a.asked request url).message.text)
    (hstage : Q.Allow (.sent request a.cseq url)) : Says u Q (k + 1) a₀ (a.sendRegistered request url text).2 := by
  have hcseq : IsCSeq a.cseq := by
    obtain ⟨hlow, hhigh⟩ := h.plain.cseq
    rw [maxCSeq] at hhigh
    exact ⟨hlow, by omega⟩
  have hplain := h.plain.send fun _ => text
  have hmeant : (a.asked request url).Meant u [.sent request a.cseq url] := by
    refine ⟨SinkRequest.sound request hcseq hurl h.plain.session, ?_, ?_, ?_⟩
    · intro stage hstage p hp
      refine ⟨_, List.mem_singleton_self _, ?_⟩
      cases request with
      | m2 => cases hstage; cases hp; rfl
      | m6 => cases hstage; cases hp; rfl
      | m7 => cases hstage; cases hp; rfl
      | m8 => cases hstage
      | idr => cases hstage
    · rintro _ _ _ _ _ hasks
      cases hasks
      exact List.mem_singleton_self _
    · intro _ _ _ hanswers
      cases hanswers
  rw [SinkApp.sendRegistered]
  simp only
  split
  · rename_i hok
    refine h.append [a.asked request url] [.sent request a.cseq url] (hplain.of_eq rfl rfl rfl rfl rfl) ?_ rfl ?_ ?_
      (Nat.le_refl 1)
    · rw [List.map_singleton, ← htext]
      exact if_pos hok
    · intro v hv
      rwa [List.mem_singleton.mp hv]
    · intro e he
      rwa [List.mem_singleton.mp he]
  · rename_i hok
    exact (h.silent hplain (if_neg hok) rfl).more

theorem Says.sendRequest (request : SinkRequest) (h : Says u Q k a₀ a) (hmax : a.cseq ≠ maxCSeq) {url : Text}
    {text : Int → Text} (hurl : ' ' ∉ url ∧ LineText url)
    (htext : ∀ cSeq, text cSeq = (SinkUtterance.asks request cSeq url a.rtspSession a.localRtpPort).message.text)
    (hstage : ∀ cSeq, Q.Allow (.sent request cSeq url)) : Says u Q (k + 1) a₀ (a.sendRequest request url text).2 := by
  rw [SinkApp.sendRequest]
  split
  · exact h.more
  · have hsent := ((h.register hmax request).startTimer 5).sendRegistered request hurl (htext _) (hstage _)
    simp only
    split
    · exact hsent
    · exact hsent.unregister.stopTimer.error _

section Requests

variable (h : Says u Q k a₀ a) (hmax : a.cseq ≠ maxCSeq)
include h hmax

theorem Says.sendM2Request (hstage : Q.stage .m2Sent) : Says u Q (k + 1) a₀ a.sendM2Request.2 :=
  h.sendRequest .m2 hmax (by decide) (fun cSeq => optionsFields_text cSeq) fun _ => Reasons.allow_stage rfl hstage

theorem Says.sendM6Request (hstage : Q.stage .m6Sent) : Says u Q (k + 1) a₀ a.sendM6Request.2 := by
  have hsent := h.sendRequest .m6 hmax h.plain.url (fun cSeq => m6_text cSeq _ a.rtspSession _)
    fun _ => Reasons.allow_stage rfl hstage
  rw [SinkApp.sendM6Request]
  simp only
  split
  · exact hsent.enter .ready
  · exact hsent

theorem Says.sendM7Request (hstage : Q.stage .m7Sent) : Says u Q (k + 1) a₀ a.sendM7Request.2 :=
  h.sendRequest .m7 hmax h.plain.url (fun cSeq => m7_text cSeq _ _ a.localRtpPort) fun _ => Reasons.allow_stage rfl hstage

theorem Says.sendM8Request : Says u Q (k + 1) a₀ a.sendM8Request.2 := by
  have hregistered := h.register hmax .m8
  have hsent := hregistered.sendRegistered .m8 hregistered.plain.url (m8_text _ _ _ _)
    (by simp [Reasons.Allow, SinkEvent.stage?])
  rw [SinkApp.sendM8Request]
  split
  · exact h.more
  · split
    · exact h.more
    · simp only
      split
      · exact hsent.enter .stopping
      · exact hsent.unregister.enter .stopping

theorem Says.sendIDRRequest : Says u Q (k + 1) a₀ a.sendIDRRequest.2 := by
  have hregistered := (h.register hmax .idr).startTimer 6
  have hsent := hregistered.sendRegistered .idr hregistered.plain.url (idr_text _ _ _ _)
    (by simp [Reasons.Allow, SinkEvent.stage?])
  rw [SinkApp.sendIDRRequest]
  split
  · exact h.more
  · split
    · exact h.more
    · exact hsent

end Requests

section Answers

variable {request : SourceRequest} {cSeq : ℕ} {session : Text} {fields : ResponseFields}

/-- An answer to the request that is read, and what is noted when it is sent. -/
theorem Says.sendAnswer (fields : ResponseFields) (events : List SinkEvent)
    (h : Says (some (.asks request cSeq session)) Q k a₀ a) {text : Text → Text}
    (hsound : ∀ date, LineText date → (RtspMessage.response fields date).Sound) (hstatus : fields.status = rtspStatusOk)
    (hcseq : fields.cSeq = cSeq) (htext : ∀ date, text date = fields.text date)
    (hbacked : ∀ stage ∈ request.settledAt, ∀ p ∈ stage.before, ∃ e ∈ events, e.stage? = some p)
    (hevents : ∀ e ∈ events, Q.Allow e) {b : SinkApp} (hok : (a.send text).1 = true)
    (hplain : b.Plain) (hsent : b.sent = (a.send text).2.sent) (hlog : b.log = a.log ++ events) :
    Says (some (.asks request cSeq session)) Q k a₀ b := by
  refine h.append [.answers request fields (a.network.headD {}).date] _ (n := 0) hplain ?_ hlog ?_ hevents
    (Nat.le_refl 0)
  · rw [hsent, List.map_singleton]
    exact (if_pos hok).trans (by rw [htext]; rfl)
  · intro v hv
    rw [List.mem_singleton.mp hv]
    refine ⟨hsound _ h.plain.date, hbacked, ?_, ?_⟩
    · intro _ _ _ _ _ hasks
      cases hasks
    · intro _ _ _ hanswers
      cases hanswers
      exact ⟨hstatus, cSeq, session, rfl, hcseq⟩

theorem Says.unsent (h : Says u Q k a₀ a) {text : Text → Text} (hok : ¬ (a.send text).1 = true) :
    Says u Q k a₀ (a.send text).2 := h.silent (h.plain.send text) (if_neg hok) rfl

theorem sound_answer (kind : ResponseKind) {date : Text} (hcseq : IsCSeq cSeq)
    (hkind : ResponseFields.KindWellFormed kind) (hsetup : ∀ d s calls, kind ≠ .setup d s calls)
    (hlength : (bodyLines (ResponseFields.body { cSeq, status := rtspStatusOk, kind })).length < 2 ^ 31)
    (hdate : LineText date) : (RtspMessage.response { cSeq, status := rtspStatusOk, kind } date).Sound :=
  sound_response (-1) kind hcseq plainSession_nil (by decide) hkind hsetup hlength hdate

variable (h : Says (some (.asks request cSeq session)) Q k a₀ a) (hcseq : IsCSeq cSeq)
include h hcseq

theorem Says.sendCommonResponse (hsettled : request.settledAt = none) :
    Says (some (.asks request cSeq session)) Q k a₀ (a.sendCommonResponse cSeq).2 := by
  rw [SinkApp.sendCommonResponse]
  split
  · exact h
  · by_cases hok : (a.send (RtspResponseObject.stringify { cSeq := cSeq, status := rtspStatusOk })).1 = true
    · have hsound (date : Text) (hdate : LineText date) :=
        sound_answer .plain hcseq trivial (by simp) (by decide : (bodyLines []).length < 2 ^ 31) hdate
      refine h.sendAnswer { cSeq, status := rtspStatusOk } [] hsound rfl rfl (fun _ => rfl) ?_
        (List.forall_mem_nil _) hok (h.plain.send _) rfl (List.append_nil _).symm
      simp [hsettled]
    · exact h.unsent hok

end Answers

theorem Says.sendM1Response {cSeq : ℕ} {session : Text} (h : Says (some (.asks .m1 cSeq session)) Q k a₀ a)
    (hcseq : IsCSeq cSeq) : Says (some (.asks .m1 cSeq session)) Q k a₀ (a.sendM1Response cSeq).2 := by
  have hhigh := hcseq.2
  have htaken {b : SinkApp} (hb : b.Plain) : ({ b with cseq := (cSeq : Int) } : SinkApp).Plain :=
    ⟨⟨hcseq.1, by simp only [maxCSeq]; omega⟩, hb.url, hb.session, hb.capabilities, hb.network⟩
  have hpublic : LineText (rtspMethodWfd ++ ", SET_PARAMETER, GET_PARAMETER".toList) ∧
      Trimmed (rtspMethodWfd ++ ", SET_PARAMETER, GET_PARAMETER".toList) := by decide
  rw [SinkApp.sendM1Response]
  split
  · exact h
  · simp only
    split
    · rename_i hok
      have hsound (date : Text) (hdate : LineText date) :=
        sound_answer (.options (rtspMethodWfd ++ ", SET_PARAMETER, GET_PARAMETER".toList)) hcseq hpublic
          (by simp) (by decide : (bodyLines []).length < 2 ^ 31) hdate
      have hsent := h.plain.send (wfdRtspM1Response cSeq rtspStatusOk).stringify
      have hnoted : ((a.send (wfdRtspM1Response cSeq rtspStatusOk).stringify).2.note .m1Answered).Plain :=
        hsent.of_eq rfl rfl rfl rfl rfl
      refine h.sendAnswer _ [.m1Answered] hsound rfl rfl (fun _ => rfl) (by simp [SourceRequest.settledAt])
        ?_ hok (htaken hnoted) rfl rfl
      simp [Reasons.Allow, SinkEvent.stage?]
    · rename_i hok
      exact (h.unsent hok).silent (htaken (h.plain.send _)) rfl rfl

theorem Says.sendM3Response {cSeq : ℕ} {session : Text} (h : Says (some (.asks .m3 cSeq session)) Q k a₀ a)
    (hcseq : IsCSeq cSeq) (hstage : Q.stage .m3Answered) :
    Says (some (.asks .m3 cSeq session)) Q k a₀ (a.sendM3Response cSeq askedNames).2 := by
  obtain ⟨hfields, hlength⟩ := answeredParams_lines h.plain.capabilities
  have htext (date : Text) : (a.m3Response cSeq askedNames).stringify date =
      ({ cSeq, status := rtspStatusOk, kind := .m3 (answeredParams a.capabilities) } : ResponseFields).text date := by
    change _ = (ResponseFields.m3 _ (answeredParams a.capabilities)).stringify date
    rw [ResponseFields.m3_eq]
    rfl
  have hsound (date : Text) (hdate : LineText date) :=
    sound_answer (.m3 (answeredParams a.capabilities)) hcseq hfields (by simp) hlength hdate
  rw [SinkApp.sendM3Response]
  split
  · exact h
  · simp only
    split
    · rename_i hok
      have hsent := (h.startTimer 6).plain.send (a.m3Response cSeq askedNames).stringify
      refine (h.startTimer 6).sendAnswer _ [.m3Answered] hsound rfl rfl htext ?_ ?_ hok
        (hsent.of_eq rfl rfl rfl rfl rfl) rfl rfl
      · intro stage hs p hp
        cases hs
        cases hp
        exact ⟨.m3Answered, List.mem_singleton_self _, rfl⟩
      · intro e he
        rw [List.mem_singleton.mp he]
        exact Reasons.allow_stage rfl hstage
    · rename_i hok
      exact ((h.startTimer 6).unsent hok).stopTimer.error _

theorem Says.answerM4Request {cSeq : ℕ} {sourceIp session : Text} {sink : SinkValues}
    (h : Says (some (.asks (.m4 sourceIp sink) cSeq session)) Q k a₀ a) (hcseq : IsCSeq cSeq) (hstage : Q.stage .m4Accepted) :
    Says (some (.asks (.m4 sourceIp sink) cSeq session)) Q k a₀ (a.answerM4Request cSeq).2 := by
  have hsound (date : Text) (hdate : LineText date) :=
    sound_answer .plain hcseq trivial (by simp) (by decide : (bodyLines []).length < 2 ^ 31) hdate
  have hsent := h.plain.send (RtspResponseObject.stringify { cSeq := cSeq, status := rtspStatusOk })
  by_cases hclient : a.rtspClient
  · rw [SinkApp.answerM4Request, SinkApp.sendCommonResponse, if_neg (not_not.mpr hclient)]
    simp only
    split
    · rename_i hok
      refine h.sendAnswer { cSeq, status := rtspStatusOk } [.m4Accepted a.rtspUrl] hsound rfl rfl
        (fun _ => rfl) ?_ ?_ hok (hsent.of_eq rfl rfl rfl rfl rfl) rfl rfl
      · intro stage hs p hp
        cases hs
        cases hp
        exact ⟨_, List.mem_singleton_self _, rfl⟩
      · intro e he
        rw [List.mem_singleton.mp he]
        exact Reasons.allow_stage rfl hstage
    · rename_i hok
      exact (h.unsent hok).stopTimer.error _
  · rw [SinkApp.answerM4Request, SinkApp.sendCommonResponse, if_pos hclient]
    exact h.stopTimer.error _

section Handlers

variable {cSeq : ℕ} {session : Text}

/-- The M2 follows whether the M1 is answered or not. -/
theorem Says.handleOptionsRequest (h : Says (some (.asks .m1 cSeq session)) Q k a₀ a) (hcseq : IsCSeq cSeq)
    (hmax : (cSeq : Int) ≠ maxCSeq) (hstage : Q.stage .m2Sent) :
    Says (some (.asks .m1 cSeq session)) Q (k + 1) a₀ (a.handleOptionsRequest cSeq) := by
  rw [SinkApp.handleOptionsRequest]
  simp only
  generalize hb : ({ a.stopTimer with isFirstCast := true, isFirstCreateProsumer := true } : SinkApp) = b
  have hsaid : Says (some (.asks .m1 cSeq session)) Q k a₀ b := by
    rw [← hb]
    exact h.same rfl rfl rfl rfl rfl rfl rfl
  have hm1 := hsaid.sendM1Response hcseq
  by_cases hclient : b.rtspClient
  · refine hm1.sendM2Request ?_ hstage
    rw [SinkApp.sendM1Response, if_neg (not_not.mpr hclient)]
    exact hmax
  · rw [SinkApp.sendM2Request, SinkApp.sendRequest, SinkApp.sendM1Response, if_pos hclient, if_pos hclient]
    exact hsaid.more

theorem Says.handleGetParamRequest_m3 (h : Says (some (.asks .m3 cSeq session)) Q k a₀ a) (hcseq : IsCSeq cSeq)
    (hstage : Q.stage .m3Answered) : Says (some (.asks .m3 cSeq session)) Q k a₀ (a.handleGetParamRequest cSeq askedNames) := by
  rw [SinkApp.handleGetParamRequest, if_pos (by decide)]
  exact h.stopTimer.sendM3Response hcseq hstage

theorem Says.handleGetParamRequest_m16 (h : Says (some (.asks .m16 cSeq session)) Q k a₀ a) (hcseq : IsCSeq cSeq) :
    Says (some (.asks .m16 cSeq session)) Q k a₀ (a.handleGetParamRequest cSeq []) := by
  have hsent := h.sendCommonResponse hcseq rfl
  rw [SinkApp.handleGetParamRequest, if_neg (not_not.mpr rfl)]
  split
  · exact h
  · exact hsent.same rfl rfl rfl rfl rfl rfl rfl

theorem Says.handleTriggerMethod_setup (h : Says (some (.asks .m5 cSeq session)) Q k a₀ a) (hcseq : IsCSeq cSeq)
    (hmax : a.cseq ≠ maxCSeq) (hstage : Q.stage .m6Sent) :
    Says (some (.asks .m5 cSeq session)) Q (k + 1) a₀ (a.handleTriggerMethod cSeq "SETUP".toList) := by
  have hnoted := (h.note (e := .m5Received) (by simp [Reasons.Allow, SinkEvent.stage?])).stopTimer
  have hsent := hnoted.sendCommonResponse hcseq rfl
  have hsame : ((a.note .m5Received).stopTimer.sendCommonResponse cSeq).2.cseq = a.cseq :=
    (quietly_sendCommonResponse _ _).cseq
  rw [SinkApp.handleTriggerMethod, if_pos rfl]
  simp only
  split
  · exact hsent.sendM6Request (by rwa [hsame]) hstage
  · exact (hsent.error _).more

theorem Says.handleSetParamRequest_m4 {sourceIp : Text} {sink : SinkValues}
    (h : Says (some (.asks (.m4 sourceIp sink) cSeq session)) Q k a₀ a) (hcseq : IsCSeq cSeq)
    (hrequest : (SourceRequest.m4 sourceIp sink).Plain) (hsession : PlainSession session) (hstage : Q.stage .m4Accepted)
    {request : RtspRequest} (hcarried : ((SourceRequest.m4 sourceIp sink).fields cSeq session).Carried request) :
    Says (some (.asks (.m4 sourceIp sink) cSeq session)) Q k a₀
      (a.handleSetParamRequest request ((SourceRequest.m4 sourceIp sink).fields cSeq session).build.stringify) := by
  obtain ⟨hread, hurl⟩ := m4_read_url hrequest hcseq hsession
  generalize ((SourceRequest.m4 sourceIp sink).fields cSeq session).build.stringify = message at hread hurl ⊢
  have hbody : request.body = (m4Params sourceIp sink).map fun p => field p.1 p.2 := hcarried.body
  have hparams : RtspCommon.splitParameter request.body = (m4Params sourceIp sink).map readField := by
    rw [hbody, ResponseFields.splitParameter_fields (m4Params_lines hrequest.1 hrequest.2).1]
  have hnone : Tokens.find? ((m4Params sourceIp sink).map readField) wfdParamTrigger = none := by
    have hnames : ((m4Params sourceIp sink).map readField).map Prod.fst =
        [wfdParamPresentationUrl, wfdParamVideoFormats, wfdParamAudioCodecs, wfdParamRtpPorts] := rfl
    rw [← Option.not_isSome_iff_eq_none, Tokens.find?_isSome, hnames]
    decide
  have hne : (m4Params sourceIp sink).map readField ≠ [] := List.cons_ne_nil _ _
  have hm4 : Says (some (.asks (.m4 sourceIp sink) cSeq session)) Q k a₀ (a.stopTimer.handleM4Request message).2 := by
    have htaken : Says (some (.asks (.m4 sourceIp sink) cSeq session)) Q k a₀
        { a.stopTimer with rtspUrl := m4Url message } := by
      refine h.silent ⟨h.plain.cseq, ?_, h.plain.session, h.plain.capabilities, h.plain.network⟩ rfl rfl
      change ' ' ∉ m4Url message ∧ LineText (m4Url message)
      rw [hurl]
      exact hrequest.1.url
    rw [SinkApp.handleM4Request, hread]
    simp only
    split
    · exact (htaken.startTimer 6).answerM4Request hcseq hstage
    · exact htaken.answerM4Request hcseq hstage
  rw [SinkApp.handleSetParamRequest, hparams]
  simp only [if_neg hne, hnone]
  split
  · have hcreated : Says (some (.asks (.m4 sourceIp sink) cSeq session)) Q k a₀
        { (a.stopTimer.handleM4Request message).2 with isFirstCreateProsumer := false } :=
      hm4.same rfl rfl rfl rfl rfl rfl rfl
    exact hcreated.note (by simp [Reasons.Allow, SinkEvent.stage?])
  · exact hm4

/-- A request of the source is handled. -/
theorem Says.handleRequest {q : SourceRequest} (h : Says (some (.asks q cSeq session)) Q k a₀ a) (hcseq : IsCSeq cSeq)
    (hmax : a.cseq ≠ maxCSeq ∧ (cSeq : Int) ≠ maxCSeq) (hrequest : q.Plain) (hsession : PlainSession session)
    (hstage : ∀ stage ∈ q.handledAt, Q.stage stage) {request : RtspRequest} (hcarried : (q.fields cSeq session).Carried request) :
    Says (some (.asks q cSeq session)) Q (k + 1) a₀
      (a.handleRequest request (q.fields cSeq session).build.stringify) := by
  have hread := hcarried.cSeq
  have hbody := hcarried.body
  cases q with
  | m1 =>
    have hmethod : request.method = "OPTIONS".toList := hcarried.method
    rw [SinkApp.handleRequest, if_pos hmethod, hread]
    exact h.handleOptionsRequest hcseq hmax.2 (hstage _ rfl)
  | m3 =>
    have hmethod : request.method = "GET_PARAMETER".toList := hcarried.method
    rw [SinkApp.handleRequest, hmethod, if_neg (by decide), if_pos rfl, hread, hbody]
    exact (h.handleGetParamRequest_m3 hcseq (hstage _ rfl)).more
  | m4 sourceIp sink =>
    have hmethod : request.method = "SET_PARAMETER".toList := hcarried.method
    rw [SinkApp.handleRequest, hmethod, if_neg (by decide), if_neg (by decide), if_pos rfl]
    exact (h.handleSetParamRequest_m4 hcseq hrequest hsession (hstage _ rfl) hcarried).more
  | m5 =>
    have hmethod : request.method = "SET_PARAMETER".toList := hcarried.method
    have htrigger : RtspCommon.splitParameter [field wfdParamTrigger "SETUP".toList] =
        [(wfdParamTrigger, "SETUP".toList)] := by decide
    have hfields : (SourceRequest.m5.fields cSeq session).body = [field wfdParamTrigger "SETUP".toList] := rfl
    rw [SinkApp.handleRequest, hmethod, if_neg (by decide), if_neg (by decide), if_pos rfl,
      SinkApp.handleSetParamRequest, hread, hbody, hfields, htrigger]
    exact h.handleTriggerMethod_setup hcseq hmax.1 (hstage _ rfl)
  | m16 =>
    have hmethod : request.method = "GET_PARAMETER".toList := hcarried.method
    rw [SinkApp.handleRequest, hmethod, if_neg (by decide), if_pos rfl, hread, hbody]
    exact (h.handleGetParamRequest_m16 hcseq).more

end Handlers

section Responses

variable (h : Says u Q k a₀ a) (response : RtspResponse)
include h

theorem Says.handleM2Response : Says u Q k a₀ (a.handleM2Response response) := by
  have htimer := h.startTimer 6
  rw [SinkApp.handleM2Response]
  simp only
  split
  · exact htimer.error _
  · have hmethods : Says u Q k a₀ (if sinkSupportsMethods ((response.tokens.find? rtspTokenPublic).getD []) then
        a.startTimer 6 else (a.startTimer 6).notifyServiceError .interactionFailure) := by
      split
      · exact htimer
      · exact htimer.error _
    generalize (if sinkSupportsMethods ((response.tokens.find? rtspTokenPublic).getD [])
      then a.startTimer 6 else (a.startTimer 6).notifyServiceError .interactionFailure) = b at hmethods ⊢
    split
    · have hflag : Says u Q k a₀ { b with isPcSource := true } := hmethods.same rfl rfl rfl rfl rfl rfl rfl
      exact hflag.note (by simp [Reasons.Allow, SinkEvent.stage?])
    · exact hmethods

theorem Says.handleM6Response (hmax : a.cseq ≠ maxCSeq) (hsession : PlainSession response.session)
    (hstage : Q.stage .m7Sent) : Says u Q (k + 1) a₀ (a.handleM6Response response) := by
  rw [SinkApp.handleM6Response]
  simp only
  split
  · exact (h.stopTimer.error _).more
  · refine Says.sendM7Request (h.silent ⟨h.plain.cseq, h.plain.url, hsession, h.plain.capabilities, h.plain.network⟩
      rfl rfl) hmax hstage

theorem Says.handleM7Response (hstage : Q.stage .rtspPlayed) : Says u Q k a₀ (a.handleM7Response response) := by
  rw [SinkApp.handleM7Response]
  simp only
  split
  · exact h.stopTimer.error _
  · have hplayed := h.stopTimer.note (e := .privateEvent .rtspPlayed) (Reasons.allow_stage rfl hstage)
    exact (hplayed.enter .playing).same rfl rfl rfl rfl rfl rfl rfl

theorem Says.handleM8Response : Says u Q k a₀ (a.handleM8Response response) := by
  rw [SinkApp.handleM8Response]
  split
  · exact h.error _
  · exact h.note (by simp [Reasons.Allow, SinkEvent.stage?])

theorem Says.handleCommonResponse : Says u Q k a₀ (a.handleCommonResponse response) := by
  rw [SinkApp.handleCommonResponse]
  split
  · exact h.stopTimer.error _
  · exact h.stopTimer

/-- An answer of the source is handled. -/
theorem Says.handleResponse (hmax : a.cseq ≠ maxCSeq) (hsession : PlainSession response.session)
    (hanswer : ∀ request, a.responseHandlers response.cSeq = some request →
      Q.answer request response.cSeq response.status ∧ ∀ stage ∈ request.settledAt, Q.stage stage) :
    Says u Q (k + 1) a₀ (a.handleResponse response) := by
  cases hhandler : a.responseHandlers response.cSeq with
  | none =>
    rw [handleResponse_none hhandler]
    exact h.more
  | some request =>
    obtain ⟨hanswered, hstage⟩ := hanswer request hhandler
    have hfiltered : Says u Q k a₀ { a with unanswered := a.unanswered.filter (·.1 ≠ response.cSeq) } :=
      h.same rfl rfl rfl rfl rfl rfl rfl
    have hread : Says u Q k a₀ (a.answered request response.cSeq response.status) :=
      hfiltered.note ⟨by simp [SinkEvent.stage?], by
        intro _ _ _ heq
        cases heq
        exact hanswered⟩
    have hhandled : Says u Q (k + 1) a₀ ((a.answered request response.cSeq response.status).handle request response) := by
      cases request with
      | m2 => exact (hread.handleM2Response response).more
      | m6 => exact hread.handleM6Response response hmax hsession (hstage _ rfl)
      | m7 => exact (hread.handleM7Response response (hstage _ rfl)).more
      | m8 => exact (hread.handleM8Response response).more
      | idr => exact (hread.handleCommonResponse response).more
    rw [handleResponse_some hhandler]
    exact hhandled.same rfl rfl rfl rfl rfl rfl rfl

end Responses

end SinkApp

end WifiDisplay
