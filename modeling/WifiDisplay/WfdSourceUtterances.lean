import WifiDisplay.WfdUtterances
import WifiDisplay.WfdSourceHandshake

/-! What the source of a wireless display says in one step. -/

namespace WifiDisplay

open RtspCommon

/-! The numbers that the source takes from an answer. -/

theorem number_hex16_lt (s : InputStream) : (InputStream.number InputStream.hex16 s 0).1.toNat < 2 ^ 16 := by
  have hvalue (negative : Bool) (m : ℕ) : (InputStream.hex16.value negative m).1 < 2 ^ 16 := by
    have hrange : InputStream.hex16.low = 0 ∧ InputStream.hex16.high = 2 ^ 16 - 1 := ⟨rfl, rfl⟩
    rw [InputStream.NumberFormat.value, if_pos hrange.1, hrange.2]
    split
    · decide
    · split
      · exact Int.emod_lt_of_pos _ (by decide)
      · rename_i hm _
        exact Int.lt_of_not_ge fun hge => hm (by omega)
  have hzero : (0 : Int).toNat < 2 ^ 16 := by decide
  rw [InputStream.number]
  split
  · exact hzero
  · simp only
    split
    · exact hzero
    · split
      · exact hzero
      · have hlt := hvalue (InputStream.sign (List.dropWhile InputStream.isBlank s.rest)).1
          (InputStream.magnitude InputStream.hex16.base (List.takeWhile (InputStream.isDigit InputStream.hex16.base)
            (InputStream.afterPrefix InputStream.hex16.base
              (InputStream.sign (List.dropWhile InputStream.isBlank s.rest)).2)))
        omega

theorem readCodec_small (native preferredDisplayMode : ℕ) (temp : Text) :
    (WfdRtspM3Response.readCodec native preferredDisplayMode temp).1.profile < 2 ^ 16 ∧
      (WfdRtspM3Response.readCodec native preferredDisplayMode temp).1.level < 2 ^ 16 := by
  simp only [WfdRtspM3Response.readCodec, WfdRtspM3Response.codecFormats, numbers]
  exact ⟨number_hex16_lt _, number_hex16_lt _⟩

theorem getVideoFormats_small {r r' : WfdRtspM3Response} {format : VideoFormat} (hr : r.vWfdVideoFormatsInfo = [])
    (h : r.getVideoFormats = .ok (format, r')) :
    ∀ info ∈ r'.vWfdVideoFormatsInfo, info.profile < 2 ^ 16 ∧ info.level < 2 ^ 16 := by
  rw [WfdRtspM3Response.getVideoFormats] at h
  split at h
  · cases h
    rw [hr]
    exact List.forall_mem_nil _
  · obtain ⟨texts, -, h⟩ := bind_eq_ok.mp h
    simp only [hr, List.nil_append] at h
    have hinfos : ∀ info ∈ (texts.map (WfdRtspM3Response.readCodec
        ((numbers [InputStream.hex16, InputStream.hex16]
          { rest := (r.getCustomParam wfdParamVideoFormats).take 5 }).1.getD 0 0)
        ((numbers [InputStream.hex16, InputStream.hex16]
          { rest := (r.getCustomParam wfdParamVideoFormats).take 5 }).1.getD 1 0))).map Prod.fst,
        info.profile < 2 ^ 16 ∧ info.level < 2 ^ 16 := by
      intro info hinfo
      obtain ⟨codec, hcodec, rfl⟩ := List.mem_map.mp hinfo
      obtain ⟨temp, -, rfl⟩ := List.mem_map.mp hcodec
      exact readCodec_small _ _ temp
    split at h
    · cases h
    · rename_i first rest hlist
      split at h
      · cases h
        exact hinfos
      · cases h
        exact hinfos

theorem sinkValues_small {r : WfdRtspM3Response} (hr : r.vWfdVideoFormatsInfo = []) {v : SinkValues}
    (h : r.sinkValues = .ok v) : v.Small := by
  have hkept : r.getClientRtpPorts.2.getAudioCodecs.2.vWfdVideoFormatsInfo = [] := hr
  rw [WfdRtspM3Response.sinkValues] at h
  simp only at h
  generalize r.getClientRtpPorts.2.getAudioCodecs.2 = r₀ at h hkept
  obtain ⟨⟨format, r'⟩, hformats, h⟩ := bind_eq_ok.mp h
  obtain ⟨info, hinfo, h⟩ := bind_eq_ok.mp h
  cases h
  have hsmall := getVideoFormats_small hkept hformats
  have hfirst : r'.getWfdVideoFormatsInfo = .ok info := hinfo
  rw [WfdRtspM3Response.getWfdVideoFormatsInfo] at hfirst
  cases hlist : r'.vWfdVideoFormatsInfo with
  | nil =>
    rw [hlist] at hfirst
    cases hfirst
  | cons first rest =>
    rw [hlist] at hfirst
    cases hfirst
    exact hsmall info (by simp [hlist])

/-- The states before the source has asked for the SETUP. -/
def WfdSessionState.Early (s : WfdSessionState) : Prop := s = .m0 ∨ s = .m1 ∨ s = .m2 ∨ s = .m3 ∨ s = .m4

instance (s : WfdSessionState) : Decidable s.Early := inferInstanceAs (Decidable (_ ∨ _))

/-- The request whose answer the source takes in a state. -/
def WfdSessionState.Awaits (s : WfdSessionState) (request : SourceRequest) : Prop :=
  (s = .m3 → request = .m3) ∧ (s = .m4 → ∃ sourceIp sink, request = .m4 sourceIp sink)

/-- What makes the source send a request: nothing but the connection, what it reads, or its state. -/
def SourceRequest.Due (request : SourceRequest) (v : Option SinkUtterance) (s : WfdSessionState) : Prop :=
  match request with
  | .m1 => v = none ∧ s = .m0
  | .m3 => ∃ cSeq url session port, v = some (.asks .m2 cSeq url session port)
  | .m4 _ _ => s = .m3
  | .m5 => s = .m4
  | .m16 => ¬ s.Early

namespace WfdSessionState

variable {s s' : WfdSessionState} {request : SourceRequest}

theorem Awaits.m3 (h : s = .m3) : s.Awaits .m3 := ⟨fun _ => rfl, by simp [h]⟩

theorem Awaits.m4 (h : s = .m4) {sourceIp : Text} {sink : SinkValues} : s.Awaits (.m4 sourceIp sink) :=
  ⟨by simp [h], fun _ => ⟨sourceIp, sink, rfl⟩⟩

theorem Awaits.other (h : s = s') (hs' : s' ≠ .m3 ∧ s' ≠ .m4) : s.Awaits request := by
  subst h
  exact ⟨fun h => absurd h hs'.1, fun h => absurd h hs'.2⟩

theorem not_early {t : WfdSessionState} (h : s = t) (ht : ¬ t.Early) : ¬ s.Early := by rwa [h]

end WfdSessionState

namespace SourceApp

structure Plain (a : SourceApp) : Prop where
  session : PlainSession a.sessionId
  ip : PlainIp a.sourceIp
  sink : a.sink.Small
  network : ∀ sending ∈ a.network, LineText sending.date

/-- What is said and noted between two moments of a step. -/
structure Says (us : List SourceUtterance) (events : List SourceEvent) (a a' : SourceApp) : Prop where
  plain : a'.Plain
  sent : a'.sent = a.sent ++ us.map (·.message.text)
  log : a'.log = a.log ++ events
  plainUs : ∀ u ∈ us, u.Plain

/-- Why a step in which `v` is read says and notes what it does. -/
structure Replies (v : Option SinkUtterance) (us : List SourceUtterance) (events : List SourceEvent)
    (a a' : SourceApp) : Prop where
  backed : ∀ u ∈ us, ∀ stage ∈ u.leadsTo, ∀ p ∈ stage.before, ∃ e ∈ events, e.stage? = some p
  answers : ∀ request fields date, .answers request fields date ∈ us → fields.status = rtspStatusOk ∧
    ∃ url session port, v = some (.asks request fields.cSeq url session port)
  asks : ∀ request cSeq session, .asks request cSeq session ∈ us →
    a'.cseq = a.cseq + 1 ∧ cSeq = a'.cseq.toNat ∧ a'.wfdState.Awaits request ∧ request.Due v a.wfdState
  stages : ∀ e ∈ events, ∀ stage ∈ e.stage?,
    (∃ request cSeq url session port, v = some (.asks request cSeq url session port) ∧ request.handledAt = some stage) ∨
      ∃ request fields date, v = some (.answers request fields date) ∧ fields.cSeq = a.cseq.toNat ∧
        (a.wfdState = .m3 ∧ stage = .m3Accepted ∨ a.wfdState = .m4 ∧ stage = .m5Sent)
  setup : ∀ e ∈ events, e.stage? = some .m5Sent → ¬ a'.wfdState.Early
  moved : a'.cseq = a.cseq ∧ a'.wfdState = a.wfdState ∨
    ¬ a'.wfdState.Early ∧ (¬ a.wfdState.Early ∨ a.wfdState = .m4 ∨ ∃ request cSeq url session port,
      v = some (.asks request cSeq url session port) ∧ (request = .m6 ∨ request = .m7)) ∨
    (a'.cseq = a.cseq + 1 ∨ a'.cseq = a.cseq ∧ a'.wfdState = .m2) ∧
      ((∃ cSeq url session port, v = some (.asks .m2 cSeq url session port)) ∧
          (a'.wfdState = .m2 ∨ a'.wfdState = .m3) ∨
        (∃ request fields date, v = some (.answers request fields date) ∧ fields.cSeq = a.cseq.toNat) ∧
          (a.wfdState = .m3 ∧ (a'.wfdState = .m3 ∨ a'.wfdState = .m4) ∨ a.wfdState = .m4 ∧ a'.wfdState = .m4) ∨
        v = none ∧ a.wfdState = .m0 ∧ (a'.wfdState = .m0 ∨ a'.wfdState = .m1))

variable {us us' : List SourceUtterance} {events events' : List SourceEvent} {a b c : SourceApp}

theorem Plain.of_eq (h : a.Plain) (hsession : b.sessionId = a.sessionId) (hip : b.sourceIp = a.sourceIp)
    (hsink : b.sink = a.sink) (hnetwork : b.network = a.network) : b.Plain := by
  refine ⟨?_, ?_, ?_, ?_⟩
  · rw [hsession]
    exact h.session
  · rw [hip]
    exact h.ip
  · rw [hsink]
    exact h.sink
  · rw [hnetwork]
    exact h.network

theorem Plain.date (h : a.Plain) : LineText (a.network.headD {}).date := by
  cases hnetwork : a.network with
  | nil => exact (by decide : LineText [])
  | cons sending network => exact h.network sending (by simp [hnetwork])

theorem Plain.send (h : a.Plain) (text : Text → Text) : (a.send text).2.Plain :=
  ⟨h.session, h.ip, h.sink, fun sending hs => h.network sending (List.mem_of_mem_tail hs)⟩

theorem Says.trans (h : Says us events a b) (h' : Says us' events' b c) :
    Says (us ++ us') (events ++ events') a c where
  plain := h'.plain
  sent := by rw [h'.sent, h.sent, List.map_append, List.append_assoc]
  log := by rw [h'.log, h.log, List.append_assoc]
  plainUs u hu := by
    rcases List.mem_append.mp hu with hu | hu
    · exact h.plainUs u hu
    · exact h'.plainUs u hu

theorem Says.silent (hplain : b.Plain) (hsent : b.sent = a.sent) (hlog : b.log = a.log) : Says [] [] a b where
  plain := hplain
  sent := by simp [hsent]
  log := by simp [hlog]
  plainUs := List.forall_mem_nil _

theorem Says.note (h : a.Plain) (e : SourceEvent) : Says [] [e] a (a.note e) where
  plain := h.of_eq rfl rfl rfl rfl
  sent := (List.append_nil _).symm
  log := rfl
  plainUs := List.forall_mem_nil _

/-- A request is sent and the state moves on, or nothing is said. -/
theorem sendRequest_speaks (request : SourceRequest) (text : Int → Text) (state : WfdSessionState) (h : a.Plain)
    {session : Text}
    (htext : ∀ cSeq : ℕ, text cSeq = (SourceUtterance.asks request cSeq session).message.text)
    (hrequest : request.Plain) (hsession : PlainSession session) :
    ((a.sendRequest text state).1 = false ∧ Says [] [] a (a.sendRequest text state).2 ∧
        (a.sendRequest text state).2.wfdState = a.wfdState ∧
        ((a.sendRequest text state).2.cseq = a.cseq ∨ (a.sendRequest text state).2.cseq = a.cseq + 1)) ∨
      (a.sendRequest text state).1 = true ∧
        Says [.asks request (a.cseq + 1).toNat session] [] a (a.sendRequest text state).2 ∧
        (a.sendRequest text state).2.wfdState = state ∧ (a.sendRequest text state).2.cseq = a.cseq + 1 := by
  have hnext : ({ a with cseq := a.cseq + 1 } : SourceApp).Plain := h.of_eq rfl rfl rfl rfl
  rw [sendRequest]
  split
  · exact .inl ⟨rfl, .silent h rfl rfl, rfl, .inl rfl⟩
  · have hplain := hnext.send fun _ => text (a.cseq + 1).toNat
    simp only
    split
    · rename_i hok
      refine .inr ⟨rfl, ⟨hplain.of_eq rfl rfl rfl rfl, ?_, (List.append_nil _).symm, ?_⟩, rfl, rfl⟩
      · rw [List.map_singleton, ← htext]
        exact if_pos hok
      · intro u hu
        rw [List.mem_singleton.mp hu]
        exact ⟨hrequest, BitVec.isLt _, hsession⟩
    · rename_i hok
      exact .inl ⟨rfl, .silent hplain (if_neg hok) rfl, rfl, .inr rfl⟩

section Answers

variable {request : SinkRequest} {cSeq : Int}

/-- An answer that is sent, and what is noted along with it. -/
theorem Says.answered (h : a.Plain) {fields : ResponseFields} {text : Text → Text}
    (htext : ∀ date, text date = fields.text date)
    (hsound : ∀ date, LineText date → (RtspMessage.response fields date).Sound) (hok : (a.send text).1 = true)
    (hplain : b.Plain) (hsent : b.sent = (a.send text).2.sent) (hlog : b.log = a.log ++ events) :
    Says [.answers request fields (a.network.headD {}).date] events a b where
  plain := hplain
  sent := by
    rw [hsent, List.map_singleton]
    exact (if_pos hok).trans (by rw [htext]; rfl)
  log := hlog
  plainUs u hu := by
    rw [List.mem_singleton.mp hu]
    exact hsound _ h.date

theorem Says.unanswered {text : Text → Text} (hok : ¬ (a.send text).1 = true) (hplain : b.Plain)
    (hsent : b.sent = (a.send text).2.sent) (hlog : b.log = a.log ++ events) : Says [] events a b where
  plain := hplain
  sent := by
    rw [hsent, List.map_nil, List.append_nil]
    exact if_neg hok
  log := hlog
  plainUs := List.forall_mem_nil _

theorem sendCommonResponse_speaks (request : SinkRequest) (h : a.Plain) (hcseq : IsCSeq cSeq) :
    ((a.sendCommonResponse cSeq).2.wfdState = a.wfdState ∧ (a.sendCommonResponse cSeq).2.cseq = a.cseq) ∧
      (Says [] [] a (a.sendCommonResponse cSeq).2 ∨ ∃ fields date, fields.cSeq = cSeq ∧ fields.status = rtspStatusOk ∧
        Says [.answers request fields date] [] a (a.sendCommonResponse cSeq).2) := by
  have hsound (date : Text) (hdate : LineText date) :=
    sound_response (-1) .plain hcseq h.session (by decide) trivial (by simp)
      (by decide : (bodyLines []).length < 2 ^ 31) hdate
  rw [sendCommonResponse]
  split
  · exact ⟨⟨rfl, rfl⟩, .inl (.silent h rfl rfl)⟩
  · refine ⟨⟨rfl, rfl⟩, ?_⟩
    let fields : ResponseFields := { cSeq, status := rtspStatusOk, session := a.sessionId }
    by_cases hok : (a.send fields.text).1 = true
    · exact .inr ⟨fields, _, rfl, rfl, .answered h (fun _ => rfl) hsound hok (h.send _) rfl (List.append_nil _).symm⟩
    · exact .inl (.unanswered hok (h.send _) rfl (List.append_nil _).symm)

theorem sendM2Response_speaks (h : a.Plain) (hcseq : IsCSeq cSeq) :
    (a.sendM2Response cSeq).2.cseq = a.cseq ∧
      ((a.sendM2Response cSeq).1 = false ∧ Says [] [] a (a.sendM2Response cSeq).2 ∧
          (a.sendM2Response cSeq).2.wfdState = a.wfdState ∨
        (a.sendM2Response cSeq).1 = true ∧ (a.sendM2Response cSeq).2.wfdState = .m2 ∧
          ∃ fields date, fields.cSeq = cSeq ∧ fields.status = rtspStatusOk ∧
            Says [.answers .m2 fields date] [.m2Answered] a (a.sendM2Response cSeq).2) := by
  have hpublic : LineText (rtspMethodWfd ++ ", SETUP, TEARDOWN, PLAY, PAUSE, GET_PARAMETER, SET_PARAMETER".toList) ∧
      Trimmed (rtspMethodWfd ++ ", SETUP, TEARDOWN, PLAY, PAUSE, GET_PARAMETER, SET_PARAMETER".toList) := by decide
  have hsound (date : Text) (hdate : LineText date) :=
    sound_response (-1)
      (.options (rtspMethodWfd ++ ", SETUP, TEARDOWN, PLAY, PAUSE, GET_PARAMETER, SET_PARAMETER".toList)) hcseq
      plainSession_nil (by decide) hpublic (by simp) (by decide : (bodyLines []).length < 2 ^ 31) hdate
  have hplain := h.send (wfdRtspM2Response cSeq rtspStatusOk).stringify
  rw [sendM2Response]
  split
  · exact ⟨rfl, .inl ⟨rfl, .silent h rfl rfl, rfl⟩⟩
  · simp only
    split
    · rename_i hok
      exact ⟨rfl, .inr ⟨rfl, rfl, _, _, rfl, rfl,
        .answered h (fun _ => rfl) hsound hok (hplain.of_eq rfl rfl rfl rfl) rfl rfl⟩⟩
    · rename_i hok
      exact ⟨rfl, .inl ⟨rfl, .unanswered hok hplain rfl (List.append_nil _).symm, rfl⟩⟩

theorem sendM6Response_speaks (h : a.Plain) (hcseq : IsCSeq cSeq) :
    (a.sendM6Response cSeq).2 = a ∨ (a.sendM6Response cSeq).2.wfdState = .m7Wait ∧
      (Says [] [.m6Unsent] a (a.sendM6Response cSeq).2 ∨ ∃ fields date, fields.cSeq = cSeq ∧
        fields.status = rtspStatusOk ∧ Says [.answers .m6 fields date] [.m6Answered] a (a.sendM6Response cSeq).2) := by
  have hports (port : BitVec 16) : ResponseFields.InInt port.toNat := by
    have hlt := port.isLt
    exact ⟨by omega, by omega⟩
  have hsound (date : Text) (hdate : LineText date) :=
    sound_response rtspSessionTimeout (.m6 a.sink.sinkRtpPort.toNat a.sourceRtpPort.toNat) hcseq h.session (by decide)
      ⟨hports _, hports _⟩ (by simp)
      (by decide : (bodyLines []).length < 2 ^ 31) hdate
  let fields : ResponseFields := { cSeq, status := rtspStatusOk, session := a.sessionId, timeout := rtspSessionTimeout
                                   kind := .m6 a.sink.sinkRtpPort.toNat a.sourceRtpPort.toNat }
  have hplain := h.send fields.text
  rw [sendM6Response]
  split
  · exact .inl rfl
  · refine .inr ⟨rfl, ?_⟩
    by_cases hok : (a.send fields.text).1 = true
    · exact .inr ⟨fields, _, rfl, rfl, .answered h (fun _ => rfl) hsound hok (hplain.of_eq rfl rfl rfl rfl) rfl
        (congrArg (fun e => a.log ++ [e]) (if_pos hok))⟩
    · exact .inl (.unanswered hok (hplain.of_eq rfl rfl rfl rfl) rfl (congrArg (fun e => a.log ++ [e]) (if_neg hok)))

theorem sendM7Response_speaks (h : a.Plain) (hcseq : IsCSeq cSeq) :
    (a.sendM7Response cSeq).2 = a ∨ (a.sendM7Response cSeq).2.wfdState = .m7 ∧
      (Says [] [.enteredM7] a (a.sendM7Response cSeq).2 ∨ ∃ fields date, fields.cSeq = cSeq ∧
        fields.status = rtspStatusOk ∧ Says [.answers .m7 fields date] [.enteredM7] a (a.sendM7Response cSeq).2) := by
  have hsound (date : Text) (hdate : LineText date) :=
    sound_response rtspSessionTimeout .m7 hcseq h.session (by decide) trivial (by simp)
      (by decide : (bodyLines []).length < 2 ^ 31) hdate
  let fields : ResponseFields := { cSeq, status := rtspStatusOk, session := a.sessionId, timeout := rtspSessionTimeout
                                   kind := .m7 }
  have hplain := h.send fields.text
  rw [sendM7Response]
  split
  · exact .inl rfl
  · refine .inr ⟨rfl, ?_⟩
    by_cases hok : (a.send fields.text).1 = true
    · exact .inr ⟨fields, _, rfl, rfl, .answered h (fun _ => rfl) hsound hok (hplain.of_eq rfl rfl rfl rfl) rfl rfl⟩
    · exact .inl (.unanswered hok (hplain.of_eq rfl rfl rfl rfl) rfl rfl)

end Answers

section Requests

variable {request : SinkRequest} {cSeq : Int} {url session : Text} {port : BitVec 16}

/-- A step that says no more than the answer to what is read. -/
theorem Replies.of_answers (hus : ∀ u ∈ us, ∃ fields date, u = .answers request fields date ∧
      fields.cSeq = cSeq ∧ fields.status = rtspStatusOk)
    (hbacked : ∀ stage ∈ request.settledAt, us ≠ [] → ∀ p ∈ stage.before, ∃ e ∈ events, e.stage? = some p)
    (hstages : ∀ e ∈ events, ∀ stage ∈ e.stage?, request.handledAt = some stage)
    (hmoved : b.cseq = a.cseq ∧ b.wfdState = a.wfdState ∨ ¬ b.wfdState.Early ∧ (request = .m6 ∨ request = .m7) ∨
      (b.cseq = a.cseq + 1 ∨ b.cseq = a.cseq ∧ b.wfdState = .m2) ∧ request = .m2 ∧
        (b.wfdState = .m2 ∨ b.wfdState = .m3)) :
    Replies (some (.asks request cSeq url session port)) us events a b where
  backed u hu stage hstage p hp := by
    obtain ⟨fields, date, rfl, -, -⟩ := hus u hu
    exact hbacked stage hstage (List.ne_nil_of_mem hu) p hp
  answers request' fields date hu := by
    obtain ⟨fields', date', heq, hcseq, hstatus⟩ := hus _ hu
    cases heq
    exact ⟨hstatus, url, session, port, by rw [hcseq]⟩
  asks request' cSeq' session' hu := by
    obtain ⟨fields, date, heq, -⟩ := hus _ hu
    cases heq
  stages e he stage hstage := .inl ⟨request, cSeq, url, session, port, rfl, hstages e he stage hstage⟩
  setup e he hstage := by
    have hhandled := hstages e he _ hstage
    cases request <;> cases hhandled
  moved := by
    rcases hmoved with hsame | ⟨hlate, hrequest⟩ | ⟨hcseq, rfl, hstate⟩
    · exact .inl hsame
    · exact .inr (.inl ⟨hlate, .inr (.inr ⟨request, cSeq, url, session, port, rfl, hrequest⟩)⟩)
    · exact .inr (.inr ⟨hcseq, .inl ⟨⟨cSeq, url, session, port, rfl⟩, hstate⟩⟩)

/-- One more request behind what is said. -/
theorem Replies.ask {v : Option SinkUtterance} (h : Replies v us events a b) {q : SourceRequest}
    (hbacked : ∀ stage ∈ q.handledAt, ∀ p ∈ stage.before, ∃ e ∈ events, e.stage? = some p)
    (hnext : b.cseq = a.cseq + 1) (hawaits : b.wfdState.Awaits q) (hdue : q.Due v a.wfdState) :
    Replies v (us ++ [.asks q (a.cseq + 1).toNat session]) events a b where
  backed u hu stage hstage p hp := by
    rcases List.mem_append.mp hu with hu | hu
    · exact h.backed u hu stage hstage p hp
    · rw [List.mem_singleton.mp hu] at hstage
      exact hbacked stage hstage p hp
  answers request fields date hu := by
    rcases List.mem_append.mp hu with hu | hu
    · exact h.answers request fields date hu
    · cases List.mem_singleton.mp hu
  asks request cSeq session hu := by
    rcases List.mem_append.mp hu with hu | hu
    · exact h.asks request cSeq session hu
    · cases List.mem_singleton.mp hu
      exact ⟨hnext, by rw [hnext], hawaits, hdue⟩
  stages := h.stages
  setup := h.setup
  moved := h.moved

theorem handleOptionRequest_replies (h : a.Plain) (hcseq : IsCSeq cSeq) (method : Text) :
    ∃ us events, Says us events a ((a.note (.request method a.wfdState)).handleOptionRequest cSeq) ∧
      Replies (some (.asks .m2 cSeq url session port)) us events a
        ((a.note (.request method a.wfdState)).handleOptionRequest cSeq) := by
  have hnote := Says.note h (.request method a.wfdState)
  generalize hb : a.note (.request method a.wfdState) = b at hnote ⊢
  have hstate : b.wfdState = a.wfdState ∧ b.cseq = a.cseq := by
    rw [← hb]
    exact ⟨rfl, rfl⟩
  obtain ⟨hsame, ⟨hret, hsaid, hstay⟩ | ⟨hret, hm2, fields, date, hf, hstatus, hsaid⟩⟩ :=
    sendM2Response_speaks hnote.plain hcseq
  · rw [handleOptionRequest]
    simp only [hret, Bool.false_eq_true, if_false]
    refine ⟨_, _, hnote.trans hsaid, .of_answers (List.forall_mem_nil _) ?_ ?_ (.inl ?_)⟩
    · intro _ _ hne
      exact absurd rfl hne
    · simp [SourceEvent.stage?]
    · exact ⟨hsame.trans hstate.2, hstay.trans hstate.1⟩
  · rw [handleOptionRequest]
    simp only [hret, if_true]
    have hboth := hnote.trans hsaid
    have hnext : (b.sendM2Response cSeq).2.cseq = a.cseq := hsame.trans hstate.2
    have hm2answered {c : SourceApp} (hcseq : c.cseq = a.cseq + 1 ∨ c.cseq = a.cseq ∧ c.wfdState = .m2)
        (hc : c.wfdState = .m2 ∨ c.wfdState = .m3) : Replies (some (.asks .m2 cSeq url session port))
          [.answers .m2 fields date] [.request method a.wfdState, .m2Answered] a c := by
      refine .of_answers ?_ ?_ ?_ (.inr (.inr ⟨hcseq, rfl, hc⟩))
      · intro u hu
        exact ⟨fields, date, List.mem_singleton.mp hu, hf, hstatus⟩
      · intro stage hstage
        cases hstage
      · simp [SourceEvent.stage?, SinkRequest.handledAt]
    rcases sendRequest_speaks .m3 (fun cSeq => (wfdRtspM3Request cSeq wfdRtspUrlDefault).stringify) .m3
      hsaid.plain (fun cSeq => m3_text cSeq []) trivial
      plainSession_nil with ⟨-, hm3, hstate3, hcseq3⟩ | ⟨-, hm3, hstate3, hcseq3⟩
    · rw [hnext] at hcseq3
      have hm2' := hstate3.trans hm2
      exact ⟨_, _, hboth.trans hm3, hm2answered (hcseq3.symm.imp_right fun hkept => ⟨hkept, hm2'⟩) (.inl hm2')⟩
    · rw [hnext] at hcseq3 hm3
      refine ⟨_, _, hboth.trans hm3, (hm2answered (.inl hcseq3) (.inr hstate3)).ask ?_ hcseq3 ?_ ⟨cSeq, url, session, port, rfl⟩⟩
      · intro stage hstage p hp
        cases hstage
        cases hp
        exact ⟨.m2Answered, by simp, rfl⟩
      · exact .m3 hstate3

theorem handleSetupRequest_replies (h : a.Plain) (hcseq : IsCSeq cSeq) (method : Text) :
    ∃ us events, Says us events a ((a.note (.request method a.wfdState)).handleSetupRequest cSeq) ∧
      Replies (some (.asks .m6 cSeq url session port)) us events a
        ((a.note (.request method a.wfdState)).handleSetupRequest cSeq) := by
  have hnote := Says.note h (.request method a.wfdState)
  rw [handleSetupRequest]
  rcases sendM6Response_speaks hnote.plain hcseq with hsame | ⟨hstate, hsaid | ⟨fields, date, hf, hstatus, hsaid⟩⟩
  · rw [hsame]
    refine ⟨_, _, hnote, .of_answers (List.forall_mem_nil _) (fun _ _ hne => absurd rfl hne) ?_ (.inl ⟨rfl, rfl⟩)⟩
    simp [SourceEvent.stage?]
  · refine ⟨_, _, hnote.trans hsaid, .of_answers (List.forall_mem_nil _) (fun _ _ hne => absurd rfl hne) ?_ ?_⟩
    · simp [SourceEvent.stage?]
    · rw [hstate]
      exact .inr (.inl ⟨by decide, .inl rfl⟩)
  · refine ⟨_, _, hnote.trans hsaid, .of_answers ?_ ?_ ?_ ?_⟩
    · intro u hu
      exact ⟨fields, date, List.mem_singleton.mp hu, hf, hstatus⟩
    · intro stage hstage _ p hp
      cases hstage
      cases hp
      exact ⟨.m6Answered, by simp, rfl⟩
    · simp [SourceEvent.stage?, SinkRequest.handledAt]
    · rw [hstate]
      exact .inr (.inl ⟨by decide, .inl rfl⟩)

theorem handlePlayRequest_replies (h : a.Plain) (hcseq : IsCSeq cSeq) (method : Text) :
    ∃ us events, Says us events a ((a.note (.request method a.wfdState)).handlePlayRequest cSeq) ∧
      Replies (some (.asks .m7 cSeq url session port)) us events a
        ((a.note (.request method a.wfdState)).handlePlayRequest cSeq) := by
  rw [handlePlayRequest]
  generalize hb : SourceApp.note { a.note (.request method a.wfdState) with
    prosumerState := if (a.note (.request method a.wfdState)).prosumerState = .pause then .resume else .start }
    .played = b
  have hsaid : Says [] [.request method a.wfdState, .played] a b ∧ b.wfdState = a.wfdState ∧ b.cseq = a.cseq := by
    subst hb
    exact ⟨⟨h.of_eq rfl rfl rfl rfl, (List.append_nil _).symm, List.append_assoc _ _ _, List.forall_mem_nil _⟩, rfl, rfl⟩
  obtain ⟨hplayed, hstate, hsame⟩ := hsaid
  have hstages : ∀ events : List SourceEvent, (∀ e ∈ events, e = .enteredM7) →
      ∀ e ∈ [.request method a.wfdState, .played] ++ events, ∀ stage ∈ e.stage?, SinkRequest.m7.handledAt = some stage := by
    intro events hevents e he stage hstage
    rcases List.mem_append.mp he with he | he
    · rcases List.mem_cons.mp he with rfl | he
      · cases hstage
      · obtain rfl := List.mem_singleton.mp he
        cases hstage
        rfl
    · rw [hevents e he] at hstage
      cases hstage
  rcases sendM7Response_speaks hplayed.plain hcseq with hkept | ⟨hm7, hsaid | ⟨fields, date, hf, hstatus, hsaid⟩⟩
  · rw [hkept]
    exact ⟨_, _, hplayed, .of_answers (List.forall_mem_nil _) (fun _ _ hne => absurd rfl hne)
      (hstages [] (List.forall_mem_nil _)) (.inl ⟨hsame, hstate⟩)⟩
  · refine ⟨_, _, hplayed.trans hsaid, .of_answers (List.forall_mem_nil _) (fun _ _ hne => absurd rfl hne)
      (hstages _ (by simp)) ?_⟩
    rw [hm7]
    exact .inr (.inl ⟨by decide, .inr rfl⟩)
  · refine ⟨_, _, hplayed.trans hsaid, .of_answers ?_ ?_ (hstages _ (by simp)) ?_⟩
    · intro u hu
      exact ⟨fields, date, List.mem_singleton.mp hu, hf, hstatus⟩
    · intro stage hstage _ p hp
      cases hstage
      cases hp
      exact ⟨.played, by simp, rfl⟩
    · rw [hm7]
      exact .inr (.inl ⟨by decide, .inr rfl⟩)

/-- Requests that are answered, and no more. -/
theorem sendCommonResponse_replies (hcseq : IsCSeq cSeq) (hsettled : request.settledAt = none)
    (hsaid : Says [] events a b) (hevents : ∀ e ∈ events, e.stage? = none)
    (hsame : b.cseq = a.cseq ∧ b.wfdState = a.wfdState) :
    ∃ us events, Says us events a (b.sendCommonResponse cSeq).2 ∧
      Replies (some (.asks request cSeq url session port)) us events a (b.sendCommonResponse cSeq).2 := by
  obtain ⟨⟨hstate, hkept⟩, hsent | ⟨fields, date, hf, hstatus, hsent⟩⟩ :=
    sendCommonResponse_speaks request hsaid.plain hcseq
  · refine ⟨_, _, hsaid.trans hsent, .of_answers (List.forall_mem_nil _) (fun _ _ hne => absurd rfl hne) ?_
      (.inl ⟨hkept.trans hsame.1, hstate.trans hsame.2⟩)⟩
    simp +contextual [hevents]
  · refine ⟨_, _, hsaid.trans hsent, .of_answers ?_ ?_ ?_ (.inl ⟨hkept.trans hsame.1, hstate.trans hsame.2⟩)⟩
    · intro u hu
      exact ⟨fields, date, List.mem_singleton.mp hu, hf, hstatus⟩
    · simp [hsettled]
    · simp +contextual [hevents]

/-- A request of the sink is handled. -/
theorem handleRequest_replies (h : a.Plain) (hcseq : IsCSeq cSeq) {r : RtspRequest}
    (hcarried : (request.fields cSeq url session port).Carried r) :
    ∃ us events, Says us events a (a.handleRequest r) ∧
      Replies (some (.asks request cSeq url session port)) us events a (a.handleRequest r) := by
  have hread : r.cSeq = cSeq := by
    have hfields : (request.fields cSeq url session port).cSeq = cSeq := by cases request <;> rfl
    rw [hcarried.cSeq, hfields]
  have hnote := Says.note h (.request r.method a.wfdState)
  have hevents : ∀ e ∈ [SourceEvent.request r.method a.wfdState], e.stage? = none := by simp [SourceEvent.stage?]
  cases request with
  | m2 =>
    have hmethod : r.method = "OPTIONS".toList := hcarried.method
    rw [handleRequest, if_pos hmethod, hread]
    exact handleOptionRequest_replies h hcseq _
  | m6 =>
    have hmethod : r.method = "SETUP".toList := hcarried.method
    rw [handleRequest, if_neg (by rw [hmethod]; decide), if_pos hmethod, hread]
    exact handleSetupRequest_replies h hcseq _
  | m7 =>
    have hmethod : r.method = "PLAY".toList := hcarried.method
    rw [handleRequest, if_neg (by rw [hmethod]; decide), if_neg (by rw [hmethod]; decide), if_pos hmethod, hread]
    exact handlePlayRequest_replies h hcseq _
  | m8 =>
    have hmethod : r.method = "TEARDOWN".toList := hcarried.method
    rw [handleRequest, if_neg (by rw [hmethod]; decide), if_neg (by rw [hmethod]; decide),
      if_neg (by rw [hmethod]; decide), if_neg (by rw [hmethod]; decide), if_pos hmethod, hread, handleTeardownRequest]
    have hstopped : Says [] [.request r.method a.wfdState, .prosumerDestroy] a
        { (a.note (.request r.method a.wfdState)).note .prosumerDestroy with prosumerState := .stop } :=
      ⟨h.of_eq rfl rfl rfl rfl, (List.append_nil _).symm, List.append_assoc _ _ _, List.forall_mem_nil _⟩
    exact sendCommonResponse_replies hcseq rfl hstopped (by simp [SourceEvent.stage?]) ⟨rfl, rfl⟩
  | idr =>
    have hmethod : r.method = "SET_PARAMETER".toList := hcarried.method
    rw [handleRequest, if_neg (by rw [hmethod]; decide), if_neg (by rw [hmethod]; decide),
      if_neg (by rw [hmethod]; decide), if_neg (by rw [hmethod]; decide), if_neg (by rw [hmethod]; decide),
      if_pos hmethod, hread, handleIDRRequest]
    split
    · exact sendCommonResponse_replies hcseq rfl hnote hevents ⟨rfl, rfl⟩
    · refine ⟨_, _, hnote, .of_answers (List.forall_mem_nil _) (fun _ _ hne => absurd rfl hne) ?_ (.inl ⟨rfl, rfl⟩)⟩
      simp [SourceEvent.stage?]

end Requests

section Responses

variable {request : SourceRequest} {fields : ResponseFields} {date : Text}

/-- A step that says nothing. -/
theorem Replies.quiet {v : Option SinkUtterance} (hevents : ∀ e ∈ events, e.stage? = none)
    (hmoved : b.cseq = a.cseq ∧ b.wfdState = a.wfdState ∨ ¬ b.wfdState.Early ∧ ¬ a.wfdState.Early) :
    Replies v [] events a b where
  backed := List.forall_mem_nil _
  answers _ _ _ hu := absurd hu List.not_mem_nil
  asks _ _ _ hu := absurd hu List.not_mem_nil
  stages e he stage hstage := by
    rw [hevents e he] at hstage
    cases hstage
  setup e he hstage := by
    rw [hevents e he] at hstage
    cases hstage
  moved := by
    rcases hmoved with hsame | ⟨hlate, hbefore⟩
    · exact .inl hsame
    · exact .inr (.inl ⟨hlate, .inl hbefore⟩)

/-- A step that the answer to M3 or M4 leads to. -/
theorem Replies.settled (stage : HandshakeStage) (hcseq : fields.cSeq = a.cseq.toNat)
    (hevents : ∀ e ∈ events, ∀ stage' ∈ e.stage?, stage' = stage)
    (hstage : a.wfdState = .m3 ∧ stage = .m3Accepted ∨ a.wfdState = .m4 ∧ stage = .m5Sent)
    (hsetup : ∀ e ∈ events, e.stage? = some .m5Sent → ¬ b.wfdState.Early)
    (hmoved : b.cseq = a.cseq ∧ b.wfdState = a.wfdState ∨ ¬ b.wfdState.Early ∧ a.wfdState = .m4 ∨ b.cseq = a.cseq + 1 ∧
      (a.wfdState = .m3 ∧ (b.wfdState = .m3 ∨ b.wfdState = .m4) ∨ a.wfdState = .m4 ∧ b.wfdState = .m4)) :
    Replies (some (.answers request fields date)) [] events a b where
  backed := List.forall_mem_nil _
  answers _ _ _ hu := absurd hu List.not_mem_nil
  asks _ _ _ hu := absurd hu List.not_mem_nil
  stages e he stage' hstage' := by
    rw [hevents e he stage' hstage']
    exact .inr ⟨request, fields, date, rfl, hcseq, hstage⟩
  setup := hsetup
  moved := by
    rcases hmoved with hsame | ⟨hlate, hbefore⟩ | ⟨hnext, hmoved⟩
    · exact .inl hsame
    · exact .inr (.inl ⟨hlate, .inr (.inl hbefore)⟩)
    · exact .inr (.inr ⟨.inl hnext, .inr (.inl ⟨⟨request, fields, date, rfl, hcseq⟩, hmoved⟩)⟩)

theorem handleM3Response_replies (h : a.Plain) (hstate : a.wfdState = .m3) (hcseq : fields.cSeq = a.cseq.toNat)
    {response : RtspResponse} (hb : a.handleM3Response response = .ok b) :
    ∃ us events, Says us events a b ∧ Replies (some (.answers request fields date)) us events a b := by
  rw [handleM3Response] at hb
  split at hb
  · cases hb
    exact ⟨_, _, .silent h rfl rfl, .quiet (List.forall_mem_nil _) (.inl ⟨rfl, rfl⟩)⟩
  · obtain ⟨sink, hsink, hb⟩ := bind_eq_ok.mp hb
    have hsmall := sinkValues_small rfl hsink
    have hnoted : Says [] [.m3Accepted] a { a.note .m3Accepted with sink } :=
      ⟨⟨h.session, h.ip, hsmall, h.network⟩, (List.append_nil _).symm, rfl, List.forall_mem_nil _⟩
    have hb' : b = ({ a.note .m3Accepted with sink } : SourceApp).sendM4Request.2 := (Except.ok.inj hb).symm
    have hstages : ∀ e ∈ [SourceEvent.m3Accepted] ++ [], ∀ stage ∈ e.stage?, stage = HandshakeStage.m3Accepted := by
      simp [SourceEvent.stage?]
    have hsetup {c : SourceApp} : ∀ e ∈ [SourceEvent.m3Accepted] ++ [], e.stage? = some .m5Sent → ¬ c.wfdState.Early := by
      simp [SourceEvent.stage?]
    rcases sendRequest_speaks (.m4 a.sourceIp sink) (fun cSeq => (wfdRtspM4Request cSeq a.sourceIp sink).stringify)
      .m4 hnoted.plain (fun cSeq => m4_text cSeq [] _ _)
      ⟨h.ip, hsmall⟩ plainSession_nil with ⟨-, hm4, hstate4, hcseq4⟩ | ⟨-, hm4, hstate4, hcseq4⟩
    · subst hb'
      refine ⟨_, _, hnoted.trans hm4, .settled .m3Accepted hcseq hstages (.inl ⟨hstate, rfl⟩) hsetup ?_⟩
      rcases hcseq4 with hkept | hnext
      · exact .inl ⟨hkept, hstate4⟩
      · exact .inr (.inr ⟨hnext, .inl ⟨hstate, .inl (hstate4.trans hstate)⟩⟩)
    · subst hb'
      refine ⟨_, _, hnoted.trans hm4, Replies.ask (.settled .m3Accepted hcseq hstages (.inl ⟨hstate, rfl⟩) hsetup
        (.inr (.inr ⟨hcseq4, .inl ⟨hstate, .inr hstate4⟩⟩))) ?_ hcseq4 ?_ hstate⟩
      · intro stage hstage p hp
        cases hstage
        cases hp
        exact ⟨.m3Accepted, by simp, rfl⟩
      · exact .m4 hstate4

theorem handleM4Response_replies (h : a.Plain) (hstate : a.wfdState = .m4) (hcseq : fields.cSeq = a.cseq.toNat)
    (response : RtspResponse) : ∃ us events, Says us events a (a.handleM4Response response) ∧
      Replies (some (.answers request fields date)) us events a (a.handleM4Response response) := by
  rw [handleM4Response]
  split
  · exact ⟨_, _, .silent h rfl rfl, .quiet (List.forall_mem_nil _) (.inl ⟨rfl, rfl⟩)⟩
  · have hnoted := Says.note h .m4Accepted
    rcases sendRequest_speaks .m5 (fun cSeq => (wfdRtspM5Request cSeq "SETUP".toList).stringify) .m5
      hnoted.plain (fun cSeq => m5_text cSeq [])
      trivial plainSession_nil with ⟨hret, hm5, hstate5, hcseq5⟩ | ⟨hret, hm5, hstate5, hcseq5⟩
    · simp only [sendM5Request, hret, Bool.false_eq_true, if_false]
      refine ⟨_, _, hnoted.trans hm5, .settled .m5Sent hcseq ?_ (.inr ⟨hstate, rfl⟩) ?_ ?_⟩
      · simp [SourceEvent.stage?]
      · simp [SourceEvent.stage?]
      · rcases hcseq5 with hkept | hnext
        · exact .inl ⟨hkept, hstate5⟩
        · exact .inr (.inr ⟨hnext, .inr ⟨hstate, hstate5.trans hstate⟩⟩)
    · simp only [sendM5Request, hret, if_true]
      have hsent := (hnoted.trans hm5).trans (.note hm5.plain .m5Sent)
      have hsaid := hsent.trans (.note hsent.plain .prosumerCreate)
      generalize hc : ((a.note .m4Accepted).sendRequest (fun cSeq => (wfdRtspM5Request cSeq "SETUP".toList).stringify)
        .m5).2 = c at *
      have hstate' : ((c.note .m5Sent).note .prosumerCreate).wfdState = .m5 := hstate5
      have hcseq' : ((c.note .m5Sent).note .prosumerCreate).cseq = a.cseq + 1 := hcseq5
      have hsettled : Replies (some (.answers request fields date)) [] [.m4Accepted, .m5Sent, .prosumerCreate] a
          ((c.note .m5Sent).note .prosumerCreate) := by
        have hlate := WfdSessionState.not_early hstate' (by decide)
        refine .settled .m5Sent hcseq ?_ (.inr ⟨hstate, rfl⟩) (fun _ _ _ => hlate) (.inr (.inl ⟨hlate, hstate⟩))
        simp [SourceEvent.stage?]
      refine ⟨_, _, hsaid, hsettled.ask (q := .m5) ?_ hcseq' (.other hstate' (by decide)) hstate⟩
      intro stage hstage p hp
      cases hstage
      cases hp
      exact ⟨.m5Sent, by simp, rfl⟩

theorem handleM7Response_replies (h : a.Plain) (hlate : ¬ a.wfdState.Early) (response : RtspResponse)
    {v : Option SinkUtterance} :
    ∃ us events, Says us events a (a.handleM7Response response) ∧ Replies v us events a (a.handleM7Response response) := by
  rw [handleM7Response]
  split
  · exact ⟨_, _, .silent (h.of_eq rfl rfl rfl rfl) rfl rfl,
      .quiet (List.forall_mem_nil _) (.inr ⟨WfdSessionState.not_early (t := .m6) rfl (by decide), hlate⟩)⟩
  · have hentered : Says [] [.enteredM7] a ((a.enter .m7).note .enteredM7) :=
      ⟨h.of_eq rfl rfl rfl rfl, (List.append_nil _).symm, rfl, List.forall_mem_nil _⟩
    exact ⟨_, _, hentered, .quiet (by simp [SourceEvent.stage?])
      (.inr ⟨WfdSessionState.not_early (t := .m7) rfl (by decide), hlate⟩)⟩

/-- A step whose counter of timeouts is set back before. -/
theorem Says.of_counted {counts : ℕ} (h : Says us events { a with rtspTimeoutCounts := counts } b) :
    Says us events a b := ⟨h.plain, h.sent, h.log, h.plainUs⟩

theorem Replies.of_counted {v : Option SinkUtterance} {counts : ℕ}
    (h : Replies v us events { a with rtspTimeoutCounts := counts } b) : Replies v us events a b :=
  ⟨h.backed, h.answers, h.asks, h.stages, h.setup, h.moved⟩

/-- An answer of the sink is handled. -/
theorem handleResponse_replies (h : a.Plain) {response : RtspResponse} (hcarried : fields.Carried date response)
    (hb : a.handleResponse response = .ok b) :
    ∃ us events, Says us events a b ∧ Replies (some (.answers request fields date)) us events a b := by
  have hquiet : ∃ us events, Says us events a a ∧ Replies (some (.answers request fields date)) us events a a :=
    ⟨_, _, .silent h rfl rfl, .quiet (List.forall_mem_nil _) (.inl ⟨rfl, rfl⟩)⟩
  rw [handleResponse] at hb
  split at hb
  · cases hb
    exact hquiet
  · rename_i hcseq
    rw [not_not, hcarried.cSeq] at hcseq
    by_cases hlate : WfdSessionState.m7.ctorIdx ≤ a.wfdState.ctorIdx
    · simp only [if_pos hlate] at hb
      have hcounted : ({ a with rtspTimeoutCounts := maxRtspTimeoutCounts } : SourceApp).Plain :=
        h.of_eq rfl rfl rfl rfl
      have hreset : Says [] [] a { a with rtspTimeoutCounts := maxRtspTimeoutCounts } := .silent hcounted rfl rfl
      split at hb
      · rename_i hstate
        exact absurd (hstate ▸ hlate) (by decide)
      · rename_i hstate
        exact absurd (hstate ▸ hlate) (by decide)
      · rename_i hstate
        exact absurd (hstate ▸ hlate) (by decide)
      · rename_i hstate
        cases hb
        obtain ⟨us, events, hsaid, hreplies⟩ := handleM7Response_replies (v := some (.answers request fields date))
          hcounted (WfdSessionState.not_early hstate (by decide)) response
        exact ⟨us, events, hsaid.of_counted, hreplies.of_counted⟩
      · cases hb
        rw [handleM8Response]
        split
        · exact ⟨_, _, hreset, .quiet (List.forall_mem_nil _) (.inl ⟨rfl, rfl⟩)⟩
        · exact ⟨_, _, hreset.trans (.note hcounted .teardown), .quiet (by simp [SourceEvent.stage?]) (.inl ⟨rfl, rfl⟩)⟩
      · cases hb
        exact ⟨_, _, hreset, .quiet (List.forall_mem_nil _) (.inl ⟨rfl, rfl⟩)⟩
    · simp only [if_neg hlate] at hb
      split at hb
      · cases hb
        rw [handleM1Response]
        split
        · exact hquiet
        · split
          · exact ⟨_, _, .note h _, .quiet (by simp [SourceEvent.stage?]) (.inl ⟨rfl, rfl⟩)⟩
          · exact hquiet
      · rename_i hstate
        exact handleM3Response_replies h hstate hcseq hb
      · rename_i hstate
        cases hb
        exact handleM4Response_replies h hstate hcseq response
      · rename_i hstate
        cases hb
        exact handleM7Response_replies h (WfdSessionState.not_early hstate (by decide)) response
      · rename_i hstate
        exact absurd (by rw [hstate]; decide) hlate
      · cases hb
        exact hquiet

end Responses

section Orders

variable {us : List SourceUtterance} {events : List SourceEvent}

/-- The connection of a sink. -/
theorem sendM1Request_replies {ip : Text} (h : a.Plain) (hip : PlainIp ip) (hstate : a.wfdState = .m0) :
    ∃ us events, us.length ≤ 1 ∧ Says us events a ({ a with sourceIp := ip } : SourceApp).sendM1Request.2 ∧
      Replies none us events a ({ a with sourceIp := ip } : SourceApp).sendM1Request.2 := by
  have hplain : ({ a with sourceIp := ip } : SourceApp).Plain := ⟨h.session, hip, h.sink, h.network⟩
  have hmoved {b : SourceApp} (hb : b.cseq = a.cseq ∧ b.wfdState = a.wfdState ∨
      b.cseq = a.cseq + 1 ∧ (b.wfdState = .m0 ∨ b.wfdState = .m1)) : Replies none [] [] a b := by
    refine ⟨List.forall_mem_nil _, fun _ _ _ hu => absurd hu List.not_mem_nil,
      fun _ _ _ hu => absurd hu List.not_mem_nil, List.forall_mem_nil _, List.forall_mem_nil _, ?_⟩
    rcases hb with hsame | ⟨hnext, hb⟩
    · exact .inl hsame
    · exact .inr (.inr ⟨.inl hnext, .inr (.inr ⟨rfl, hstate, hb⟩)⟩)
  rcases sendRequest_speaks .m1 (fun cSeq => (wfdRtspM1Request cSeq).stringify) .m1 hplain
    (fun cSeq => optionsFields_text cSeq) trivial
    plainSession_nil with ⟨-, hsaid, hkept, hcseq⟩ | ⟨-, hsaid, hm1, hcseq⟩
  · refine ⟨[], _, Nat.zero_le 1, ⟨hsaid.plain, hsaid.sent, hsaid.log, hsaid.plainUs⟩, hmoved ?_⟩
    rcases hcseq with hcseq | hcseq
    · exact .inl ⟨hcseq, hkept⟩
    · exact .inr ⟨hcseq, .inl (hkept.trans hstate)⟩
  · refine ⟨_, _, ?_, ⟨hsaid.plain, hsaid.sent, hsaid.log, hsaid.plainUs⟩, Replies.ask (q := .m1)
      (hmoved (.inr ⟨hcseq, .inr hm1⟩)) ?_ hcseq (.other hm1 (by decide)) ⟨rfl, hstate⟩⟩
    · exact Nat.le_refl 1
    · intro stage hs p hp
      cases hs
      cases hp

/-- The timer that keeps the connection alive. -/
theorem sendM16Request_replies (h : a.Plain) (hlate : ¬ a.wfdState.Early) :
    ∃ us events, Says us events a a.sendM16Request ∧ Replies none us events a a.sendM16Request := by
  have hstay {b : SourceApp} (hb : b.wfdState = a.wfdState) {events : List SourceEvent}
      (hevents : ∀ e ∈ events, e.stage? = none) : Replies none [] events a b :=
    .quiet hevents (.inr ⟨WfdSessionState.not_early hb hlate, hlate⟩)
  rw [sendM16Request]
  split
  · refine ⟨_, _, .note h _, hstay ?_ ?_⟩
    · rfl
    · simp [SourceEvent.stage?]
  · split
    · exact ⟨_, _, .silent h rfl rfl, hstay rfl (List.forall_mem_nil _)⟩
    · have hnext : ({ a with cseq := a.cseq + 1 } : SourceApp).Plain := h.of_eq rfl rfl rfl rfl
      have hplain := hnext.send fun _ => (wfdRtspM16Request (a.cseq + 1).toNat wfdRtspUrlDefault a.sessionId).stringify
      simp only
      by_cases hok : (a.network.headD {}).ok = true
      · refine ⟨[] ++ [.asks .m16 (a.cseq + 1).toNat a.sessionId], [], ⟨hplain.of_eq rfl rfl rfl rfl, ?_,
          (List.append_nil _).symm, ?_⟩, Replies.ask (q := .m16) (hstay ?_ (List.forall_mem_nil _)) ?_ rfl ?_ hlate⟩
        · exact (if_pos hok).trans (by rw [m16_text]; rfl)
        · intro u hu
          rw [List.mem_singleton.mp hu]
          exact ⟨trivial, BitVec.isLt _, h.session⟩
        · rfl
        · intro stage hs
          cases hs
        · rw [WfdSessionState.Early] at hlate
          exact ⟨fun hm3 => absurd (.inr (.inr (.inr (.inl hm3)))) hlate,
            fun hm4 => absurd (.inr (.inr (.inr (.inr hm4)))) hlate⟩
      · refine ⟨[], [], .silent (hplain.of_eq rfl rfl rfl rfl) ?_ rfl, hstay ?_ (List.forall_mem_nil _)⟩
        · exact if_neg hok
        · rfl

end Orders

end SourceApp

end WifiDisplay
