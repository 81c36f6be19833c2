import WifiDisplay.WfdConversation

/-! The handshake of a source and a sink, whatever order they act and read in: the two go through its stages
one after the other, and the answers that the sink takes are those to its requests. -/

namespace WifiDisplay

open EventLog

namespace HandshakeStage

/-- A stage behind the one of the other party that it follows. -/
def Follows (stages : List HandshakeStage) (stage : HandshakeStage) : Prop := ∀ p ∈ stage.before, p ∈ stages

theorem all_isChain : all.IsChain fun s t => t.before = some s := by
  simp [all, before]

variable {stages : List HandshakeStage}

theorem passed (h : Guarded Follows stages) {stage : HandshakeStage} (hstage : stage ∈ stages) :
    Follows stages stage := by
  intro p hp
  obtain ⟨l, l', hsplit⟩ := List.append_of_mem hstage
  have hbefore := h.before hsplit p hp
  rw [hsplit]
  exact List.mem_append_left _ hbefore

theorem Follows.later {stage : HandshakeStage} (h : Follows stages stage) (new : List HandshakeStage) :
    Follows (stages ++ new) stage := fun p hp => List.mem_append_left new (h p hp)

/-- The SETUP is behind the OPTIONS of the sink, and PLAY behind the SETUP. -/
theorem m2Answered_of_m5Sent (h : Guarded Follows stages) (hstage : .m5Sent ∈ stages) : .m2Answered ∈ stages :=
  passed h (passed h (passed h (passed h hstage _ rfl) _ rfl) _ rfl) _ rfl

theorem m5Sent_of_m6Sent (h : Guarded Follows stages) (hstage : .m6Sent ∈ stages) : .m5Sent ∈ stages :=
  passed h hstage _ rfl

theorem m6Sent_of_m7Sent (h : Guarded Follows stages) (hstage : .m7Sent ∈ stages) : .m6Sent ∈ stages :=
  passed h (passed h hstage _ rfl) _ rfl

theorem Guarded.reach (h : Guarded Follows stages) {new : List HandshakeStage} (hnew : ∀ stage ∈ new, Follows stages stage) :
    Guarded Follows (stages ++ new) :=
  h.append_behind fun stage hstage l => (hnew stage hstage).later l

end HandshakeStage

def SourceUtterance.isM1 : SourceUtterance → Bool
  | asks .m1 _ _ => true
  | _ => false

def SinkUtterance.isM2 : SinkUtterance → Bool
  | asks .m2 _ _ _ _ => true
  | _ => false

/-- The sink has not begun: it may have been told to stop, and no more. -/
def SinkApp.Waiting (a : SinkApp) : Prop := a.wfdState ≠ .playing ∧ (a.cseq ≤ 0 ∨ a.cseq ≤ 1 ∧ a.wfdState = .stopping)

namespace SinkApp

variable {a b : SinkApp}

theorem Waiting.of_eq (h : a.Waiting) (hcseq : b.cseq = a.cseq) (hstate : b.wfdState = a.wfdState) : b.Waiting := by
  rw [Waiting, hcseq, hstate]
  exact h

theorem Waiting.sendIDRRequest (h : a.Waiting) : a.sendIDRRequest.2.Waiting := by
  rw [SinkApp.sendIDRRequest, if_pos h.1]
  exact h

theorem Waiting.sendM8Request (h : a.Waiting) (hmax : a.cseq ≠ maxCSeq) : a.sendM8Request.2.Waiting := by
  rcases a.sendM8Request_cases with ⟨hq, -⟩ | ⟨hstate, -, b, hstopping, hq⟩
  · exact h.of_eq hq.cseq hq.state
  · have hzero : a.cseq ≤ 0 := by
      rcases h.2 with hle | ⟨-, hstopped⟩
      · exact hle
      · exact absurd hstopped hstate
    have hcseq : b.cseq = nextCSeq a.cseq := by
      rcases hq with hsent | hfailed
      · exact hsent.cseq
      · exact hfailed.cseq
    rw [nextCSeq_eq hmax] at hcseq
    rw [hstopping]
    refine ⟨by simp [enter, note], .inr ⟨?_, rfl⟩⟩
    change b.cseq ≤ 1
    omega

end SinkApp

/-- The request of the source with that CSeq is on its way, or its answer is. -/
def Pending (us : List SourceUtterance) (vs : List SinkUtterance) (request : SourceRequest) (cSeq : ℕ) : Prop :=
  (∃ session, .asks request cSeq session ∈ us) ∨ ∃ fields date, .answers request fields date ∈ vs ∧ fields.cSeq = (cSeq : Int)

section Pending

variable {us : List SourceUtterance} {vs : List SinkUtterance}

theorem Pending.of_answer {v : Option SinkUtterance} {request : SourceRequest} {fields : ResponseFields} {date : Text} {n : ℕ}
    (hv : v = some (.answers request fields date)) (hn : fields.cSeq = (n : Int)) : Pending us (v.toList ++ vs) request n := by
  subst hv
  exact .inr ⟨fields, date, by simp, hn⟩

theorem Pending.mono {us' : List SourceUtterance} {vs' : List SinkUtterance} {request : SourceRequest} {n : ℕ}
    (h : Pending us vs request n) (hus : us ⊆ us') (hvs : vs ⊆ vs') : Pending us' vs' request n := by
  rcases h with ⟨session, hasks⟩ | ⟨fields, date, hanswers, hn⟩
  · exact .inl ⟨session, hus hasks⟩
  · exact .inr ⟨fields, date, hvs hanswers, hn⟩

end Pending

/-- What the CSeq of a request is below that is answered in a state before the SETUP. -/
def WfdSessionState.cSeqLimit : WfdSessionState → ℕ
  | .m4 => 4
  | _ => 3

/-- A source before the SETUP takes no other answer than the one that it waits for. -/
structure SourceApp.InTurn (a : SourceApp) (us : List SourceUtterance) (vs : List SinkUtterance)
    (stages : List HandshakeStage) : Prop where
  plain : a.Plain
  early : a.wfdState.Early → ∀ request n, Pending us vs request n →
    n ≤ a.cseq.toNat ∧ (n = a.cseq.toNat → a.wfdState.Awaits request ∧ n < a.wfdState.cSeqLimit)
  setup : .m5Sent ∈ stages → ¬ a.wfdState.Early
  noted : ∀ e ∈ a.log, ∀ stage ∈ e.stage?, stage ∈ stages

namespace WfdConversation

/-- A request that the sink has sent and the source has read. -/
def Matched (c : WfdConversation) (request : SinkRequest) (cSeq : Int) : Prop :=
  (∃ url, .sent request cSeq url ∈ c.sink.app.log) ∧
    ∃ r, .request r ∈ c.source.dispatched ∧ r.cSeq = cSeq ∧ r.method = request.method

/-- The connection, M1 and M2 each stand for the opening as long as they are to come. -/
def openings (c : WfdConversation) (us : List SourceUtterance) (vs : List SinkUtterance) : ℕ :=
  (if c.source.rtspServerFd = 0 then 1 else 0) + us.countP SourceUtterance.isM1 + vs.countP SinkUtterance.isM2

/-- What holds of a conversation in which `us` and `vs` are on their way. -/
structure Holds (c : WfdConversation) (us : List SourceUtterance) (vs : List SinkUtterance) : Prop where
  toSink : c.toSink = us.map (·.message.text)
  toSource : c.toSource = vs.map (·.message.text)
  plain : ∀ u ∈ us, u.Plain
  sound : ∀ v ∈ vs, v.message.Sound
  toSinkBacked : ∀ u ∈ us, ∀ stage ∈ u.leadsTo, HandshakeStage.Follows c.stages stage
  toSourceBacked : ∀ v ∈ vs, ∀ stage ∈ v.leadsTo, HandshakeStage.Follows c.stages stage
  order : Guarded HandshakeStage.Follows c.stages
  sink : c.sink.app.Plain
  cseqs : c.sink.app.CSeqOrder
  numbered : c.sink.app.Numbered
  noted : ∀ e ∈ c.sink.app.log, ∀ stage ∈ e.stage?, stage ∈ c.stages
  asked : ∀ request n url session port, .asks request n url session port ∈ vs → .sent request n url ∈ c.sink.app.log
  answered : ∀ request fields date, .answers request fields date ∈ us →
    fields.status = rtspStatusOk ∧ c.Matched request fields.cSeq
  taken : ∀ request n status, .answered request n status ∈ c.sink.app.log → status = rtspStatusOk ∧ c.Matched request n
  inTurn : ∀ a, c.source.app = .ok a → a.InTurn us vs c.stages
  opening : c.openings us vs ≤ 1
  opened : 0 < c.openings us vs → .m2Answered ∉ c.stages ∧
    ∀ a, c.source.app = .ok a → (a.wfdState = .m0 ∨ a.wfdState = .m1) ∧ a.cseq.toNat ≤ 1
  idle : c.source.rtspServerFd = 0 → us = [] ∧ ∀ a, c.source.app = .ok a → a.cseq = 0
  first : ∀ u ∈ us.tail, u.isM1 = false
  number : ∀ n session, .asks .m1 n session ∈ us → n = 1
  waiting : (c.source.rtspServerFd = 0 ∨ ∃ u ∈ us, u.isM1 = true) → c.sink.app.Waiting

/-- What the source does in one step, with the reasons that the step has. -/
structure SourceTurn (c : WfdConversation) (source : SourceSession) (v : Option SinkUtterance)
    (new : List SourceUtterance) (events : List SourceEvent) (a b : SourceApp) : Prop where
  before : c.source.app = .ok a
  after : source.app = .ok b
  said : SourceApp.Says new events a b
  replies : SourceApp.Replies v new events a b
  dispatched : c.source.dispatched ⊆ source.dispatched
  read : ∀ request n url session port, v = some (.asks request n url session port) →
    ∃ r, .request r ∈ source.dispatched ∧ r.cSeq = n ∧ r.method = request.method
  opens : c.source.rtspServerFd = 0 ∧ source.rtspServerFd ≠ 0 ∧ new.length ≤ 1 ∧ v = none ∨
    source.rtspServerFd = c.source.rtspServerFd ∧ (∀ u ∈ new, u.isM1 = false) ∧
      (v = none → b.cseq = a.cseq ∧ b.wfdState = a.wfdState ∨ ¬ b.wfdState.Early)
  idle : source.rtspServerFd = 0 → new = [] ∧ b.cseq = a.cseq

section SourceTurns

variable {c : WfdConversation} {source : SourceSession} {us new : List SourceUtterance} {vs : List SinkUtterance}
  {v : Option SinkUtterance} {events : List SourceEvent} {a b : SourceApp}

theorem Holds.opening_of_m2 (h : c.Holds us (v.toList ++ vs)) {n : Int} {url session : Text} {port : BitVec 16}
    (hv : v = some (.asks .m2 n url session port)) : 0 < c.openings us (v.toList ++ vs) := by
  subst hv
  rw [openings, List.countP_append]
  simp only [Option.toList_some, List.countP_singleton, SinkUtterance.isM2, if_true]
  omega

/-- How an early state comes about. -/
theorem SourceTurn.moves (t : c.SourceTurn source v new events a b) (h : c.Holds us (v.toList ++ vs))
    (hearly : b.wfdState.Early) : b.cseq = a.cseq ∧ b.wfdState = a.wfdState ∨
      a.wfdState.Early ∧ a.cseq.toNat < 4 ∧
        (b.cseq = a.cseq + 1 ∨ b.cseq = a.cseq ∧ b.wfdState = .m2 ∧ a.cseq.toNat < 3) ∧
        ∀ request n session, .asks request n session ∈ new → n < b.wfdState.cSeqLimit := by
  have hnext (hnat : a.cseq.toNat < 4) {request : SourceRequest} {n : ℕ} {session : Text}
      (hu : .asks request n session ∈ new) : n = a.cseq.toNat + 1 := by
    obtain ⟨hcseq, hn, -⟩ := t.replies.asks request n session hu
    rw [hn, hcseq]
    bv_omega
  rcases t.replies.moved with hsame | ⟨hlate, -⟩ | ⟨hcseq, hmoved⟩
  · exact .inl hsame
  · exact absurd hearly hlate
  · rcases hmoved with ⟨⟨n, url, session, port, hv⟩, hstate⟩ | ⟨⟨request, fields, date, hv, hn⟩, hstate⟩ |
      ⟨hv, hstate, hconnects⟩
    · obtain ⟨hbefore, hle⟩ := (h.opened (h.opening_of_m2 hv)).2 a t.before
      have hlimit : b.wfdState.cSeqLimit = 3 := by
        rcases hstate with hb | hb <;> rw [hb] <;> rfl
      refine .inr ⟨?_, by omega, hcseq.imp_right fun hkept => ⟨hkept.1, hkept.2, by omega⟩, fun request m session' hu => ?_⟩
      · rcases hbefore with ha | ha
        · exact .inl ha
        · exact .inr (.inl ha)
      · rw [hlimit, hnext (by omega) hu]
        omega
    · have hpending : Pending us (v.toList ++ vs) request a.cseq.toNat := .of_answer hv hn
      have hbefore : a.wfdState.Early := by
        rcases hstate with ⟨ha, -⟩ | ⟨ha, -⟩
        · exact .inr (.inr (.inr (.inl ha)))
        · exact .inr (.inr (.inr (.inr ha)))
      have hlt := ((h.inTurn a t.before).early hbefore request _ hpending).2 rfl |>.2
      have hstep : b.cseq = a.cseq + 1 := by
        rcases hcseq with hnext | ⟨-, hm2⟩
        · exact hnext
        · rcases hstate with ⟨-, hb | hb⟩ | ⟨-, hb⟩
          · exact absurd (hb.symm.trans hm2) (by decide)
          · exact absurd (hb.symm.trans hm2) (by decide)
          · exact absurd (hb.symm.trans hm2) (by decide)
      have hbound : a.cseq.toNat < 4 := by
        rcases hstate with ⟨ha, -⟩ | ⟨ha, -⟩
        · rw [ha, WfdSessionState.cSeqLimit.eq_def] at hlt
          exact Nat.lt_of_lt_of_le hlt (by decide)
        · rw [ha] at hlt
          exact hlt
      refine .inr ⟨hbefore, hbound, .inl hstep, fun request' m session hu => ?_⟩
      obtain ⟨-, -, hawaits, hdue⟩ := t.replies.asks request' m session hu
      rcases hstate with ⟨ha, hb | hb⟩ | ⟨ha, hb⟩
      · rw [hawaits.1 hb] at hdue
        obtain ⟨n', url', session', port', hasks⟩ := hdue
        rw [hv] at hasks
        cases hasks
      · rw [ha] at hlt
        have hlt' : a.cseq.toNat < 3 := hlt
        rw [hb, hnext hbound hu]
        exact Nat.succ_lt_succ hlt'
      · obtain ⟨sourceIp, sink, rfl⟩ := hawaits.2 hb
        rw [SourceRequest.Due, ha] at hdue
        cases hdue
    · rcases t.opens with ⟨hfd, -, -, -⟩ | ⟨-, -, hkept⟩
      · have hzero := (h.idle hfd).2 a t.before
        have hnat : a.cseq.toNat = 0 := by rw [hzero]; rfl
        have hlimit : b.wfdState.cSeqLimit = 3 := by
          rcases hconnects with hb | hb <;> rw [hb] <;> rfl
        refine .inr ⟨.inl hstate, by omega, hcseq.imp_right fun hkept => ⟨hkept.1, hkept.2, by omega⟩, fun request m session hu => ?_⟩
        rw [hlimit, hnext (by omega) hu]
        omega
      · rcases hkept hv with hsame | hlate
        · exact .inl hsame
        · exact absurd hearly hlate

/-- What is on the way behind a step of the source, and what the step has reached. -/
def sourceReached (c : WfdConversation) (source : SourceSession) (us : List SourceUtterance) (vs : List SinkUtterance)
    (events : List SourceEvent) : WfdConversation :=
  { c with source, toSink := us.map (·.message.text), toSource := vs.map (·.message.text)
           stages := c.stages ++ events.filterMap SourceEvent.stage? }

theorem SourceTurn.backed (t : c.SourceTurn source v new events a b) (h : c.Holds us (v.toList ++ vs))
    {stage : HandshakeStage} (hstage : stage ∈ events.filterMap SourceEvent.stage?) :
    HandshakeStage.Follows c.stages stage ∧
      (stage = .m2Answered → ∃ n url session port, v = some (.asks .m2 n url session port)) := by
  obtain ⟨e, he, hstage⟩ := List.mem_filterMap.mp hstage
  have hbacked {w : SinkUtterance} (hv : v = some w) (hleads : w.leadsTo = some stage) :
      HandshakeStage.Follows c.stages stage := h.toSourceBacked w (by simp [hv]) stage hleads
  rcases t.replies.stages e he stage hstage with ⟨request, n, url, session, port, hv, hhandled⟩ |
    ⟨request, fields, date, hv, hn, hsettled⟩
  · refine ⟨hbacked hv hhandled, ?_⟩
    rintro rfl
    cases request with
    | m2 => exact ⟨n, url, session, port, hv⟩
    | m6 => cases hhandled
    | m7 => cases hhandled
    | m8 => cases hhandled
    | idr => cases hhandled
  · have hpending : Pending us (v.toList ++ vs) request a.cseq.toNat := .of_answer hv hn
    have hawaits (hearly : a.wfdState.Early) := ((h.inTurn a t.before).early hearly request _ hpending).2 rfl |>.1
    rcases hsettled with ⟨ha, rfl⟩ | ⟨ha, rfl⟩
    · have hm3 := (hawaits (.inr (.inr (.inr (.inl ha))))).1 ha
      exact ⟨hbacked hv (by rw [hm3]; rfl), by simp⟩
    · obtain ⟨sourceIp, sink, hm4⟩ := (hawaits (.inr (.inr (.inr (.inr ha))))).2 ha
      exact ⟨hbacked hv (by rw [hm4]; rfl), by simp⟩

theorem SourceTurn.openings_le (t : c.SourceTurn source v new events a b) (h : c.Holds us (v.toList ++ vs)) :
    (c.sourceReached source (us ++ new) vs events).openings (us ++ new) vs + v.toList.countP SinkUtterance.isM2 ≤
      c.openings us (v.toList ++ vs) := by
  have hsource : (c.sourceReached source (us ++ new) vs events).source = source := rfl
  rw [openings, openings, hsource, List.countP_append, List.countP_append]
  rcases t.opens with ⟨hbefore, hafter, hlength, -⟩ | ⟨hsame, hnone, -⟩
  · rw [(h.idle hbefore).1, if_pos hbefore, if_neg hafter, List.countP_nil]
    have hcount : new.countP SourceUtterance.isM1 ≤ new.length := List.countP_le_length
    omega
  · have hcount : new.countP SourceUtterance.isM1 = 0 := by
      rw [List.countP_eq_zero]
      simpa using hnone
    rw [hsame]
    omega

theorem SourceTurn.setup (t : c.SourceTurn source v new events a b) (h : c.Holds us (v.toList ++ vs))
    (hm5 : .m5Sent ∈ c.stages ++ events.filterMap SourceEvent.stage?) : ¬ b.wfdState.Early := by
  rcases List.mem_append.mp hm5 with hm5 | hm5
  · have hlate := (h.inTurn a t.before).setup hm5
    intro hearly
    rcases t.moves h hearly with ⟨-, hsame⟩ | ⟨hbefore, -⟩
    · rw [hsame] at hearly
      exact hlate hearly
    · exact hlate hbefore
  · obtain ⟨e, he, hstage⟩ := List.mem_filterMap.mp hm5
    exact t.replies.setup e he hstage

/-- As long as the opening is to come, nothing else moves the source on. -/
theorem SourceTurn.opened (t : c.SourceTurn source v new events a b) (h : c.Holds us (v.toList ++ vs))
    (hopening : 0 < (c.sourceReached source (us ++ new) vs events).openings (us ++ new) vs) :
    .m2Answered ∉ c.stages ++ events.filterMap SourceEvent.stage? ∧
      (b.wfdState = .m0 ∨ b.wfdState = .m1) ∧ b.cseq.toNat ≤ 1 := by
  have hle := t.openings_le h
  have hbound := h.opening
  obtain ⟨hnot, hstate⟩ := h.opened (by omega)
  obtain ⟨hstate, hcseq⟩ := hstate a t.before
  have hm2 : ¬ ∃ n url session port, v = some (.asks .m2 n url session port) := by
    intro hasks
    obtain ⟨n, url, session, port, hv⟩ := hasks
    have hone : v.toList.countP SinkUtterance.isM2 = 1 := by
      rw [hv]
      rfl
    omega
  have hearly : a.wfdState.Early ∧ a.wfdState ≠ .m3 ∧ a.wfdState ≠ .m4 := by
    rcases hstate with ha | ha <;> rw [ha] <;> decide
  refine ⟨?_, ?_⟩
  · intro hmem
    rcases List.mem_append.mp hmem with hmem | hmem
    · exact hnot hmem
    · exact hm2 ((t.backed h hmem).2 rfl)
  · rcases t.replies.moved with ⟨hsame, hkept⟩ | ⟨-, hlate⟩ | ⟨hnext, hmoved⟩
    · rw [hkept, hsame]
      exact ⟨hstate, hcseq⟩
    · rcases hlate with hlate | hm4 | ⟨request, n, url, session, port, hv, hrequest⟩
      · exact absurd hearly.1 hlate
      · exact absurd hm4 hearly.2.2
      · exfalso
        have hbacked := h.toSourceBacked (.asks request n url session port) (by simp [hv])
        rcases hrequest with rfl | rfl
        · have hm6 := hbacked .m6Answered rfl .m6Sent rfl
          exact hnot (HandshakeStage.m2Answered_of_m5Sent h.order (HandshakeStage.m5Sent_of_m6Sent h.order hm6))
        · have hm7 := HandshakeStage.m6Sent_of_m7Sent h.order (hbacked .played rfl .m7Sent rfl)
          exact hnot (HandshakeStage.m2Answered_of_m5Sent h.order (HandshakeStage.m5Sent_of_m6Sent h.order hm7))
    · rcases hmoved with ⟨hasks, -⟩ | ⟨-, ⟨ha, -⟩ | ⟨ha, -⟩⟩ | ⟨hv, -, hconnects⟩
      · exact absurd hasks hm2
      · exact absurd ha hearly.2.1
      · exact absurd ha hearly.2.2
      · refine ⟨hconnects, ?_⟩
        rcases t.opens with ⟨hfd, -⟩ | ⟨-, -, hkept⟩
        · rcases hnext with hnext | ⟨hsame, -⟩
          · rw [hnext, (h.idle hfd).2 a t.before]
            decide
          · rw [hsame]
            exact hcseq
        · rcases hkept hv with ⟨hsame, -⟩ | hlate
          · rw [hsame]
            exact hcseq
          · rcases hconnects with hb | hb <;> rw [hb] at hlate <;> exact absurd (by decide) hlate

theorem Matched.mono {c' : WfdConversation} {request : SinkRequest} {n : Int} (h : c.Matched request n)
    (hlog : c.sink.app.log ⊆ c'.sink.app.log) (hdispatched : c.source.dispatched ⊆ c'.source.dispatched) :
    c'.Matched request n := by
  obtain ⟨⟨url, hsent⟩, r, hread, hr⟩ := h
  exact ⟨⟨url, hlog hsent⟩, r, hdispatched hread, hr⟩

theorem SourceTurn.inTurn (t : c.SourceTurn source v new events a b) (h : c.Holds us (v.toList ++ vs)) :
    b.InTurn (us ++ new) vs (c.stages ++ events.filterMap SourceEvent.stage?) where
  plain := t.said.plain
  early hearly request n hpending := by
    have hasked (session : Text) (hu : .asks request n session ∈ new) := t.replies.asks request n session hu
    have hold (hpending : Pending us vs request n) := hpending.mono (List.Subset.refl us)
      (List.subset_append_right v.toList vs)
    have hsplit : (∃ session, .asks request n session ∈ new) ∨ Pending us vs request n := by
      rcases hpending with ⟨session, hu⟩ | hanswers
      · rcases List.mem_append.mp hu with hu | hu
        · exact .inr (.inl ⟨session, hu⟩)
        · exact .inl ⟨session, hu⟩
      · exact .inr (.inr hanswers)
    rcases t.moves h hearly with ⟨hsame, hkept⟩ | ⟨hbefore, hbound, hnext, hlimit⟩
    · rcases hsplit with ⟨session, hu⟩ | hpending
      · have hmoved := (hasked session hu).1
        rw [hsame] at hmoved
        bv_omega
      · rw [hsame, hkept]
        rw [hkept] at hearly
        exact (h.inTurn a t.before).early hearly request n (hold hpending)
    · rcases hsplit with ⟨session, hu⟩ | hpending
      · obtain ⟨-, hn, hawaits, -⟩ := hasked session hu
        exact ⟨Nat.le_of_eq hn, fun _ => ⟨hawaits, hlimit request n session hu⟩⟩
      · have hle := ((h.inTurn a t.before).early hbefore request n (hold hpending)).1
        rcases hnext with hnext | ⟨hsame, hm2, hlt⟩
        · have hnat : b.cseq.toNat = a.cseq.toNat + 1 := by
            rw [hnext]
            bv_omega
          exact ⟨by omega, fun heq => by omega⟩
        · rw [hsame]
          refine ⟨hle, fun heq => ⟨.other hm2 (by decide), ?_⟩⟩
          rw [hm2, heq]
          exact hlt
  setup := t.setup h
  noted e he stage hstage := by
    rw [t.said.log] at he
    rcases List.mem_append.mp he with he | he
    · exact List.mem_append_left _ ((h.inTurn a t.before).noted e he stage hstage)
    · exact List.mem_append_right _ (List.mem_filterMap.mpr ⟨e, he, hstage⟩)

/-- A step of the source keeps what holds of a conversation. -/
theorem SourceTurn.holds (t : c.SourceTurn source v new events a b) (h : c.Holds us (v.toList ++ vs)) :
    (c.sourceReached source (us ++ new) vs events).Holds (us ++ new) vs := by
  have hvs : vs ⊆ v.toList ++ vs := List.subset_append_right _ _
  have hle := t.openings_le h
  have hsource {a' : SourceApp} (ha' : source.app = .ok a') : a' = b := Except.ok.inj (ha'.symm.trans t.after)
  have hmatched {request : SinkRequest} {n : Int} (hm : c.Matched request n) :
      (c.sourceReached source (us ++ new) vs events).Matched request n :=
    hm.mono (List.Subset.refl _) t.dispatched
  have hM1 {u : SourceUtterance} (hu : u ∈ new) (hfirst : u.isM1 = true) : c.source.rtspServerFd = 0 := by
    rcases t.opens with ⟨hfd, -⟩ | ⟨-, hnone, -⟩
    · exact hfd
    · exact absurd (hfirst.symm.trans (hnone u hu)) (by decide)
  refine ⟨rfl, rfl, ?_, fun v' hv' => h.sound v' (hvs hv'), ?_, ?_, ?_, h.sink, h.cseqs, h.numbered, ?_,
    fun request n url session port hv' => h.asked request n url session port (hvs hv'), ?_, ?_, ?_, ?_, ?_, ?_, ?_, ?_, ?_⟩
  · intro u hu
    rcases List.mem_append.mp hu with hu | hu
    · exact h.plain u hu
    · exact t.said.plainUs u hu
  · intro u hu stage hstage
    rcases List.mem_append.mp hu with hu | hu
    · exact (h.toSinkBacked u hu stage hstage).later _
    · intro p hp
      obtain ⟨e, he, hp⟩ := t.replies.backed u hu stage hstage p hp
      exact List.mem_append_right _ (List.mem_filterMap.mpr ⟨e, he, hp⟩)
  · intro v' hv' stage hstage
    exact (h.toSourceBacked v' (hvs hv') stage hstage).later _
  · exact HandshakeStage.Guarded.reach h.order fun stage hstage => (t.backed h hstage).1
  · intro e he stage hstage
    exact List.mem_append_left _ (h.noted e he stage hstage)
  · intro request fields date hu
    rcases List.mem_append.mp hu with hu | hu
    · exact (h.answered request fields date hu).imp_right hmatched
    · obtain ⟨hstatus, url, session, port, hv⟩ := t.replies.answers request fields date hu
      exact ⟨hstatus, ⟨url, h.asked request _ url session port (by simp [hv])⟩, t.read request _ url session port hv⟩
  · intro request n status htaken
    exact (h.taken request n status htaken).imp_right hmatched
  · intro a' ha'
    rw [hsource ha']
    exact t.inTurn h
  · exact Nat.le_trans (Nat.le_of_add_right_le hle) h.opening
  · intro hopening
    obtain ⟨hnot, hb⟩ := t.opened h hopening
    refine ⟨hnot, fun a' ha' => ?_⟩
    rwa [hsource ha']
  · intro hfd
    obtain ⟨hnew, hsame⟩ := t.idle hfd
    rcases t.opens with ⟨-, hopen, -⟩ | ⟨hkept, -⟩
    · exact absurd hfd hopen
    · obtain ⟨hus, hcseq⟩ := h.idle (hkept.symm.trans hfd)
      refine ⟨by rw [hus, hnew]; rfl, fun a' ha' => ?_⟩
      rw [hsource ha', hsame]
      exact hcseq a t.before
  · intro u hu
    rcases t.opens with ⟨hfd, -, hlength, -⟩ | ⟨-, hnone, -⟩
    · rw [(h.idle hfd).1, List.nil_append] at hu
      have htail : new.tail = [] := by
        rw [← List.length_eq_zero_iff, List.length_tail]
        omega
      rw [htail] at hu
      exact absurd hu List.not_mem_nil
    · cases us with
      | nil => exact hnone u (List.mem_of_mem_tail hu)
      | cons w us =>
        rcases List.mem_append.mp hu with hu | hu
        · exact h.first u hu
        · exact hnone u hu
  · intro n session hu
    rcases List.mem_append.mp hu with hu | hu
    · exact h.number n session hu
    · obtain ⟨hnext, hn, -⟩ := t.replies.asks .m1 n session hu
      rw [hn, hnext, (h.idle (hM1 hu rfl)).2 a t.before]
      rfl
  · intro hopening
    refine h.waiting ?_
    rcases hopening with hfd | ⟨u, hu, hfirst⟩
    · rcases t.opens with ⟨-, hopen, -⟩ | ⟨hkept, -⟩
      · exact absurd hfd hopen
      · exact .inl (hkept.symm.trans hfd)
    · rcases List.mem_append.mp hu with hu | hu
      · exact .inr ⟨u, hu, hfirst⟩
      · exact .inl (hM1 hu hfirst)

end SourceTurns

section SourceInputs

variable {c : WfdConversation} {us new : List SourceUtterance} {vs : List SinkUtterance} {v : Option SinkUtterance}
  {events : List SourceEvent} {a b : SourceApp} {input : SourceInput}

theorem SourceTurn.does (t : c.SourceTurn (SourceSession.step c.source input) v new events a b) (h : c.Holds us (v.toList ++ vs)) :
    ({ c with toSource := vs.map (·.message.text) } : WfdConversation).sourceDoes input =
      c.sourceReached (SourceSession.step c.source input) (us ++ new) vs events := by
  have hsent : SourceSession.sent c.source = a.sent := by rw [SourceSession.sent, t.before]
  have hlog : SourceSession.log c.source = a.log := by rw [SourceSession.log, t.before]
  have hsent' : SourceSession.sent (SourceSession.step c.source input) = a.sent ++ new.map (·.message.text) := by
    rw [SourceSession.sent, t.after, ← t.said.sent]
  have hlog' : SourceSession.log (SourceSession.step c.source input) = a.log ++ events := by
    rw [SourceSession.log, t.after, ← t.said.log]
  rw [sourceDoes, sourceReached]
  simp only [hsent, hlog, hsent', hlog', List.drop_left, h.toSink, List.map_append]

/-- A source that has met a fault does nothing more. -/
theorem Holds.sourceFaulted (h : c.Holds us (v.toList ++ vs)) {e : Fault}
    (herror : (SourceSession.step c.source input).app = .error e)
    (hfd : (SourceSession.step c.source input).rtspServerFd = c.source.rtspServerFd)
    (hdispatched : c.source.dispatched ⊆ (SourceSession.step c.source input).dispatched) :
    ∃ us' vs', (({ c with toSource := vs.map (·.message.text) } : WfdConversation).sourceDoes input).Holds us' vs' := by
  have hdoes : ({ c with toSource := vs.map (·.message.text) } : WfdConversation).sourceDoes input =
      c.sourceReached (SourceSession.step c.source input) us vs [] := by
    have hnone : SourceSession.sent (SourceSession.step c.source input) = [] ∧
        SourceSession.log (SourceSession.step c.source input) = [] := by
      rw [SourceSession.sent, SourceSession.log, herror]
      exact ⟨rfl, rfl⟩
    rw [sourceDoes, sourceReached]
    simp only [hnone.1, hnone.2, List.drop_nil, List.append_nil, List.filterMap_nil, h.toSink]
  have hvs : vs ⊆ v.toList ++ vs := List.subset_append_right _ _
  have hstages : (c.sourceReached (SourceSession.step c.source input) us vs []).stages = c.stages := List.append_nil _
  have hmatched {request : SinkRequest} {n : Int} (hm : c.Matched request n) :
      (c.sourceReached (SourceSession.step c.source input) us vs []).Matched request n :=
    hm.mono (List.Subset.refl _) hdispatched
  have hle : (c.sourceReached (SourceSession.step c.source input) us vs []).openings us vs ≤
      c.openings us (v.toList ++ vs) := by
    have hsource : (c.sourceReached (SourceSession.step c.source input) us vs []).source =
      SourceSession.step c.source input := rfl
    rw [openings, openings, hsource, hfd, List.countP_append]
    omega
  have hnever {a : SourceApp} (ha : (SourceSession.step c.source input).app = .ok a) : False := by
    rw [herror] at ha
    cases ha
  rw [hdoes]
  refine ⟨us, vs, rfl, rfl, h.plain, fun w hw => h.sound w (hvs hw), ?_, ?_, ?_, h.sink, h.cseqs, h.numbered, ?_,
    fun request n url session port hw => h.asked request n url session port (hvs hw), ?_, ?_,
    fun a ha => (hnever ha).elim, Nat.le_trans hle h.opening, ?_, ?_, h.first, h.number, ?_⟩
  · rw [hstages]
    exact h.toSinkBacked
  · rw [hstages]
    exact fun w hw => h.toSourceBacked w (hvs hw)
  · rw [hstages]
    exact h.order
  · rw [hstages]
    exact h.noted
  · intro request fields date hu
    exact (h.answered request fields date hu).imp_right hmatched
  · intro request n status htaken
    exact (h.taken request n status htaken).imp_right hmatched
  · intro hopening
    rw [hstages]
    exact ⟨(h.opened (Nat.lt_of_lt_of_le hopening hle)).1, fun a ha => (hnever ha).elim⟩
  · intro hzero
    exact ⟨(h.idle (hfd.symm.trans hzero)).1, fun a ha => (hnever ha).elim⟩
  · intro hopening
    exact h.waiting (hopening.imp_left fun hzero => hfd.symm.trans hzero)

theorem SourceTurn.does_holds (t : c.SourceTurn (SourceSession.step c.source input) v new events a b)
    (h : c.Holds us (v.toList ++ vs)) :
    ∃ us' vs', (({ c with toSource := vs.map (·.message.text) } : WfdConversation).sourceDoes input).Holds us' vs' := by
  rw [t.does h]
  exact ⟨_, _, t.holds h⟩

/-- A step that changes none of what the conversation is about. -/
theorem SourceTurn.quiet (hbefore : c.source.app = .ok a) (hafter : (SourceSession.step c.source input).app = .ok b)
    (hplain : b.Plain) (hsent : b.sent = a.sent) (hlog : b.log = a.log) (hcseq : b.cseq = a.cseq)
    (hstate : b.wfdState = a.wfdState)
    (hfd : (SourceSession.step c.source input).rtspServerFd = c.source.rtspServerFd)
    (hdispatched : (SourceSession.step c.source input).dispatched = c.source.dispatched) :
    c.SourceTurn (SourceSession.step c.source input) none [] [] a b where
  before := hbefore
  after := hafter
  said := .silent hplain hsent hlog
  replies := .quiet (List.forall_mem_nil _) (.inl ⟨hcseq, hstate⟩)
  dispatched := by rw [hdispatched]; exact List.Subset.refl _
  read _ _ _ _ _ hv := by cases hv
  opens := .inr ⟨hfd, List.forall_mem_nil _, fun _ => .inl ⟨hcseq, hstate⟩⟩
  idle _ := ⟨rfl, hcseq⟩

/-- Nothing but a read gets to a source that has faulted. -/
theorem sourceStep_fault {source : SourceSession} {e : Fault} (happ : source.app = .error e)
    (hread : ∀ fd text, input ≠ .read fd text) : SourceSession.step source input = source := by
  have hupdate : ∀ f, SourceSession.update source f = source := by
    intro f
    rw [SourceSession.update, happ, Except.map, ← happ]
  cases input with
  | sessionInit | start | stop | keepAlive => exact hupdate _
  | accept fd localIp started =>
    rw [SourceSession.step, SourceSession.onAccept, happ]
  | read fd text => exact absurd rfl (hread fd text)

theorem Holds.sourceKeepsAlive (h : c.Holds us ((none : Option SinkUtterance).toList ++ vs))
    (happ : c.source.app = .ok a) (hplayed : .played ∈ c.stages) :
    ∃ us' vs', (({ c with toSource := vs.map (·.message.text) } : WfdConversation).sourceDoes
      .keepAlive).Holds us' vs' := by
  have hplain := (h.inTurn a happ).plain
  have hm6 := HandshakeStage.m6Sent_of_m7Sent h.order (HandshakeStage.passed h.order hplayed _ rfl)
  have hlate := (h.inTurn a happ).setup (HandshakeStage.m5Sent_of_m6Sent h.order hm6)
  have hopen : c.source.rtspServerFd ≠ 0 := by
    intro hfd
    have hopening : 0 < c.openings us vs := by
      rw [openings, if_pos hfd]
      omega
    rcases ((h.opened hopening).2 a happ).1 with ha | ha <;> rw [ha] at hlate <;> exact hlate (by decide)
  obtain ⟨new, events, hsaid, hreplies⟩ := SourceApp.sendM16Request_replies hplain hlate
  have hkept : (SourceSession.step c.source .keepAlive).app = .ok a.sendM16Request := by
    rw [SourceSession.step, SourceSession.update, happ]
    rfl
  suffices hturn : c.SourceTurn (SourceSession.step c.source .keepAlive) none new events a a.sendM16Request from
    hturn.does_holds h
  refine ⟨happ, hkept, hsaid, hreplies, List.Subset.refl _, fun _ _ _ _ _ hv => (by cases hv), .inr ⟨rfl, ?_, ?_⟩,
    fun hfd => absurd hfd hopen⟩
  · intro u hu
    cases u with
    | answers request fields date => rfl
    | asks request n session =>
      cases request with
      | m1 =>
        obtain ⟨-, -, -, -, hm0⟩ := hreplies.asks .m1 n session hu
        rw [hm0] at hlate
        exact absurd (by decide) hlate
      | m3 => rfl
      | m4 sourceIp sink => rfl
      | m5 => rfl
      | m16 => rfl
  · intro _
    rcases hreplies.moved with hsame | ⟨hb, -⟩ | ⟨-, hmoved⟩
    · exact .inl hsame
    · exact .inr hb
    · rcases hmoved with ⟨⟨_, _, _, _, hv⟩, -⟩ | ⟨⟨_, _, _, hv, -⟩, -⟩ | ⟨-, hm0, -⟩
      · cases hv
      · cases hv
      · rw [hm0] at hlate
        exact absurd (by decide) hlate

/-- A sink connects to the source. -/
theorem Holds.sourceAccepts {fd : Int} {localIp : Text} {started : Bool}
    (h : c.Holds us ((none : Option SinkUtterance).toList ++ vs)) (happ : c.source.app = .ok a)
    (hregular : c.Regular (.source (.accept fd localIp started))) :
    ∃ us' vs', (({ c with toSource := vs.map (·.message.text) } : WfdConversation).sourceDoes
      (.accept fd localIp started)).Holds us' vs' := by
  have hplain := (h.inTurn a happ).plain
  obtain ⟨hclosed, hopen, hip⟩ := hregular
  by_cases hstate : a.wfdState = .m0
  · have hstep : SourceSession.step c.source (.accept fd localIp started) = { c.source with
        rtspServerFd := fd
        app := .ok (if started then ({ a with sourceIp := localIp } : SourceApp).sendM1Request.2
          else { a with sourceIp := localIp }) } := by
      rw [SourceSession.step, SourceSession.onAccept, happ]
      simp only [if_neg (not_not.mpr hstate)]
    cases started with
    | false =>
      have hsaid : SourceApp.Says [] [] a { a with sourceIp := localIp } :=
        .silent ⟨hplain.session, hip, hplain.sink, hplain.network⟩ rfl rfl
      suffices hturn : c.SourceTurn (SourceSession.step c.source (.accept fd localIp false)) none [] [] a
          { a with sourceIp := localIp } from hturn.does_holds h
      refine ⟨happ, by rw [hstep]; rfl, hsaid, .quiet (List.forall_mem_nil _) (.inl ⟨rfl, rfl⟩), ?_,
        fun _ _ _ _ _ hv => (by cases hv), .inl ⟨hclosed, by rw [hstep]; exact hopen, Nat.zero_le 1, rfl⟩, ?_⟩
      · rw [hstep]
        exact List.Subset.refl _
      · exact fun _ => ⟨rfl, rfl⟩
    | true =>
      obtain ⟨new, events, hlength, hsaid, hreplies⟩ := SourceApp.sendM1Request_replies hplain hip hstate
      suffices hturn : c.SourceTurn (SourceSession.step c.source (.accept fd localIp true)) none new events a
          ({ a with sourceIp := localIp } : SourceApp).sendM1Request.2 from hturn.does_holds h
      refine ⟨happ, by rw [hstep]; rfl, hsaid, hreplies, ?_, fun _ _ _ _ _ hv => (by cases hv),
        .inl ⟨hclosed, by rw [hstep]; exact hopen, hlength, rfl⟩, ?_⟩
      · rw [hstep]
        exact List.Subset.refl _
      · intro hfd
        rw [hstep] at hfd
        exact absurd hfd hopen
  · have hstep : SourceSession.step c.source (.accept fd localIp started) = c.source := by
      rw [SourceSession.step, SourceSession.onAccept, happ]
      simp only [if_pos hstate]
    exact SourceTurn.does_holds (SourceTurn.quiet happ (by rw [hstep, happ]) hplain rfl rfl rfl rfl
      (by rw [hstep]) (by rw [hstep])) h

/-- Something other than a message comes to the source. -/
theorem Holds.sourceDoes (h : c.Holds us vs) (hregular : c.Regular (.source input)) :
    ∃ us' vs', (c.sourceDoes input).Holds us' vs' := by
  have hself : ({ c with toSource := vs.map (·.message.text) } : WfdConversation) = c := by
    rw [← h.toSource]
  have h' : c.Holds us ((none : Option SinkUtterance).toList ++ vs) := h
  rw [← hself]
  cases happ : c.source.app with
  | error e =>
    have hstep : SourceSession.step c.source input = c.source := by
      refine sourceStep_fault happ ?_
      rintro fd text rfl
      exact hregular
    exact h'.sourceFaulted (by rw [hstep, happ]) (by rw [hstep]) (by rw [hstep]; exact List.Subset.refl _)
  | ok a =>
    have hplain := (h.inTurn a happ).plain
    cases input with
    | sessionInit ip localPort videoFormat =>
      refine SourceTurn.does_holds (SourceTurn.quiet happ (b := { a with
        sourceIp := ip, sourceRtpPort := localPort, sink := { a.sink with videoFormat } }) ?_
        ⟨hplain.session, hregular, hplain.sink, hplain.network⟩ rfl rfl rfl rfl rfl rfl) h'
      rw [SourceSession.step, SourceSession.update, happ]
      rfl
    | start created =>
      refine SourceTurn.does_holds (SourceTurn.quiet happ (b := { a with rtspServer := a.rtspServer || created }) ?_
        (hplain.of_eq rfl rfl rfl rfl) rfl rfl rfl rfl rfl rfl) h'
      rw [SourceSession.step, SourceSession.update, happ]
      rfl
    | stop =>
      refine SourceTurn.does_holds (SourceTurn.quiet happ (b := { a with rtspServer := false }) ?_
        (hplain.of_eq rfl rfl rfl rfl) rfl rfl rfl rfl rfl rfl) h'
      rw [SourceSession.step, SourceSession.update, happ]
      rfl
    | keepAlive => exact h'.sourceKeepsAlive happ hregular
    | accept fd localIp started => exact h'.sourceAccepts happ hregular
    | read fd text => exact hregular.elim

/-- The source reads what the sink has said. -/
theorem Holds.sourceReads {v : SinkUtterance} (h : c.Holds us (v :: vs)) (hopen : c.source.rtspServerFd ≠ 0) :
    ∃ us' vs', (({ c with toSource := vs.map (·.message.text) } : WfdConversation).sourceDoes
      (.read c.source.rtspServerFd v.message.text)).Holds us' vs' := by
  have h' : c.Holds us ((some v).toList ++ vs) := h
  have hsound := h.sound v List.mem_cons_self
  have hnoM1 {new : List SourceUtterance} {events : List SourceEvent} {a b : SourceApp}
      (hreplies : SourceApp.Replies (some v) new events a b) : ∀ u ∈ new, u.isM1 = false := by
    intro u hu
    cases u with
    | answers request fields date => rfl
    | asks request n session =>
      cases request with
      | m1 =>
        obtain ⟨-, -, -, hv, -⟩ := hreplies.asks .m1 n session hu
        cases hv
      | m3 => rfl
      | m4 sourceIp sink => rfl
      | m5 => rfl
      | m16 => rfl
  have hfd (text : Text) : (SourceSession.step c.source (.read c.source.rtspServerFd text)).rtspServerFd =
      c.source.rtspServerFd := by
    rw [SourceSession.step, WfdSourceSession.onServerReadData]
    split <;> rfl
  cases v with
  | asks request n url session port =>
    obtain ⟨r, hcarried, happ, hdispatched⟩ := SourceSession.read_request c.source hsound
    have hfields : (request.fields n url session port).cSeq = n := by cases request <;> rfl
    have hcseq : IsCSeq n := by
      rw [← hfields]
      exact hsound.1.cSeq
    have hgrows : (SourceSession.step c.source (.read c.source.rtspServerFd
        (SinkUtterance.asks request n url session port).message.text)).dispatched = c.source.dispatched ++ [.request r] :=
      hdispatched
    cases hsource : c.source.app with
    | error e =>
      rw [hsource] at happ
      exact h'.sourceFaulted happ (hfd _) (by rw [hgrows]; exact List.subset_append_left _ _)
    | ok a =>
      rw [hsource] at happ
      obtain ⟨new, events, hsaid, hreplies⟩ := SourceApp.handleRequest_replies (h.inTurn a hsource).plain hcseq hcarried
      refine SourceTurn.does_holds (v := some _) ⟨hsource, happ, hsaid, hreplies, ?_, ?_, .inr ⟨hfd _, hnoM1 hreplies, ?_⟩,
        fun hzero => absurd ((hfd _).symm.trans hzero) hopen⟩ h'
      · rw [hgrows]
        exact List.subset_append_left _ _
      · intro request' n' url' session' port' hv
        cases hv
        refine ⟨r, ?_, hcarried.cSeq.trans hfields, hcarried.method.trans ?_⟩
        · rw [hgrows]
          exact List.mem_append_right _ (List.mem_singleton_self _)
        · cases request <;> rfl
      · intro hv
        cases hv
  | answers request fields date =>
    obtain ⟨r, hcarried, happ, hdispatched⟩ := SourceSession.read_response c.source hsound
    have hgrows : c.source.dispatched ⊆ (SourceSession.step c.source (.read c.source.rtspServerFd
        (SinkUtterance.answers request fields date).message.text)).dispatched := by
      have hgrows' : (SourceSession.step c.source (.read c.source.rtspServerFd
        (SinkUtterance.answers request fields date).message.text)).dispatched = c.source.dispatched ++ [.response r] :=
        hdispatched
      rw [hgrows']
      exact List.subset_append_left _ _
    cases hresult : (SourceSession.step c.source (.read c.source.rtspServerFd
        (SinkUtterance.answers request fields date).message.text)).app with
    | error e => exact h'.sourceFaulted hresult (hfd _) hgrows
    | ok b =>
      obtain ⟨a, hsource, hb⟩ := bind_eq_ok.mp (happ.symm.trans hresult)
      obtain ⟨new, events, hsaid, hreplies⟩ := SourceApp.handleResponse_replies (h.inTurn a hsource).plain hcarried hb
      refine SourceTurn.does_holds (v := some _) ⟨hsource, hresult, hsaid, hreplies, hgrows, ?_,
        .inr ⟨hfd _, hnoM1 hreplies, ?_⟩, fun hzero => absurd ((hfd _).symm.trans hzero) hopen⟩ h'
      · intro request' n' url' session' port' hv
        cases hv
      · intro hv
        cases hv

end SourceInputs

section SinkTurns

variable {c : WfdConversation} {sink : SinkSession} {us : List SourceUtterance} {vs new : List SinkUtterance}
  {u : Option SourceUtterance} {events : List SinkEvent}

/-- What a step of the sink may do in which `u` is read. -/
def reasons (c : WfdConversation) (u : Option SourceUtterance) : SinkApp.Reasons where
  stage stage := ∃ w ∈ u, w.leadsTo = some stage
  answer request n status := status = rtspStatusOk ∧ c.Matched request n

def sinkReached (c : WfdConversation) (sink : SinkSession) (us : List SourceUtterance) (vs : List SinkUtterance)
    (events : List SinkEvent) : WfdConversation :=
  { c with sink, toSink := us.map (·.message.text), toSource := vs.map (·.message.text)
           stages := c.stages ++ events.filterMap SinkEvent.stage? }

theorem sinkStage_ne (e : SinkEvent) : e.stage? ≠ some .m2Answered ∧ e.stage? ≠ some .m5Sent := by
  cases e with
  | sent request cseq url => cases request <;> simp [SinkEvent.stage?]
  | privateEvent type => cases type <;> simp [SinkEvent.stage?]
  | _ => simp [SinkEvent.stage?]

theorem mem_stages_of_sink {stage : HandshakeStage} (hne : stage = .m2Answered ∨ stage = .m5Sent)
    (h : stage ∈ c.stages ++ events.filterMap SinkEvent.stage?) : stage ∈ c.stages := by
  rcases List.mem_append.mp h with h | h
  · exact h
  · obtain ⟨e, -, hstage⟩ := List.mem_filterMap.mp h
    rcases hne with rfl | rfl
    · exact absurd hstage (sinkStage_ne e).1
    · exact absurd hstage (sinkStage_ne e).2

/-- M2 follows from M1 only, and once. -/
theorem countP_isM2_le (hmeant : ∀ v ∈ new, v.Meant u events) (hevents : ∀ e ∈ events, (c.reasons u).Allow e)
    (hcount : new.countP SinkUtterance.isRequest ≤ 1) :
    new.countP SinkUtterance.isM2 ≤ u.toList.countP SourceUtterance.isM1 := by
  have hle : new.countP SinkUtterance.isM2 ≤ new.countP SinkUtterance.isRequest := by
    apply List.countP_mono_left
    intro v _ hv
    cases v with
    | asks request n url session port => rfl
    | answers request fields date => cases hv
  by_cases hnone : new.countP SinkUtterance.isM2 = 0
  · omega
  · obtain ⟨v, hv, hm2⟩ := List.countP_pos_iff.mp (Nat.pos_of_ne_zero hnone)
    have hM1 : u.toList.countP SourceUtterance.isM1 = 1 := by
      cases v with
      | answers request fields date => cases hm2
      | asks request n url session port =>
        cases request with
        | m2 =>
          have hsent := (hmeant _ hv).sent .m2 n url session port rfl
          obtain ⟨w, hw, hleads⟩ := (hevents _ hsent).1 .m2Sent rfl
          obtain rfl := Option.mem_def.mp hw
          cases w with
          | asks request' n' session' => cases request' <;> first | rfl | cases hleads
          | answers request' fields date => cases request' <;> cases hleads
        | m6 => cases hm2
        | m7 => cases hm2
        | m8 => cases hm2
        | idr => cases hm2
    omega

/-- A step of the sink keeps what holds of a conversation. -/
theorem Holds.sinkTurn (h : c.Holds (u.toList ++ us) vs) (hsaid : SinkApp.Says u (c.reasons u) 1 c.sink.app sink.app)
    (hcseqs : sink.app.CSeqOrder) (hnumbered : sink.app.Numbered)
    (hwaiting : (c.source.rtspServerFd = 0 ∨ ∃ w ∈ us, w.isM1 = true) → sink.app.Waiting) :
    ∃ new events, sink.app.sent = c.sink.app.sent ++ new.map (·.message.text) ∧ sink.app.log = c.sink.app.log ++ events ∧
      (c.sinkReached sink us (vs ++ new) events).Holds us (vs ++ new) := by
  obtain ⟨hplain, new, events, hsent, hlog, hmeant, hevents, hcount⟩ := hsaid
  have hus : us ⊆ u.toList ++ us := List.subset_append_right _ _
  have hold : c.sink.app.log ⊆ sink.app.log := by
    rw [hlog]
    exact List.subset_append_left _ _
  have hnew : events ⊆ sink.app.log := by
    rw [hlog]
    exact List.subset_append_right _ _
  have hmatched {request : SinkRequest} {n : Int} (hm : c.Matched request n) :
      (c.sinkReached sink us (vs ++ new) events).Matched request n := hm.mono hold (List.Subset.refl _)
  have hle : (c.sinkReached sink us (vs ++ new) events).openings us (vs ++ new) ≤ c.openings (u.toList ++ us) vs := by
    have hsame : (c.sinkReached sink us (vs ++ new) events).source = c.source := rfl
    have hM2 := countP_isM2_le hmeant hevents hcount
    rw [openings, openings, hsame, List.countP_append, List.countP_append]
    omega
  refine ⟨new, events, hsent, hlog, rfl, rfl, fun w hw => h.plain w (hus hw), ?_, ?_, ?_, ?_, hplain, hcseqs, hnumbered,
    ?_, ?_, ?_, ?_, ?_, Nat.le_trans hle h.opening, ?_, ?_, ?_, fun n session hw => h.number n session (hus hw), hwaiting⟩
  · intro v hv
    rcases List.mem_append.mp hv with hv | hv
    · exact h.sound v hv
    · exact (hmeant v hv).sound
  · intro w hw stage hstage
    exact (h.toSinkBacked w (hus hw) stage hstage).later _
  · intro v hv stage hstage
    rcases List.mem_append.mp hv with hv | hv
    · exact (h.toSourceBacked v hv stage hstage).later _
    · intro p hp
      obtain ⟨e, he, hp⟩ := (hmeant v hv).backed stage hstage p hp
      exact List.mem_append_right _ (List.mem_filterMap.mpr ⟨e, he, hp⟩)
  · refine HandshakeStage.Guarded.reach h.order fun stage hstage => ?_
    obtain ⟨e, he, hstage⟩ := List.mem_filterMap.mp hstage
    obtain ⟨w, hw, hleads⟩ := (hevents e he).1 stage hstage
    exact h.toSinkBacked w (List.mem_append_left _ (Option.mem_toList.mpr hw)) stage hleads
  · intro e he stage hstage
    have he' : e ∈ c.sink.app.log ++ events := hlog ▸ he
    rcases List.mem_append.mp he' with he | he
    · exact List.mem_append_left _ (h.noted e he stage hstage)
    · exact List.mem_append_right _ (List.mem_filterMap.mpr ⟨e, he, hstage⟩)
  · intro request n url session port hv
    rcases List.mem_append.mp hv with hv | hv
    · exact hold (h.asked request n url session port hv)
    · exact hnew ((hmeant _ hv).sent request n url session port rfl)
  · intro request fields date hw
    exact (h.answered request fields date (hus hw)).imp_right hmatched
  · intro request n status htaken
    have htaken' : .answered request n status ∈ c.sink.app.log ++ events := hlog ▸ htaken
    rcases List.mem_append.mp htaken' with htaken | htaken
    · exact (h.taken request n status htaken).imp_right hmatched
    · exact ((hevents _ htaken).2 request n status rfl).imp_right hmatched
  · intro a ha
    have hturn := h.inTurn a ha
    refine ⟨hturn.plain, fun hearly request n hpending => hturn.early hearly request n ?_, fun hm5 => ?_,
      fun e he stage hstage => List.mem_append_left _ (hturn.noted e he stage hstage)⟩
    · rcases hpending with ⟨session, hw⟩ | ⟨fields, date, hv, hn⟩
      · exact .inl ⟨session, hus hw⟩
      · rcases List.mem_append.mp hv with hv | hv
        · exact .inr ⟨fields, date, hv, hn⟩
        · obtain ⟨-, n', session, hw, hn'⟩ := (hmeant _ hv).answers request fields date rfl
          have heq : n' = n := Int.ofNat.inj (hn'.symm.trans hn)
          refine .inl ⟨session, ?_⟩
          rw [hw, heq]
          exact List.mem_append_left _ (List.mem_singleton_self _)
    · exact hturn.setup (mem_stages_of_sink (.inr rfl) hm5)
  · intro hopening
    obtain ⟨hnot, hstate⟩ := h.opened (Nat.lt_of_lt_of_le hopening hle)
    exact ⟨fun hm2 => hnot (mem_stages_of_sink (.inl rfl) hm2), hstate⟩
  · intro hfd
    obtain ⟨hempty, hzero⟩ := h.idle hfd
    exact ⟨(List.append_eq_nil_iff.mp hempty).2, hzero⟩
  · intro w hw
    refine h.first w ?_
    cases u with
    | none => exact hw
    | some u => exact List.mem_of_mem_tail hw

/-- Some of what is on the way gets lost. -/
theorem Holds.lost {us' : List SourceUtterance} {vs' : List SinkUtterance} (h : c.Holds us vs) (hus : us'.Sublist us)
    (hvs : vs'.Sublist vs) :
    ({ c with toSink := us'.map (·.message.text), toSource := vs'.map (·.message.text) } : WfdConversation).Holds us' vs' := by
  have hle : c.openings us' vs' ≤ c.openings us vs := by
    have hM1 : us'.countP SourceUtterance.isM1 ≤ us.countP SourceUtterance.isM1 := hus.countP_le
    have hM2 : vs'.countP SinkUtterance.isM2 ≤ vs.countP SinkUtterance.isM2 := hvs.countP_le
    rw [openings, openings]
    omega
  refine ⟨rfl, rfl, fun u hu => h.plain u (hus.subset hu), fun v hv => h.sound v (hvs.subset hv),
    fun u hu => h.toSinkBacked u (hus.subset hu), fun v hv => h.toSourceBacked v (hvs.subset hv), h.order, h.sink,
    h.cseqs, h.numbered, h.noted, fun request n url session port hv => h.asked request n url session port (hvs.subset hv),
    fun request fields date hu => h.answered request fields date (hus.subset hu), h.taken, ?_, Nat.le_trans hle h.opening,
    fun hopening => h.opened (Nat.lt_of_lt_of_le hopening hle), ?_, fun u hu => h.first u (hus.tail.subset hu),
    fun n session hu => h.number n session (hus.subset hu), ?_⟩
  · intro a ha
    have hturn := h.inTurn a ha
    exact ⟨hturn.plain, fun hearly request n hpending => hturn.early hearly request n (hpending.mono hus.subset hvs.subset),
      hturn.setup, hturn.noted⟩
  · intro hfd
    obtain ⟨hempty, hzero⟩ := h.idle hfd
    rw [hempty] at hus
    exact ⟨List.sublist_nil.mp hus, hzero⟩
  · intro hopening
    exact h.waiting (hopening.imp_right fun hu => hu.imp fun w hw => ⟨hus.subset hw.1, hw.2⟩)

theorem sinkDoes_eq (c : WfdConversation) {input : SinkInput}
    (hsent : (c.sink.step input).app.sent = c.sink.app.sent ++ new.map (·.message.text))
    (hlog : (c.sink.step input).app.log = c.sink.app.log ++ events) (hus : c.toSink = us.map (·.message.text))
    (hvs : c.toSource = vs.map (·.message.text)) :
    c.sinkDoes input = c.sinkReached (c.sink.step input) us (vs ++ new) events := by
  rw [sinkDoes, sinkReached]
  simp only [hsent, hlog, List.drop_left, hus, hvs, List.map_append]

/-- The sink is told something other than a message. -/
theorem Holds.sinkDoes (h : c.Holds us vs) {input : SinkInput} (hmax : c.sink.app.cseq ≠ SinkApp.maxCSeq)
    (hread : ∀ message, input ≠ .read message)
    (hinit : ∀ port capabilities, input = .sessionInit port capabilities → PlainCapabilities capabilities) :
    ∃ us' vs', (c.sinkDoes input).Holds us' vs' := by
  let Q := c.reasons none
  let I (k : ℕ) (a : SinkApp) : Prop := SinkApp.Says none Q k c.sink.app a ∧ a.CSeqOrder ∧ a.Numbered ∧
    ((c.source.rtspServerFd = 0 ∨ ∃ w ∈ us, w.isM1 = true) → a.Waiting)
  have hcalm {k : ℕ} {a : SinkApp} {action : SinkAction} (haction : SinkApp.Calm action) (ha : I k a) : I k (a.act action) := by
    obtain ⟨hcseq, hstate⟩ := a.calm_cseq haction
    exact ⟨ha.1.calm haction, ha.2.1.calm haction, ha.2.2.1.calm haction, fun hopen => (ha.2.2.2 hopen).of_eq hcseq hstate⟩
  obtain ⟨hsaid, hcseqs, hnumbered, hwaiting⟩ : I 1 (c.sink.step input).app := by
    refine SinkSession.step_keeps c.sink (I := fun a => I 0 a ∧ a.cseq ≠ SinkApp.maxCSeq) hread hinit ?_
      (fun a action => hcalm) ?_ ?_ ?_ ⟨⟨.refl h.sink, h.cseqs, h.numbered, h.waiting⟩, hmax⟩
    · intro a action haction ha
      rw [(a.calm_cseq haction).1]
      exact ⟨hcalm haction ha.1, ha.2⟩
    · intro a ha
      obtain ⟨⟨hsaid, hcseqs, hnumbered, hwaiting⟩, hmax⟩ := ha
      exact ⟨hsaid.sendIDRRequest hmax, hcseqs.sendIDRRequest hmax, hnumbered.sendIDRRequest hmax,
        fun hopen => (hwaiting hopen).sendIDRRequest⟩
    · intro a ha
      obtain ⟨⟨hsaid, hcseqs, hnumbered, hwaiting⟩, hmax⟩ := ha
      exact ⟨hsaid.sendM8Request hmax, hcseqs.sendM8Request hmax, hnumbered.sendM8Request hmax,
        fun hopen => (hwaiting hopen).sendM8Request hmax⟩
    · intro a ha
      exact ⟨ha.1.1.more, ha.1.2⟩
  obtain ⟨new, events, hsent, hlog, hholds⟩ := Holds.sinkTurn (u := none) h hsaid hcseqs hnumbered hwaiting
  rw [c.sinkDoes_eq hsent hlog h.toSink h.toSource]
  exact ⟨us, _, hholds⟩

theorem method_of_options {q : SourceRequest} {n : Int} {session : Text} {r : RtspRequest}
    (hcarried : (q.fields n session).Carried r) (hmethod : r.method = "OPTIONS".toList) : q = .m1 := by
  have hfields := hcarried.method.symm.trans hmethod
  have hget : "GET_PARAMETER".toList ≠ "OPTIONS".toList := by decide
  have hset : "SET_PARAMETER".toList ≠ "OPTIONS".toList := by decide
  cases q with
  | m1 => rfl
  | m3 => exact absurd hfields hget
  | m4 sourceIp sink => exact absurd hfields hset
  | m5 => exact absurd hfields hset
  | m16 => exact absurd hfields hget

/-- The sink reads what the source has said. -/
theorem Holds.sinkReads {u : SourceUtterance} (h : c.Holds (u :: us) vs) (hmax : c.sink.app.cseq ≠ SinkApp.maxCSeq) :
    ∃ us' vs', (({ c with toSink := us.map (·.message.text) } : WfdConversation).sinkDoes (.read u.message.text)).Holds us' vs' := by
  have hclosed : ¬ (c.source.rtspServerFd = 0 ∨ ∃ w ∈ us, w.isM1 = true) := by
    intro hopening
    rcases hopening with hfd | ⟨w, hw, hfirst⟩
    · exact List.cons_ne_nil u us (h.idle hfd).1
    · exact absurd (hfirst.symm.trans (h.first w hw)) (by decide)
  have hrefl : SinkApp.Says (some u) (c.reasons (some u)) 0 c.sink.app c.sink.app := .refl h.sink
  have hplain := h.plain u List.mem_cons_self
  have hsink : SinkApp.Says (some u) (c.reasons (some u)) 1 c.sink.app (c.sink.step (.read u.message.text)).app ∧
      (c.sink.step (.read u.message.text)).app.CSeqOrder ∧ (c.sink.step (.read u.message.text)).app.Numbered := by
    by_cases hinterrupting : c.sink.interrupting = true
    · rw [c.sink.app_read_interrupting hinterrupting]
      refine SinkSession.foldl_calm (I := fun a => SinkApp.Says (some u) (c.reasons (some u)) 1 c.sink.app a ∧
        a.CSeqOrder ∧ a.Numbered) ?_ ⟨hrefl.more, h.cseqs, h.numbered⟩ c.sink.calm_interruption
      intro a action hcalm ha
      exact ⟨ha.1.calm hcalm, ha.2.1.calm hcalm, ha.2.2.calm hcalm⟩
    · cases u with
      | asks q n session =>
        obtain ⟨r, hcarried, happ⟩ := c.sink.app_read_request hinterrupting hplain.sound
        have hcseq : r.cSeq = n := by
          rw [hcarried.cSeq]
          cases q <;> rfl
        have hn : (n : Int) ≠ SinkApp.maxCSeq := by
          have hlt := hplain.2.1
          rw [SinkApp.maxCSeq]
          omega
        have hoptions (hmethod : r.method = "OPTIONS".toList) : r.cSeq = 1 ∧ c.sink.app.cseq ≤ 1 := by
          obtain rfl := method_of_options hcarried hmethod
          obtain rfl := h.number n session List.mem_cons_self
          have hwaiting := h.waiting (.inr ⟨_, List.mem_cons_self, rfl⟩)
          exact ⟨hcseq, by rcases hwaiting.2 with hle | ⟨hle, -⟩ <;> omega⟩
        have hkeeps : c.sink.app.KeepsCSeqs (.request r (q.fields n session).build.stringify) := by
          rw [SinkApp.KeepsCSeqs]
          split
          · rename_i hmethod
            obtain ⟨hone, hle⟩ := hoptions hmethod
            intro _
            refine ⟨fun p hp => ?_, by rw [hcseq]; exact hn⟩
            have hbounded := h.cseqs.bounded p hp
            omega
          · exact hmax
        have hspoken := hrefl.handleRequest (SourceUtterance.isCSeq_of_lt hplain.2.1) ⟨hmax, hn⟩ hplain.1 hplain.2.2
          (fun stage hstage => ⟨_, rfl, hstage⟩) hcarried
        have happ' : (c.sink.step (.read (SourceUtterance.asks q n session).message.text)).app =
            c.sink.app.handleRequest r (q.fields n session).build.stringify := happ
        rw [happ']
        refine ⟨hspoken, h.cseqs.act hkeeps, h.numbered.handleRequest hmax fun hmethod => ?_⟩
        obtain ⟨hone, hle⟩ := hoptions hmethod
        exact ⟨by rw [hcseq]; exact hn, by omega⟩
      | answers request f date =>
        obtain ⟨r, hcarried, happ⟩ := c.sink.app_read_response hinterrupting hplain
        obtain ⟨hstatus, hmatched⟩ := h.answered request f date List.mem_cons_self
        have hsession : PlainSession r.session := by
          rw [hcarried.session]
          exact ⟨hplain.1.session.1, hplain.1.session.2.1, hplain.1.session.2.2⟩
        have hanswer (request' : SinkRequest) (hhandler : c.sink.app.responseHandlers r.cSeq = some request') :
            (c.reasons (some (.answers request f date))).answer request' r.cSeq r.status ∧
              ∀ stage ∈ request'.settledAt, (c.reasons (some (.answers request f date))).stage stage := by
          obtain ⟨url, hsent⟩ := hmatched.1
          rw [hcarried.cSeq] at hhandler ⊢
          obtain rfl := (h.numbered request f.cSeq url hsent).2 request' hhandler
          exact ⟨⟨hcarried.status.trans hstatus, hmatched⟩, fun stage hstage => ⟨_, rfl, hstage⟩⟩
        have happ' : (c.sink.step (.read (SourceUtterance.answers request f date).message.text)).app =
            c.sink.app.handleResponse r := happ
        rw [happ']
        exact ⟨hrefl.handleResponse r hmax hsession hanswer, h.cseqs.handleResponse hmax r, h.numbered.handleResponse hmax r⟩
  obtain ⟨new, events, hsent, hlog, hholds⟩ := Holds.sinkTurn (u := some u) h hsink.1 hsink.2.1 hsink.2.2
    fun hopening => absurd hopening hclosed
  have hdoes := sinkDoes_eq { c with toSink := us.map (·.message.text) } hsent hlog rfl h.toSource
  rw [hdoes]
  exact ⟨us, _, hholds⟩

end SinkTurns

section Runs

variable {c : WfdConversation} {sessionId : Text} {sourceNetwork sinkNetwork : List Sending}
  {inputs : List ConversationInput}

theorem holds_new (hsession : PlainSession sessionId) (hsource : ∀ sending ∈ sourceNetwork, LineText sending.date)
    (hsink : ∀ sending ∈ sinkNetwork, LineText sending.date) : (new sessionId sourceNetwork sinkNetwork).Holds [] [] := by
  have happ {a : SourceApp} (ha : (new sessionId sourceNetwork sinkNetwork).source.app = .ok a) :
      a = { sessionId, network := sourceNetwork } := (Except.ok.inj ha).symm
  have hip : PlainIp [] := ⟨(by decide : LineText []), List.not_mem_nil, (by decide : ([] : Text).length < 2 ^ 30)⟩
  have hsmall : ({} : SinkValues).Small := ⟨by decide, by decide⟩
  refine ⟨rfl, rfl, List.forall_mem_nil _, List.forall_mem_nil _, List.forall_mem_nil _, List.forall_mem_nil _, guarded_nil,
    ?_, SinkApp.cseqOrder_new sinkNetwork, ?_, List.forall_mem_nil _, ?_, ?_, ?_, ?_, Nat.le_refl 1, ?_, ?_,
    List.forall_mem_nil _, ?_, ?_⟩
  · exact ⟨(by decide : (0 : Int) ≤ 0 ∧ (0 : Int) ≤ SinkApp.maxCSeq), (by decide : ' ' ∉ ([] : Text) ∧ LineText []),
      plainSession_nil, List.forall_mem_nil _, hsink⟩
  · intro request n url hsent
    exact absurd hsent List.not_mem_nil
  · intro request n url session port hv
    exact absurd hv List.not_mem_nil
  · intro request fields date hu
    exact absurd hu List.not_mem_nil
  · intro request n status htaken
    exact absurd htaken List.not_mem_nil
  · intro a ha
    rw [happ ha]
    refine ⟨⟨hsession, hip, hsmall, hsource⟩, ?_, ?_, List.forall_mem_nil _⟩
    · intro _ request n hpending
      rcases hpending with ⟨session, hu⟩ | ⟨fields, date, hv, -⟩
      · exact absurd hu List.not_mem_nil
      · exact absurd hv List.not_mem_nil
    · exact fun hm5 => absurd hm5 List.not_mem_nil
  · intro _
    refine ⟨List.not_mem_nil, fun a ha => ?_⟩
    rw [happ ha]
    exact ⟨.inl rfl, Nat.zero_le 1⟩
  · intro _
    refine ⟨rfl, fun a ha => ?_⟩
    rw [happ ha]
  · intro n session hu
    exact absurd hu List.not_mem_nil
  · intro _
    exact ⟨by simp [new, SinkSession.new], .inl (Int.le_refl 0)⟩

/-- Whatever happens next keeps what holds of a conversation. -/
theorem Holds.step {us : List SourceUtterance} {vs : List SinkUtterance} (h : c.Holds us vs) {input : ConversationInput}
    (hregular : c.Regular input) : ∃ us' vs', (c.step input).Holds us' vs' := by
  cases input with
  | source input => exact h.sourceDoes hregular
  | sink input =>
    have hmax : c.sink.app.cseq ≠ SinkApp.maxCSeq := by
      cases input with
      | sessionInit port capabilities => exact hregular.2
      | read message => exact hregular.elim
      | _ => exact hregular
    refine h.sinkDoes hmax ?_ ?_
    · rintro message rfl
      exact hregular
    · rintro port capabilities rfl
      exact hregular.1
  | sourceReads =>
    rw [WfdConversation.step]
    cases vs with
    | nil =>
      rw [h.toSource]
      exact ⟨us, [], h⟩
    | cons v vs =>
      rw [h.toSource]
      exact h.sourceReads hregular
  | sinkReads =>
    rw [WfdConversation.step]
    cases us with
    | nil =>
      rw [h.toSink]
      exact ⟨[], vs, h⟩
    | cons u us =>
      rw [h.toSink]
      exact h.sinkReads hregular
  | sourceLoses n =>
    refine ⟨us, vs.eraseIdx n, ?_⟩
    have hlost := h.lost (List.Sublist.refl us) (List.eraseIdx_sublist vs n)
    rw [WfdConversation.step, h.toSource, List.eraseIdx_map]
    rwa [← h.toSink] at hlost
  | sinkLoses n =>
    refine ⟨us.eraseIdx n, vs, ?_⟩
    have hlost := h.lost (List.eraseIdx_sublist us n) (List.Sublist.refl vs)
    rw [WfdConversation.step, h.toSink, List.eraseIdx_map]
    rwa [← h.toSource] at hlost

theorem holds_run (hsession : PlainSession sessionId) (hsource : ∀ sending ∈ sourceNetwork, LineText sending.date)
    (hsink : ∀ sending ∈ sinkNetwork, LineText sending.date)
    (run : ConversationRun (new sessionId sourceNetwork sinkNetwork) inputs c) : ∃ us vs, c.Holds us vs := by
  refine GuardedRun.invariant (I := fun c : WfdConversation => ∃ us vs, c.Holds us vs) ⟨[], [], holds_new hsession hsource hsink⟩ ?_ run
  intro c input c' hholds hregular hstep
  obtain ⟨us, vs, hholds⟩ := hholds
  cases hstep
  exact hholds.step hregular

end Runs

instance (ip : Text) : Decidable (PlainIp ip) :=
  decidable_of_iff (LineText ip ∧ ' ' ∉ ip ∧ ip.length < 2 ^ 30)
    ⟨fun h => ⟨h.1, h.2.1, h.2.2⟩, fun h => ⟨h.line, h.blank, h.short⟩⟩

instance (capabilities : Tokens) : Decidable (PlainCapabilities capabilities) :=
  inferInstanceAs (Decidable (∀ t ∈ capabilities, _))

instance (c : WfdConversation) (input : ConversationInput) : Decidable (c.Regular input) := by
  cases input with
  | source input => cases input <;> unfold Regular <;> infer_instance
  | sink input => cases input <;> unfold Regular <;> infer_instance
  | _ => unfold Regular; infer_instance

end WfdConversation

namespace ConversationRun

variable {c : WfdConversation} {sessionId : Text} {sourceNetwork sinkNetwork : List Sending}
  {inputs : List ConversationInput}

/-- A sink of one video format and one audio codec. -/
def sinkCapabilities : Tokens :=
  [("wfd_audio_codecs".toList, "AAC 00000001 00".toList),
    ("wfd_video_formats".toList, "38 00 02 10 00008C8C 00000000 00000000 00 0000 0000 11 none none".toList),
    ("wfd_client_rtp_ports".toList, "RTP/AVP/UDP;unicast 19000 0 mode=play".toList),
    ("wfd_content_protection".toList, "none".toList)]

/-- Both are set up; then each of them reads as soon as there is something to read. -/
def wholeHandshake : List ConversationInput :=
  [.source (.sessionInit "192.168.1.2".toList 1000 .video1280x720_30), .source (.start true),
    .sink (.sessionInit 19000 sinkCapabilities), .sink (.operation .start .created),
    .source (.accept 5 "192.168.1.2".toList true), .sinkReads, .sourceReads, .sourceReads, .sinkReads, .sinkReads,
    .sourceReads, .sinkReads, .sourceReads, .sinkReads, .sourceReads, .sourceReads, .sinkReads, .sourceReads, .sinkReads]

theorem exists_wholeHandshake : ∃ c, ConversationRun (.new "ff123456".toList [] []) wholeHandshake c ∧
    .rtspPlayed ∈ c.stages ∧ .answered .m7 4 rtspStatusOk ∈ c.sink.app.log := by
  have hcheck : (GuardedRun.check (fun c input => (.ok (WfdConversation.step c input) : Except Fault WfdConversation))
      WfdConversation.Regular (.new "ff123456".toList [] []) wholeHandshake).any fun c =>
        decide (.rtspPlayed ∈ c.stages ∧ .answered .m7 4 rtspStatusOk ∈ c.sink.app.log) := by
    -- the texts as the lists of their characters
    unfold wholeHandshake sinkCapabilities
    repeat rw [String.toList_ofList]
    decide +kernel
  obtain ⟨c, hc, hp⟩ := (Option.any_eq_true _ _).mp hcheck
  exact ⟨c, GuardedRun.of_check hc, of_decide_eq_true hp⟩

theorem plainSession_eight : PlainSession "ff123456".toList :=
  ⟨(by decide : LineText "ff123456".toList), (by decide : Trimmed "ff123456".toList), (by decide : ';' ∉ "ff123456".toList)⟩

/-- In whatever order the two act and read, and whatever gets lost on the way: an answer that the sink takes is
one of success, to the request that it has sent under that CSeq and that the source has read, and no two of the
requests that wait for one have the same CSeq. -/
theorem answers_matched (hsession : PlainSession sessionId) (hsource : ∀ sending ∈ sourceNetwork, LineText sending.date)
    (hsink : ∀ sending ∈ sinkNetwork, LineText sending.date)
    (run : ConversationRun (.new sessionId sourceNetwork sinkNetwork) inputs c) :
    c.sink.app.AnswersApart ∧ ∀ request cSeq status, .answered request cSeq status ∈ c.sink.app.log →
      status = rtspStatusOk ∧ c.Matched request cSeq := by
  obtain ⟨us, vs, hholds⟩ := WfdConversation.holds_run hsession hsource hsink run
  exact ⟨hholds.cseqs.toAnswersApart, hholds.taken⟩

/-- The answer to PLAY in a handshake that goes through. -/
theorem answers_matched_play : ∃ c, ConversationRun (.new "ff123456".toList [] []) wholeHandshake c ∧
    .answered .m7 4 rtspStatusOk ∈ c.sink.app.log ∧ c.Matched .m7 4 := by
  obtain ⟨c, run, -, hanswered⟩ := exists_wholeHandshake
  have hmatched := answers_matched plainSession_eight (List.forall_mem_nil _) (List.forall_mem_nil _) run
  exact ⟨c, run, hanswered, (hmatched.2 .m7 4 rtspStatusOk hanswered).2⟩

/-- The two go through the handshake in turn: whatever stage one of them has noted, all the stages before it lie
behind one another, each reached by the party whose turn it was. -/
theorem handshake_inOrder (hsession : PlainSession sessionId) (hsource : ∀ sending ∈ sourceNetwork, LineText sending.date)
    (hsink : ∀ sending ∈ sinkNetwork, LineText sending.date)
    (run : ConversationRun (.new sessionId sourceNetwork sinkNetwork) inputs c) :
    (∀ stage ∈ c.stages, (HandshakeStage.all.take (stage.ctorIdx + 1)).Sublist c.stages) ∧
      (∀ e ∈ c.sink.app.log, ∀ stage ∈ e.stage?, stage ∈ c.stages) ∧
      ∀ a, c.source.app = .ok a → ∀ e ∈ a.log, ∀ stage ∈ e.stage?, stage ∈ c.stages := by
  obtain ⟨us, vs, hholds⟩ := WfdConversation.holds_run hsession hsource hsink run
  refine ⟨?_, hholds.noted, fun a ha => (hholds.inTurn a ha).noted⟩
  intro stage hstage
  have hlt : stage.ctorIdx < HandshakeStage.all.length := by cases stage <;> decide
  have hnth : HandshakeStage.all[stage.ctorIdx] = stage := by cases stage <;> rfl
  refine hholds.order.chain HandshakeStage.all_isChain ?_ hlt (by rwa [hnth])
  intro s t l hbefore hfollows
  exact hfollows s hbefore

theorem handshake_inOrder_whole : ∃ c, ConversationRun (.new "ff123456".toList [] []) wholeHandshake c ∧
    HandshakeStage.all.Sublist c.stages := by
  obtain ⟨c, run, hplayed, -⟩ := exists_wholeHandshake
  have horder := handshake_inOrder plainSession_eight (List.forall_mem_nil _) (List.forall_mem_nil _) run
  exact ⟨c, run, horder.1 .rtspPlayed hplayed⟩

end ConversationRun

end WifiDisplay
