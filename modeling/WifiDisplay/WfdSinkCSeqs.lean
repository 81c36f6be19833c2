import WifiDisplay.PartialMaps
import WifiDisplay.WfdSinkSteps

/-! The CSeqs of the requests that wait for an answer of the source. -/

namespace WifiDisplay

namespace SinkApp

/-- Every request that waits has a CSeq of its own, under which its handler is found. -/
structure AnswersApart (a : SinkApp) : Prop where
  nodup : (a.unanswered.map Prod.fst).Nodup
  handled : ∀ p ∈ a.unanswered, a.responseHandlers p.1 = some p.2

/-- The CSeqs that wait are not above the last one. -/
structure CSeqOrder (a : SinkApp) : Prop extends AnswersApart a where
  bounded : ∀ p ∈ a.unanswered, p.1 ≤ a.cseq
  m6 : ∀ cseq, a.responseHandlers cseq = some .m6 → (cseq, .m6) ∈ a.unanswered

def maxCSeq : Int := 2 ^ 31 - 1

/-- The OPTIONS of the source do not take the CSeq back behind a request that waits, and
no CSeq is the last of its type. -/
def KeepsCSeqs (a : SinkApp) : SinkAction → Prop
  | .request request _ =>
    if request.method = "OPTIONS".toList then
      a.rtspClient = true → (∀ p ∈ a.unanswered, p.1 ≤ request.cSeq) ∧ request.cSeq ≠ maxCSeq
    else a.cseq ≠ maxCSeq
  | .response _ | .idr | .teardown => a.cseq ≠ maxCSeq
  | _ => True

instance (a : SinkApp) (action : SinkAction) : Decidable (a.KeepsCSeqs action) := by
  cases action <;> unfold KeepsCSeqs <;> infer_instance

variable {a b : SinkApp} {request : SinkRequest}

theorem nextCSeq_eq {cseq : Int} (h : cseq ≠ maxCSeq) : nextCSeq cseq = cseq + 1 := if_neg h

theorem CSeqOrder.of_eq (h : CSeqOrder a) (hcseq : b.cseq = a.cseq)
    (hhandlers : b.responseHandlers = a.responseHandlers) (hunanswered : b.unanswered = a.unanswered) :
    CSeqOrder b where
  nodup := hunanswered ▸ h.nodup
  handled := by
    rw [hunanswered, hhandlers]
    exact h.handled
  bounded := by
    rw [hunanswered, hcseq]
    exact h.bounded
  m6 := by
    rw [hunanswered, hhandlers]
    exact h.m6

theorem CSeqOrder.note (h : CSeqOrder a) (e : SinkEvent) : CSeqOrder (a.note e) := h.of_eq rfl rfl rfl

theorem CSeqOrder.quietly (h : CSeqOrder a) (hq : Quietly a b) : CSeqOrder b :=
  h.of_eq hq.cseq hq.handlers hq.unanswered

theorem CSeqOrder.next_ne (h : CSeqOrder a) (hmax : a.cseq ≠ maxCSeq) {p : Int × SinkRequest}
    (hp : p ∈ a.unanswered) : p.1 ≠ nextCSeq a.cseq := by
  have hle := h.bounded p hp
  rw [nextCSeq_eq hmax]
  omega

theorem CSeqOrder.launched (h : CSeqOrder a) (hmax : a.cseq ≠ maxCSeq) (request : SinkRequest)
    (url : Text) : CSeqOrder ((a.register request).launched request url) where
  nodup := by
    change ((a.unanswered ++ [(nextCSeq a.cseq, request)]).map Prod.fst).Nodup
    rw [List.map_append, List.nodup_append]
    refine ⟨h.nodup, List.nodup_singleton _, ?_⟩
    intro c hc c' hc'
    obtain ⟨p, hp, rfl⟩ := List.mem_map.mp hc
    rw [List.mem_singleton.mp hc']
    exact h.next_ne hmax hp
  handled := by
    intro p hp
    rcases List.mem_append.mp hp with hp | hp
    · exact (Function.update_of_ne (h.next_ne hmax hp) _ _).trans (h.handled p hp)
    · rw [List.mem_singleton.mp hp]
      exact Function.update_self _ _ _
  bounded := by
    intro p hp
    change p.1 ≤ nextCSeq a.cseq
    rw [nextCSeq_eq hmax]
    rcases List.mem_append.mp hp with hp | hp
    · have hle := h.bounded p hp
      omega
    · rw [List.mem_singleton.mp hp]
      change nextCSeq a.cseq ≤ a.cseq + 1
      rw [nextCSeq_eq hmax]
  m6 := by
    intro c hc
    change Function.update a.responseHandlers (nextCSeq a.cseq) (some request) c = some .m6 at hc
    rcases PartialMap.eq_some_of_insert hc with ⟨rfl, rfl⟩ | ⟨-, hc⟩
    · exact List.mem_append_right _ (List.mem_singleton_self _)
    · exact List.mem_append_left _ (h.m6 c hc)

theorem CSeqOrder.skipped (h : CSeqOrder a) (hmax : a.cseq ≠ maxCSeq) {handler : Option SinkRequest}
    (hm6 : handler ≠ some .m6) (hcseq : b.cseq = nextCSeq a.cseq)
    (hhandlers : b.responseHandlers = Function.update a.responseHandlers (nextCSeq a.cseq) handler)
    (hunanswered : b.unanswered = a.unanswered) : CSeqOrder b where
  nodup := hunanswered ▸ h.nodup
  handled := by
    intro p hp
    rw [hunanswered] at hp
    rw [hhandlers, Function.update_of_ne (h.next_ne hmax hp)]
    exact h.handled p hp
  bounded := by
    intro p hp
    rw [hunanswered] at hp
    have hle := h.bounded p hp
    rw [hcseq, nextCSeq_eq hmax]
    omega
  m6 := by
    intro c hc
    rw [hunanswered]
    rw [hhandlers] at hc
    rcases PartialMap.eq_some_of_update hc with ⟨-, hc⟩ | ⟨-, hc⟩
    · exact absurd hc hm6
    · exact h.m6 c hc

theorem unregister_handlers (a : SinkApp) (request : SinkRequest) :
    (a.register request).unregister.responseHandlers =
      Function.update a.responseHandlers (nextCSeq a.cseq) none :=
  Function.update_idem _ _ _

theorem CSeqOrder.unregistered (h : CSeqOrder a) (hmax : a.cseq ≠ maxCSeq) (request : SinkRequest) :
    CSeqOrder (a.register request).unregister :=
  h.skipped hmax (by simp) rfl (a.unregister_handlers request) rfl

theorem CSeqOrder.sendRequest (h : CSeqOrder a) (hmax : a.cseq ≠ maxCSeq) (request : SinkRequest)
    (url : Text) (text : Int → Text) : CSeqOrder (a.sendRequest request url text).2 :=
  sendRequest_keeps CSeqOrder.quietly h (h.launched hmax request url) (h.unregistered hmax request)

theorem CSeqOrder.sendM6Request (h : CSeqOrder a) (hmax : a.cseq ≠ maxCSeq) :
    CSeqOrder a.sendM6Request.2 := by
  refine sendM6Request_keeps CSeqOrder.quietly h ?_ (h.unregistered hmax .m6)
  intro b hq _
  exact ((h.launched hmax .m6 a.rtspUrl).quietly hq).of_eq rfl rfl rfl

theorem CSeqOrder.sendM8Request (h : CSeqOrder a) (hmax : a.cseq ≠ maxCSeq) :
    CSeqOrder a.sendM8Request.2 := by
  refine sendM8Request_keeps CSeqOrder.quietly h ?_
  intro b hq
  rcases hq with hsent | hfailed
  · exact ((h.launched hmax .m8 a.rtspUrl).quietly hsent).of_eq rfl rfl rfl
  · exact ((h.unregistered hmax .m8).quietly hfailed).of_eq rfl rfl rfl

theorem CSeqOrder.sendIDRRequest (h : CSeqOrder a) (hmax : a.cseq ≠ maxCSeq) :
    CSeqOrder a.sendIDRRequest.2 :=
  sendIDRRequest_keeps CSeqOrder.quietly h (h.launched hmax .idr a.rtspUrl)
    (h.skipped hmax (by simp) rfl rfl rfl)

theorem CSeqOrder.handleOptionsRequest (h : CSeqOrder a) {cseq : Int}
    (hcseq : a.rtspClient = true → (∀ p ∈ a.unanswered, p.1 ≤ cseq) ∧ cseq ≠ maxCSeq) :
    CSeqOrder (a.handleOptionsRequest cseq) := by
  rw [SinkApp.handleOptionsRequest]
  simp only
  generalize hb : ({ a.stopTimer with isFirstCast := true, isFirstCreateProsumer := true } : SinkApp) = b
  have hbcseq : b.rtspClient = true → (∀ p ∈ b.unanswered, p.1 ≤ cseq) ∧ cseq ≠ maxCSeq := by
    rw [← hb]
    exact hcseq
  have horder : CSeqOrder b := by
    rw [← hb]
    exact h.of_eq rfl rfl rfl
  rcases b.sendM1Response_cases cseq with ⟨hclient, hsame⟩ | ⟨hclient, hanswered⟩
  · rw [hsame]
    rcases b.sendRequest_cases .m2 ['*'] fun cseq => (wfdRtspM2Request cseq).stringify with
      ⟨-, hsame⟩ | ⟨hopen, -⟩ | ⟨hopen, -⟩
    · rw [sendM2Request, hsame]
      exact horder
    · cases hclient.symm.trans hopen
    · cases hclient.symm.trans hopen
  · obtain ⟨hbounded, hmax⟩ := hbcseq hclient
    have htaken : CSeqOrder { b with cseq } := ⟨⟨horder.nodup, horder.handled⟩, hbounded, horder.m6⟩
    have hm1 : CSeqOrder (b.sendM1Response cseq).2 ∧ (b.sendM1Response cseq).2.cseq = cseq := by
      rcases hanswered with hq | hq
      · exact ⟨htaken.quietly hq, hq.cseq⟩
      · exact ⟨(htaken.note .m1Answered).quietly hq, hq.cseq⟩
    exact hm1.1.sendRequest (by rwa [hm1.2]) .m2 ['*'] _

theorem CSeqOrder.handleTriggerMethod (h : CSeqOrder a) (hmax : a.cseq ≠ maxCSeq) (cseq : Int)
    (method : Text) : CSeqOrder (a.handleTriggerMethod cseq method) := by
  refine handleTriggerMethod_keeps CSeqOrder.quietly h (h.note _) ?_ ?_
  · intro b _ _ hq _
    exact ((h.note _).quietly hq).sendM6Request (by rwa [hq.cseq])
  · intro b hq
    exact (h.quietly hq).sendM8Request (by rwa [hq.cseq])

theorem CSeqOrder.handleRequest (h : CSeqOrder a) {request : RtspRequest} {message : Text}
    (hok : a.KeepsCSeqs (.request request message)) : CSeqOrder (a.handleRequest request message) := by
  refine handleRequest_keeps CSeqOrder.quietly h ?_ (h.note _) ?_ ?_ ?_
  · intro hmethod
    rw [KeepsCSeqs, if_pos hmethod] at hok
    exact h.handleOptionsRequest hok
  · intro method htrigger
    rw [KeepsCSeqs, if_neg (by rw [method_of_trigger? htrigger]; decide)] at hok
    exact h.handleTriggerMethod hok request.cSeq method
  · exact fun _ => h.of_eq rfl rfl rfl
  · exact fun _ => h.of_eq rfl rfl rfl

/-- The request whose answer is read waits no longer, and its handler goes. -/
theorem CSeqOrder.answered (h : CSeqOrder a) (request : SinkRequest) (cseq status : Int) :
    CSeqOrder ((a.answered request cseq status).erased cseq) where
  nodup := h.nodup.sublist (List.filter_sublist.map Prod.fst)
  handled := by
    intro p hp
    obtain ⟨hp, hne⟩ := List.mem_filter.mp hp
    exact (Function.update_of_ne (by simpa using hne) _ _).trans (h.handled p hp)
  bounded := fun p hp => h.bounded p (List.mem_filter.mp hp).1
  m6 := by
    intro c hc
    change Function.update a.responseHandlers cseq none c = some .m6 at hc
    obtain ⟨hcseq, hc⟩ := PartialMap.eq_some_of_erase hc
    exact List.mem_filter.mpr ⟨h.m6 c hc, by simpa using hcseq⟩

theorem CSeqOrder.erased_quietly {cseq : Int} (h : CSeqOrder (a.erased cseq)) (hq : Quietly a b) :
    CSeqOrder (b.erased cseq) := by
  refine h.of_eq hq.cseq ?_ hq.unanswered
  change Function.update b.responseHandlers cseq none = Function.update a.responseHandlers cseq none
  rw [hq.handlers]

/-- The PLAY that follows a SETUP has a CSeq behind that of the SETUP. -/
theorem CSeqOrder.sendM7Request {cseq : Int} (h : CSeqOrder (a.erased cseq)) (hmax : a.cseq ≠ maxCSeq)
    (hcseq : cseq ≤ a.cseq) : CSeqOrder (a.sendM7Request.2.erased cseq) := by
  have hne : nextCSeq a.cseq ≠ cseq := by
    rw [nextCSeq_eq hmax]
    omega
  rw [SinkApp.sendM7Request]
  rcases a.sendRequest_cases .m7 a.rtspUrl fun cseq =>
    (wfdRtspM7Request cseq a.rtspUrl a.rtspSession).stringify with
    ⟨-, hsame⟩ | ⟨-, -, hsent⟩ | ⟨-, -, hfailed⟩
  · rw [hsame]
    exact h
  · have hlaunched := h.launched hmax .m7 a.rtspUrl
    have herased : CSeqOrder (((a.register .m7).launched .m7 a.rtspUrl).erased cseq) :=
      hlaunched.of_eq rfl (Function.update_comm hne _ _ _) rfl
    exact herased.erased_quietly hsent
  · have hskipped := h.unregistered hmax .m7
    have herased : CSeqOrder ((a.register .m7).unregister.erased cseq) := by
      refine hskipped.of_eq rfl ?_ rfl
      rw [erased, unregister_handlers, unregister_handlers]
      exact Function.update_comm hne _ _ _
    exact herased.erased_quietly hfailed

theorem CSeqOrder.handleResponse (h : CSeqOrder a) (hmax : a.cseq ≠ maxCSeq)
    (response : RtspResponse) : CSeqOrder (a.handleResponse response) := by
  refine handleResponse_keeps (I := fun b => CSeqOrder (b.erased response.cSeq)) CSeqOrder.erased_quietly h
    ?_ ?_ ?_ (fun _ hb => hb)
  · intro request _
    exact h.answered request response.cSeq response.status
  · intro hhandler _ b hq
    have hread := CSeqOrder.erased_quietly (h.answered .m6 response.cSeq response.status) hq
    have hbounded := h.bounded _ (h.m6 _ hhandler)
    exact hread.sendM7Request (by rwa [hq.cseq]) (by rwa [hq.cseq])
  · intro _ _
    exact (h.answered .m7 response.cSeq response.status).of_eq rfl rfl rfl

theorem CSeqOrder.act (h : CSeqOrder a) {action : SinkAction} (hok : a.KeepsCSeqs action) :
    CSeqOrder (a.act action) := by
  cases action with
  | request request message => exact h.handleRequest hok
  | response response => exact h.handleResponse hok response
  | idr => exact h.sendIDRRequest hok
  | teardown => exact h.sendM8Request hok
  | setClient rtspClient => exact h.of_eq rfl rfl rfl
  | _ => exact h.quietly (quietly_act a trivial)

theorem cseqOrder_new (network : List Sending) : CSeqOrder { network } :=
  ⟨⟨List.nodup_nil, by simp⟩, by simp, by simp⟩

end SinkApp

/-- In the runs of a sink that no OPTIONS takes back, no two requests that wait have the
same CSeq, and each answer finds the handler of its request. -/
theorem SinkRun.answersApart {network : List Sending} {inputs : List SinkInput} {s : SinkSession}
    (run : SinkRun SinkApp.KeepsCSeqs (.new network) inputs s) : s.app.AnswersApart :=
  (run.invariant (I := SinkApp.CSeqOrder) (fun _ _ h hok => h.act hok)
    (SinkApp.cseqOrder_new network)).toAnswersApart

/-- The source sends its OPTIONS again before it has answered those of the sink. -/
theorem repeatedOptions_not_answersApart :
    ¬ ∀ network inputs s, SinkRun (fun _ _ => True) (.new network) inputs s → s.app.AnswersApart := by
  intro h
  obtain ⟨s, hrun, hrepeats⟩ := SinkRun.exists_of_check (fun _ _ => True) (.new [])
    [.operation .start .created, .read sourceOptions, .read sourceOptions]
    (fun s => ¬ (s.app.unanswered.map Prod.fst).Nodup) (by
      -- the texts as the lists of their characters
      unfold sourceOptions
      repeat rw [String.toList_ofList]
      decide +kernel)
  exact hrepeats (h [] _ s hrun).nodup

/-- Two key frames are asked for behind the handshake. -/
theorem SinkRun.handshake_answersApart :
    ∃ s, SinkRun SinkApp.KeepsCSeqs (.new []) (sinkHandshake ++ [.requestIdr, .requestIdr]) s ∧
      s.app.unanswered = [(5, .idr), (6, .idr)] ∧ s.app.AnswersApart := by
  obtain ⟨s, hrun, hwaiting⟩ := SinkRun.exists_of_check SinkApp.KeepsCSeqs (.new [])
    (sinkHandshake ++ [.requestIdr, .requestIdr])
    (fun s => s.app.unanswered = [(5, .idr), (6, .idr)]) (by
      unfold sinkHandshake sourceOptions optionsAnswer sourceGetParameter sourceSetParameter
        setupTrigger plainAnswer
      repeat rw [String.toList_append]
      repeat rw [String.toList_ofList]
      decide +kernel)
  exact ⟨s, hrun, hwaiting, SinkRun.answersApart hrun⟩

end WifiDisplay
