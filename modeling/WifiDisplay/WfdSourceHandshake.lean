import WifiDisplay.WfdSourceSession

/-! The order of the handshake: what has to lie behind the source before it plays. -/

namespace WifiDisplay

open EventLog

/-- What one message or event does to the state, and what it leaves in the log. -/
inductive Turn (s : WfdSessionState) : WfdSessionState → List SourceEvent → Prop where
  | quiet : Turn s s []
  | connected : s = .m0 → Turn s .m1 []
  | m1 : Turn s s [.m1Accepted]
  | m3 : s = .m3 → Turn s s [.m3Accepted]
  | m4Request : s = .m3 → Turn s .m4 [.m3Accepted]
  | m4 : s = .m4 → Turn s s [.m4Accepted]
  | m5Request : s = .m4 → Turn s .m5 [.m4Accepted, .m5Sent, .prosumerCreate]
  | refused : s = .m7Wait → Turn s .m6 []
  | m7 : s = .m7Wait → Turn s .m7 [.enteredM7]
  | told {e : SourceEvent} : e = .teardown ∨ e = .serviceError → Turn s s [e]
  | request (method : Text) : Turn s s [.request method s]
  | noted (method : Text) {e : SourceEvent} : e = .prosumerPause ∨ e = .prosumerDestroy →
      Turn s s [.request method s, e]
  | options {method : Text} {s' : WfdSessionState} : method = "OPTIONS".toList → s' = .m2 ∨ s' = .m3 →
      Turn s s' [.request method s, .m2Answered]
  | setup {method : Text} {e : SourceEvent} : method = "SETUP".toList → e = .m6Answered ∨ e = .m6Unsent →
      Turn s .m7Wait [.request method s, e]
  | played {method : Text} : method = "PLAY".toList → Turn s s [.request method s, .played]
  | playing {method : Text} : method = "PLAY".toList →
      Turn s .m7 [.request method s, .played, .enteredM7]

namespace SourceApp

variable (a : SourceApp)

/-- The step from one state of the source to another is a turn. -/
def Turns (a' : SourceApp) : Prop :=
  ∃ new, Turn a.wfdState a'.wfdState new ∧ a'.log = a.log ++ new

theorem sendRequest_cases (request : Int → Text) (state : WfdSessionState) :
    (a.sendRequest request state).2.log = a.log ∧
      (a.sendRequest request state).2.wfdState =
        if (a.sendRequest request state).1 then state else a.wfdState := by
  rw [sendRequest]
  split
  · exact ⟨rfl, rfl⟩
  · simp only
    split
    · exact ⟨rfl, rfl⟩
    · exact ⟨rfl, rfl⟩

theorem sendM1Request_cases :
    a.sendM1Request.2.log = a.log ∧
      a.sendM1Request.2.wfdState = if a.sendM1Request.1 then .m1 else a.wfdState :=
  a.sendRequest_cases (fun cseq => (wfdRtspM1Request cseq).stringify) .m1

theorem sendM4Request_cases :
    a.sendM4Request.2.log = a.log ∧
      a.sendM4Request.2.wfdState = if a.sendM4Request.1 then .m4 else a.wfdState :=
  a.sendRequest_cases (fun cseq => (wfdRtspM4Request cseq a.sourceIp a.sink).stringify) .m4

theorem sendM2Response_cases (cseq : Int) :
    (a.sendM2Response cseq).1 = false ∧ (a.sendM2Response cseq).2.log = a.log ∧
        (a.sendM2Response cseq).2.wfdState = a.wfdState ∨
      (a.sendM2Response cseq).1 = true ∧ (a.sendM2Response cseq).2.log = a.log ++ [.m2Answered] ∧
        (a.sendM2Response cseq).2.wfdState = .m2 := by
  rw [sendM2Response]
  split
  · exact Or.inl ⟨rfl, rfl, rfl⟩
  · simp only
    split
    · exact Or.inr ⟨rfl, rfl, rfl⟩
    · exact Or.inl ⟨rfl, rfl, rfl⟩

theorem sendCommonResponse_same (cseq : Int) :
    (a.sendCommonResponse cseq).2.log = a.log ∧
      (a.sendCommonResponse cseq).2.wfdState = a.wfdState := by
  rw [sendCommonResponse]
  split
  · exact ⟨rfl, rfl⟩
  · exact ⟨rfl, rfl⟩

theorem handleOptionRequest_cases (cseq : Int) :
    (a.handleOptionRequest cseq).log = a.log ∧ (a.handleOptionRequest cseq).wfdState = a.wfdState ∨
      (a.handleOptionRequest cseq).log = a.log ++ [.m2Answered] ∧
        ((a.handleOptionRequest cseq).wfdState = .m2 ∨
          (a.handleOptionRequest cseq).wfdState = .m3) := by
  rw [handleOptionRequest]
  simp only
  rcases a.sendM2Response_cases cseq with ⟨hret, hlog, hstate⟩ | ⟨hret, hlog, hstate⟩
  · simp only [hret, Bool.false_eq_true, if_false]
    exact Or.inl ⟨hlog, hstate⟩
  · obtain ⟨hlog3, hstate3⟩ := (a.sendM2Response cseq).2.sendRequest_cases
      (fun cseq => (wfdRtspM3Request cseq wfdRtspUrlDefault).stringify) .m3
    simp only [hret, if_true]
    refine Or.inr ⟨hlog3.trans hlog, ?_⟩
    rw [sendM3Request, hstate3]
    split
    · exact Or.inr rfl
    · exact Or.inl hstate

theorem handleSetupRequest_cases (cseq : Int) :
    (a.handleSetupRequest cseq).log = a.log ∧ (a.handleSetupRequest cseq).wfdState = a.wfdState ∨
      (a.handleSetupRequest cseq).wfdState = .m7Wait ∧
        ((a.handleSetupRequest cseq).log = a.log ++ [.m6Answered] ∨
          (a.handleSetupRequest cseq).log = a.log ++ [.m6Unsent]) := by
  rw [handleSetupRequest, sendM6Response]
  split
  · exact Or.inl ⟨rfl, rfl⟩
  · simp only
    split
    · exact Or.inr ⟨rfl, Or.inl rfl⟩
    · exact Or.inr ⟨rfl, Or.inr rfl⟩

theorem sendM7Response_cases (cseq : Int) :
    (a.sendM7Response cseq).2.log = a.log ∧ (a.sendM7Response cseq).2.wfdState = a.wfdState ∨
      (a.sendM7Response cseq).2.log = a.log ++ [.enteredM7] ∧
        (a.sendM7Response cseq).2.wfdState = .m7 := by
  rw [sendM7Response]
  split
  · exact Or.inl ⟨rfl, rfl⟩
  · exact Or.inr ⟨rfl, rfl⟩

theorem handlePlayRequest_cases (cseq : Int) :
    (a.handlePlayRequest cseq).log = a.log ++ [.played] ∧
        (a.handlePlayRequest cseq).wfdState = a.wfdState ∨
      (a.handlePlayRequest cseq).log = a.log ++ [.played] ++ [.enteredM7] ∧
        (a.handlePlayRequest cseq).wfdState = .m7 := sendM7Response_cases _ cseq

/-- The state met by the request stands in the log before what its handler adds. -/
theorem handleRequest_turns (request : RtspRequest) : a.Turns (a.handleRequest request) := by
  have hnoted {new : List SourceEvent} {state : WfdSessionState}
      (hturn : Turn a.wfdState state (.request request.method a.wfdState :: new)) {a' : SourceApp}
      (hlog : a'.log = (a.note (.request request.method a.wfdState)).log ++ new)
      (hstate : a'.wfdState = state) : a.Turns a' :=
    ⟨_, hstate ▸ hturn, by rw [hlog, note, List.append_assoc]; rfl⟩
  have hplain {a' : SourceApp} (hlog : a'.log = (a.note (.request request.method a.wfdState)).log)
      (hstate : a'.wfdState = a.wfdState) : a.Turns a' :=
    hnoted (.request request.method) (by rw [hlog, List.append_nil]) hstate
  rw [handleRequest]
  by_cases hoptions : request.method = "OPTIONS".toList
  · rw [if_pos hoptions]
    rcases (a.note _).handleOptionRequest_cases request.cSeq with ⟨hlog, hstate⟩ | ⟨hlog, hstate⟩
    · exact hplain hlog hstate
    · exact hnoted (.options hoptions hstate) hlog rfl
  rw [if_neg hoptions]
  by_cases hsetup : request.method = "SETUP".toList
  · rw [if_pos hsetup]
    rcases (a.note _).handleSetupRequest_cases request.cSeq with ⟨hlog, hstate⟩ | ⟨hstate, hlog | hlog⟩
    · exact hplain hlog hstate
    · exact hnoted (.setup hsetup (Or.inl rfl)) hlog hstate
    · exact hnoted (.setup hsetup (Or.inr rfl)) hlog hstate
  rw [if_neg hsetup]
  by_cases hplay : request.method = "PLAY".toList
  · rw [if_pos hplay]
    rcases (a.note _).handlePlayRequest_cases request.cSeq with ⟨hlog, hstate⟩ | ⟨hlog, hstate⟩
    · exact hnoted (.played hplay) hlog hstate
    · rw [List.append_assoc] at hlog
      exact hnoted (.playing hplay) hlog hstate
  rw [if_neg hplay]
  split
  · obtain ⟨hlog, hstate⟩ := sendCommonResponse_same
      ({ a.note (.request request.method a.wfdState) with prosumerState := .start }.note
        .prosumerPause) request.cSeq
    exact hnoted (.noted request.method (Or.inl rfl)) hlog hstate
  · split
    · obtain ⟨hlog, hstate⟩ := sendCommonResponse_same
        { (a.note (.request request.method a.wfdState)).note .prosumerDestroy with
          prosumerState := .stop } request.cSeq
      exact hnoted (.noted request.method (Or.inr rfl)) hlog hstate
    · split
      · rw [handleIDRRequest]
        split
        · obtain ⟨hlog, hstate⟩ := sendCommonResponse_same
            (a.note (.request request.method a.wfdState)) request.cSeq
          exact hplain hlog hstate
        · exact hplain rfl rfl
      · exact hplain rfl rfl

theorem handleM3Response_turns {a' : SourceApp} (hstate : a.wfdState = .m3) {response : RtspResponse}
    (h : a.handleM3Response response = .ok a') : a.Turns a' := by
  rw [handleM3Response] at h
  split at h
  · cases h
    exact ⟨[], .quiet, by simp⟩
  · obtain ⟨sink, -, hpure⟩ := bind_eq_ok.mp h
    cases hpure
    refine ⟨[.m3Accepted], ?_, (sendM4Request_cases _).1⟩
    rw [(sendM4Request_cases _).2]
    split
    · exact .m4Request hstate
    · exact .m3 hstate

theorem handleM4Response_turns (hstate : a.wfdState = .m4) (response : RtspResponse) :
    a.Turns (a.handleM4Response response) := by
  rw [handleM4Response]
  split
  · exact ⟨[], .quiet, by simp⟩
  · obtain ⟨hlog, hnext⟩ := (a.note .m4Accepted).sendRequest_cases
      (fun cseq => (wfdRtspM5Request cseq "SETUP".toList).stringify) .m5
    simp only [sendM5Request]
    split
    · rename_i hret
      rw [hret, if_pos rfl] at hnext
      refine ⟨[.m4Accepted, .m5Sent, .prosumerCreate], ?_, ?_⟩
      · rw [note, note, hnext]
        exact .m5Request hstate
      · rw [note, note, hlog, note, List.append_assoc, List.append_assoc]
        rfl
    · rename_i hret
      rw [if_neg hret] at hnext
      refine ⟨[.m4Accepted], ?_, hlog⟩
      rw [hnext]
      exact .m4 hstate

theorem handleResponse_turns {a' : SourceApp} {response : RtspResponse}
    (h : a.handleResponse response = .ok a') : a.Turns a' := by
  have hquiet {a' : SourceApp} (hlog : a'.log = a.log) (hstate : a'.wfdState = a.wfdState) :
      a.Turns a' := ⟨[], by rw [hstate]; exact .quiet, by rw [hlog, List.append_nil]⟩
  rw [handleResponse] at h
  split at h
  · cases h
    exact hquiet rfl rfl
  · obtain ⟨b, hb, hlog, hsame⟩ : ∃ b : SourceApp, (if WfdSessionState.m7.ctorIdx ≤ a.wfdState.ctorIdx
        then { a with rtspTimeoutCounts := maxRtspTimeoutCounts } else a) = b ∧
          b.log = a.log ∧ b.wfdState = a.wfdState := by
      refine ⟨_, rfl, ?_⟩
      split
      · exact ⟨rfl, rfl⟩
      · exact ⟨rfl, rfl⟩
    have hturns {c : SourceApp} (hc : b.Turns c) : a.Turns c := by
      obtain ⟨new, hturn, hnew⟩ := hc
      exact ⟨new, hsame ▸ hturn, hlog ▸ hnew⟩
    rw [hb] at h
    simp only at h
    apply hturns
    split at h
    · cases h
      rw [handleM1Response]
      split
      · exact ⟨[], .quiet, by simp⟩
      · split
        · exact ⟨[.m1Accepted], .m1, rfl⟩
        · exact ⟨[], .quiet, by simp⟩
    · exact b.handleM3Response_turns (by assumption) h
    · cases h
      exact b.handleM4Response_turns (by assumption) response
    · cases h
      rw [handleM7Response]
      split
      · exact ⟨[], .refused (by assumption), by simp [enter]⟩
      · exact ⟨[.enteredM7], .m7 (by assumption), rfl⟩
    · cases h
      rw [handleM8Response]
      split
      · exact ⟨[], .quiet, by simp⟩
      · exact ⟨[.teardown], .told (Or.inl rfl), rfl⟩
    · cases h
      exact ⟨[], .quiet, by simp⟩

theorem sendM16Request_turns : a.Turns a.sendM16Request := by
  rw [sendM16Request]
  split
  · exact ⟨[.serviceError], .told (Or.inr rfl), rfl⟩
  · split
    · exact ⟨[], .quiet, by simp⟩
    · exact ⟨[], .quiet, by simp [send]⟩

end SourceApp

/-- The steps of the handshake in their order. -/
def handshake : List SourceEvent :=
  [.m1Accepted, .m2Answered, .m3Accepted, .m4Accepted, .m5Sent, .m6Answered]

/-- The steps that lie behind a state. -/
def WfdSessionState.passed : WfdSessionState → List SourceEvent
  | .m0 | .m1 => []
  | .m2 | .m3 => handshake.take 2
  | .m4 => handshake.take 3
  | .m5 => handshake.take 5
  | _ => handshake

/-- The source plays, or enters M7, only behind the whole handshake. -/
def HandshakeOrder (log : List SourceEvent) : Prop :=
  Guarded (fun before e => e = .played ∨ e = .enteredM7 → handshake.Sublist before) log

/-- When a request may come, and no answer to SETUP is lost. -/
def InTurn (before : List SourceEvent) : SourceEvent → Prop
  | .request method state =>
    (method = "OPTIONS".toList → SourceEvent.m1Accepted ∈ before) ∧
      (method = "SETUP".toList → state ∈ [WfdSessionState.m5, .m6, .m7Wait, .m7]) ∧
      (method = "PLAY".toList → state ∈ [WfdSessionState.m6, .m7Wait, .m7])
  | .m6Unsent => False
  | _ => True

instance (before : List SourceEvent) (e : SourceEvent) : Decidable (InTurn before e) := by
  cases e <;> unfold InTurn <;> infer_instance

def Orderly (log : List SourceEvent) : Prop := Guarded InTurn log

instance (log : List SourceEvent) : Decidable (HandshakeOrder log) :=
  inferInstanceAs (Decidable (Guarded _ log))

instance (log : List SourceEvent) : Decidable (Orderly log) :=
  inferInstanceAs (Decidable (Guarded _ log))

structure InOrder (s : WfdSessionState) (log : List SourceEvent) : Prop where
  passed : s.passed.Sublist log
  order : HandshakeOrder log

namespace InOrder

variable {s s' : WfdSessionState} {log : List SourceEvent} (h : InOrder s log)
include h

theorem note {e : SourceEvent} (he : ¬ (e = .played ∨ e = .enteredM7)) : InOrder s (log ++ [e]) :=
  ⟨sublist_later h.passed e, guarded_snoc.mpr ⟨h.order, fun hplay => absurd hplay he⟩⟩

theorem announce (hall : handshake.Sublist log) (e : SourceEvent) : InOrder s (log ++ [e]) :=
  ⟨sublist_later h.passed e, guarded_snoc.mpr ⟨h.order, fun _ => hall⟩⟩

theorem enter (hpassed : s'.passed.Sublist log) : InOrder s' log := ⟨hpassed, h.order⟩

/-- The next step of the handshake. -/
theorem pass {e : SourceEvent} (he : ¬ (e = .played ∨ e = .enteredM7))
    (hnext : s'.passed = s.passed ++ [e]) : InOrder s' (log ++ [e]) :=
  (h.note he).enter (hnext ▸ sublist_snoc h.passed e)

end InOrder

theorem passed_of_late {s : WfdSessionState} (h : s ∈ [WfdSessionState.m6, .m7Wait, .m7]) :
    s.passed = handshake := by
  simp only [List.mem_cons, List.not_mem_nil, or_false] at h
  rcases h with rfl | rfl | rfl <;> rfl

theorem passed_of_setup {s : WfdSessionState} (h : s ∈ [WfdSessionState.m5, .m6, .m7Wait, .m7]) :
    (handshake.take 5).Sublist s.passed := by
  rcases List.mem_cons.mp h with rfl | hlate
  · exact List.Sublist.refl _
  · rw [passed_of_late hlate]
    exact List.take_sublist 5 handshake

/-- A turn keeps the order of a log whose requests come in turn. -/
theorem Turn.inOrder {s s' : WfdSessionState} {new log : List SourceEvent} (ht : Turn s s' new)
    (h : Orderly log → InOrder s log) (hnew : Orderly (log ++ new)) : InOrder s' (log ++ new) := by
  have hlog : InOrder s log := h hnew.prefix
  cases ht with
  | quiet =>
    rw [List.append_nil]
    exact hlog
  | connected hs =>
    rw [List.append_nil]
    exact hlog.enter (List.nil_sublist log)
  | m1 => exact hlog.note (by decide)
  | m3 hs => exact hlog.note (by decide)
  | m4Request hs =>
    subst hs
    exact hlog.pass (by decide) rfl
  | m4 hs => exact hlog.note (by decide)
  | m5Request hs =>
    subst hs
    rw [List.append_cons, List.append_cons]
    have hsent : InOrder .m5 (log ++ [.m4Accepted] ++ [.m5Sent]) :=
      ((hlog.note (by decide)).note (by decide)).enter
        (sublist_snoc (sublist_snoc hlog.passed .m4Accepted) .m5Sent)
    exact hsent.note (by decide)
  | refused hs =>
    subst hs
    rw [List.append_nil]
    exact hlog.enter hlog.passed
  | m7 hs =>
    subst hs
    exact (hlog.announce hlog.passed .enteredM7).enter (sublist_later hlog.passed _)
  | told he => rcases he with rfl | rfl <;> exact hlog.note (by decide)
  | request method => exact hlog.note (by simp)
  | noted method he =>
    rw [List.append_cons]
    rcases he with rfl | rfl <;> exact (hlog.note (by simp)).note (by decide)
  | @options method s' hmethod hs' =>
    rw [List.append_cons, Orderly, guarded_snoc, guarded_snoc] at hnew
    have hm1 := hnew.1.2.1 hmethod
    have hstones : (handshake.take 2).Sublist (log ++ [.request method s] ++ [.m2Answered]) :=
      sublist_snoc (sublist_later (List.singleton_sublist.mpr hm1) _) .m2Answered
    rw [List.append_cons]
    have hnoted : InOrder s (log ++ [.request method s] ++ [.m2Answered]) :=
      (hlog.note (by simp)).note (by decide)
    rcases hs' with rfl | rfl <;> exact hnoted.enter hstones
  | @setup method e hmethod he =>
    rw [List.append_cons, Orderly, guarded_snoc, guarded_snoc] at hnew
    rcases he with rfl | rfl
    · have hpassed := (passed_of_setup (hnew.1.2.2.1 hmethod)).trans hlog.passed
      rw [List.append_cons]
      exact ((hlog.note (by simp)).note (by decide)).enter
        (sublist_snoc (sublist_later hpassed _) .m6Answered)
    · exact absurd hnew.2 id
  | played hmethod =>
    rw [List.append_cons, Orderly, guarded_snoc, guarded_snoc] at hnew
    have hall := passed_of_late (hnew.1.2.2.2 hmethod) ▸ hlog.passed
    rw [List.append_cons]
    exact (hlog.note (by simp)).announce (sublist_later hall _) .played
  | @playing method hmethod =>
    rw [List.append_cons, List.append_cons, Orderly, guarded_snoc, guarded_snoc, guarded_snoc] at hnew
    have hall := passed_of_late (hnew.1.1.2.2.2 hmethod) ▸ hlog.passed
    rw [List.append_cons, List.append_cons]
    have hrequest := sublist_later hall (.request method s)
    have hplayed := (hlog.note (by simp)).announce hrequest .played
    exact (hplayed.announce (sublist_later hrequest _) .enteredM7).enter
      (sublist_later (sublist_later hrequest _) _)

namespace SourceSession

/-- What every state of a run keeps. -/
def Kept (app : Except Fault SourceApp) : Prop :=
  ∀ a, app = .ok a → Orderly a.log → InOrder a.wfdState a.log

theorem kept_of_turns {a a' : SourceApp} (ht : a.Turns a') (h : Orderly a.log → InOrder a.wfdState a.log)
    (horder : Orderly a'.log) : InOrder a'.wfdState a'.log := by
  obtain ⟨new, hturn, hlog⟩ := ht
  rw [hlog] at horder ⊢
  exact hturn.inOrder h horder

theorem Kept.map {app : Except Fault SourceApp} (h : Kept app) {f : SourceApp → SourceApp}
    (hf : ∀ a : SourceApp, a.Turns (f a)) : Kept (app.map f) := by
  intro a' ha'
  cases app with
  | error e => cases ha'
  | ok a =>
    cases ha'
    exact kept_of_turns (hf a) (h a rfl)

theorem Kept.bind {app : Except Fault SourceApp} (h : Kept app)
    {f : SourceApp → Except Fault SourceApp} (hf : ∀ a a' : SourceApp, f a = .ok a' → a.Turns a') :
    Kept (app >>= f) := by
  intro a' ha'
  obtain ⟨a, ha, hfa⟩ := bind_eq_ok.mp ha'
  exact kept_of_turns (hf a a' hfa) (h a ha)

theorem turns_same {a a' : SourceApp} (hlog : a'.log = a.log) (hstate : a'.wfdState = a.wfdState) :
    a.Turns a' := ⟨[], by rw [hstate]; exact .quiet, by rw [hlog, List.append_nil]⟩

theorem Kept.step {s : SourceSession} (h : Kept s.app) (input : SourceInput) :
    Kept (SourceSession.step s input).app := by
  cases input with
  | sessionInit ip localPort videoFormat => exact h.map fun a => turns_same rfl rfl
  | start created => exact h.map fun a => turns_same rfl rfl
  | stop => exact h.map fun a => turns_same rfl rfl
  | keepAlive => exact h.map fun a => a.sendM16Request_turns
  | accept fd localIp started =>
    rw [SourceSession.step, onAccept]
    split
    · rename_i a ha
      rw [ha] at h
      split
      · rw [ha]
        exact h
      · rename_i hstate
        intro a' ha'
        cases ha'
        refine kept_of_turns ?_ (h a rfl)
        split
        · refine ⟨[], ?_, by rw [(SourceApp.sendM1Request_cases _).1, List.append_nil]⟩
          rw [(SourceApp.sendM1Request_cases _).2]
          split
          · exact .connected (not_not.mp hstate)
          · exact .quiet
        · exact turns_same rfl rfl
    · exact h
  | read fd text =>
    rw [SourceSession.step, WfdSourceSession.onServerReadData]
    split
    · exact h
    · apply RtspSession.app_readData (P := Kept) _ _ h
      · intro app response text happ
        exact happ.bind fun a a' => a.handleResponse_turns
      · intro app request text happ
        exact happ.map fun a => a.handleRequest_turns request

theorem Kept.run {s : SourceSession} (h : Kept s.app) (inputs : List SourceInput) :
    Kept (SourceSession.run s inputs).app := by
  induction inputs generalizing s with
  | nil => exact h
  | cons input inputs ih => exact ih (h.step input)

/-- Where the requests come in turn and no answer to SETUP is lost, a source plays
only behind the whole handshake. -/
theorem handshake_order {s : SourceSession} {a₀ a : SourceApp} (happ : s.app = .ok a₀)
    (hstate : a₀.wfdState = .m0) (hlog : a₀.log = []) (inputs : List SourceInput)
    (ha : (SourceSession.run s inputs).app = .ok a) (horderly : Orderly a.log) :
    HandshakeOrder a.log := by
  have hkept : Kept s.app := by
    intro a' ha' _
    rw [happ] at ha'
    cases ha'
    rw [hstate, hlog]
    exact ⟨List.nil_sublist _, guarded_nil⟩
  exact (hkept.run inputs a ha horderly).order

def fresh : SourceSession := { app := .ok {}, rtspServerFd := 0 }

def fullHandshake : List SourceInput :=
  [.start true, .accept 7 [] true,
    .read 7 ("RTSP/1.0 200 OK\r\nCSeq: 1\r\n" ++
      "Public: org.wfa.wfd1.0, SET_PARAMETER, GET_PARAMETER\r\n\r\n").toList,
    .read 7 "OPTIONS * RTSP/1.0\r\nCSeq: 1\r\n\r\n".toList,
    .read 7 fullAnswer,
    .read 7 "RTSP/1.0 200 OK\r\nCSeq: 3\r\n\r\n".toList,
    .read 7 "SETUP rtsp://localhost/wfd1.0 RTSP/1.0\r\nCSeq: 2\r\n\r\n".toList,
    .read 7 "PLAY rtsp://localhost/wfd1.0 RTSP/1.0\r\nCSeq: 3\r\n\r\n".toList]

theorem fullHandshake_log : (run fresh fullHandshake).app.map SourceApp.log =
    .ok [.m1Accepted, .request "OPTIONS".toList .m1, .m2Answered, .m3Accepted, .m4Accepted, .m5Sent,
      .prosumerCreate, .request "SETUP".toList .m5, .m6Answered, .request "PLAY".toList .m7Wait,
      .played, .enteredM7] := by
  -- the texts as the lists of their characters
  unfold fullHandshake fullAnswer
  repeat rw [String.toList_append]
  repeat rw [String.toList_ofList]
  decide +kernel

theorem fullHandshake_ordered : ∃ a, (run fresh fullHandshake).app = .ok a ∧
    SourceEvent.played ∈ a.log ∧ HandshakeOrder a.log := by
  have hlog := fullHandshake_log
  cases happ : (run fresh fullHandshake).app with
  | error e =>
    rw [happ] at hlog
    cases hlog
  | ok a =>
    rw [happ] at hlog
    refine ⟨a, rfl, ?_, handshake_order rfl rfl rfl fullHandshake happ ?_⟩
    · rw [Except.ok.inj hlog]
      decide
    · rw [Except.ok.inj hlog]
      decide

def earlyPlay : List SourceInput :=
  [.start true, .accept 7 [] true,
    .read 7 "PLAY rtsp://localhost/wfd1.0 RTSP/1.0\r\nCSeq: 1\r\n\r\n".toList]

theorem earlyPlay_log : (run fresh earlyPlay).app.map SourceApp.log =
    .ok [.request "PLAY".toList .m1, .played, .enteredM7] := by
  unfold earlyPlay
  repeat rw [String.toList_ofList]
  decide +kernel

/-- A sink that starts with PLAY is played to. -/
theorem earlyPlay_unordered :
    ∃ a, (run fresh earlyPlay).app = .ok a ∧ ¬ HandshakeOrder a.log := by
  have hlog := earlyPlay_log
  cases happ : (run fresh earlyPlay).app with
  | error e =>
    rw [happ] at hlog
    cases hlog
  | ok a =>
    rw [happ] at hlog
    refine ⟨a, rfl, ?_⟩
    rw [Except.ok.inj hlog]
    decide

end SourceSession

end WifiDisplay
