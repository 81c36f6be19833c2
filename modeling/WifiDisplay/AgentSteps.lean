import WifiDisplay.Agent

/-! What one event and one notification can do to an agent. -/

namespace WifiDisplay

namespace Agent

inductive Act where
  | event (e : Event)
  | notify (n : Notification)
  deriving DecidableEq, Repr

def act (a : Agent) : Act → Agent × List Output
  | .event e => ((a.handleEvent e).1, (a.handleEvent e).2.2)
  | .notify n => a.onSessionNotify n

variable {a a' : Agent} {e : StepEvent} {code : ErrorCode} {outputs : List Output}

def isProsumerError : EventType → Bool
  | .prosumerError _ => true
  | _ => false

/-- What the agent hands on when it takes a step. -/
def forward (a : Agent) (e : Event) : List Output := (a.switchStep e).2

@[simp]
theorem forward_setRunningStatus (step : AgentRunStep) (status : AgentRunningStatus) (e : Event) :
    (a.setRunningStatus step status).forward e = a.forward e := by
  obtain ⟨type, requestId, errorCode⟩ := e
  cases type <;> rfl

/-- The outcomes for an event that asks for a step and is no error. -/
inductive Taken (a : Agent) (e : StepEvent) : Agent → ErrorCode → List Output → Prop where
  | rejected (h : a.runningStatus = .done ∧ a.runStep = .destroy ∨
      a.runningStatus = .running ∧ (getRunStep e.1.type = a.runStep ∨ a.runStep = .destroy ∨
        (a.runEvents.find? (runStepKey e.1)).isSome) ∨
      a.runningStatus = .error ∧ getRunStep e.1.type ≠ .destroy) : Taken a e a .generalError []
  | cached (h : a.runningStatus = .done ∧ a.runStep.value < 2 ∧ getRunStep e.1.type ≠ .start ∨
      a.runningStatus = .running ∧ getRunStep e.1.type ≠ a.runStep ∧
        a.runEvents.find? (runStepKey e.1) = none)
      (hstep : getRunStep e.1.type ≠ .destroy) (hrun : a.runStep ≠ .destroy) :
      Taken a e (a.cache e) .ok []
  | interrupts (hstatus : a.runningStatus = .running) (hstep : getRunStep e.1.type = .destroy)
      (hrun : a.runStep ≠ .destroy) (hnew : a.runEvents.find? (runStepKey e.1) = none) :
      Taken a e ((a.setRunningStatus a.runStep .interrupt).cache e) .ok
        (a.updateSessionStatus .interrupt e.1)
  | starts (h : a.runningStatus = .done ∧ a.runStep ≠ .destroy ∧
        (2 ≤ a.runStep.value ∨ getRunStep e.1.type = .start ∨ getRunStep e.1.type = .destroy) ∨
      a.runningStatus = .error ∧ getRunStep e.1.type = .destroy) :
      Taken a e (a.setRunningStatus (getRunStep e.1.type) .running) .ok (a.forward e.1)
  | interrupted (hstatus : a.runningStatus = .interrupt) :
      Taken a e a .ok (a.updateSessionStatus .interrupt e.1)
  | idle (hstatus : a.runningStatus = .idle) : Taken a e a .ok (a.forward e.1)

theorem value_start (step : AgentRunStep) : step = .start ↔ step.value = 2 := by
  cases step <;> decide

theorem two_le_of_stepEvent (e : StepEvent) : 2 ≤ (getRunStep e.1.type).value := by
  obtain ⟨⟨type, requestId, errorCode⟩, hstep⟩ := e
  cases type <;> first | exact Nat.le_of_ble_eq_true rfl | exact absurd rfl hstep

theorem value_destroy (step : AgentRunStep) : step = .destroy ↔ 9 ≤ step.value := by
  cases step <;> decide

/-- `HandleEvent` behind `CheckRunStep`; `act` is what the agent goes on with. -/
def behindCheck (e : Event) (act : Agent → Agent × List Output) (checked : Agent × ErrorCode × Bool) :
    Agent × ErrorCode × List Output :=
  let (b, retCode, isCached) := checked
  if (retCode ≠ .ok ∨ isCached) ∧ b.runningStatus ≠ .interrupt then (b, retCode, [])
  else if b.runningStatus = .interrupt then (b, retCode, b.updateSessionStatus .interrupt e)
  else ((act b).1, .ok, (act b).2)

theorem taken (he : isProsumerError e.1.type = false) : Taken a e (a.handleEventWith e.1 switchStep).1
    (a.handleEventWith e.1 switchStep).2.1 (a.handleEventWith e.1 switchStep).2.2 := by
  have hwith : a.handleEventWith e.1 switchStep =
      behindCheck e.1 (fun b => (b, b.forward e.1)) (a.checkRunStep e.1) := by
    obtain ⟨⟨type, requestId, errorCode⟩, hstep⟩ := e
    cases type <;> first | rfl | cases he
  have hlow := two_le_of_stepEvent e
  have hstart := value_start (getRunStep e.1.type)
  have hstep := e.2
  have hdestroy := value_destroy (getRunStep e.1.type)
  have hrun := value_destroy a.runStep
  rw [hwith, behindCheck, checkRunStep, dif_neg hstep]
  have hfive : AgentRunStep.start.value = 2 ∧ AgentRunStep.destroy.value = 9 := ⟨rfl, rfl⟩
  cases hs : a.runningStatus with
  | idle =>
    simp only [hs]
    exact .idle hs
  | interrupt =>
    simp only [hs]
    exact .interrupted hs
  | done =>
    simp only
    by_cases hd : a.runStep = .destroy
    · rw [if_pos hd]
      simp only [hs]
      exact .rejected (Or.inl ⟨hs, hd⟩)
    · rw [if_neg hd]
      split
      · rename_i hcache
        have hstatus : (a.cache e).runningStatus = .done := hs
        simp only [hstatus]
        refine .cached (Or.inl ⟨hs, by omega, ?_⟩) ?_ hd
        · rw [Ne, hstart]
          omega
        · rw [Ne, hdestroy]
          omega
      · rename_i hcache
        have hstatus : (a.setRunningStatus (getRunStep e.1.type) .running).runningStatus = .running := rfl
        simp only [hstatus, forward_setRunningStatus]
        refine .starts (Or.inl ⟨hs, hd, ?_⟩)
        rw [hstart, hdestroy]
        omega
  | running =>
    simp only
    split
    · rename_i hreject
      simp only [hs]
      refine .rejected (Or.inr (Or.inl ⟨hs, ?_⟩))
      rw [hrun]
      exact hreject
    · rename_i haccept
      have hnew : getRunStep e.1.type ≠ a.runStep := fun h => haccept (Or.inl h)
      have hd : a.runStep ≠ .destroy := fun h => haccept (Or.inr (Or.inl (hrun.mp h)))
      have hnone : a.runEvents.find? (runStepKey e.1) = none := by
        cases hfind : a.runEvents.find? (runStepKey e.1) with
        | none => rfl
        | some v => exact absurd (Or.inr (Or.inr (by rw [hfind]; rfl))) haccept
      split
      · rename_i hinterrupt
        have hstatus : ((a.setRunningStatus a.runStep .interrupt).cache e).runningStatus = .interrupt := rfl
        simp only [hstatus]
        exact .interrupts hs hinterrupt.1 hd hnone
      · rename_i hcache
        have hstatus : (a.cache e).runningStatus = .running := hs
        simp only [hstatus]
        refine .cached (Or.inr ⟨hs, hnew, hnone⟩) ?_ hd
        intro hstep
        rw [Ne, hrun] at hd
        have hvalue := hdestroy.mp hstep
        exact hcache ⟨hstep, by omega⟩
  | error =>
    simp only
    split
    · rename_i hd
      have hstatus : (a.setRunningStatus (getRunStep e.1.type) .running).runningStatus = .running := rfl
      simp only [hstatus, forward_setRunningStatus]
      exact .starts (Or.inr ⟨hs, hd⟩)
    · rename_i hd
      simp only [hs]
      exact .rejected (Or.inr (Or.inr ⟨hs, hd⟩))

/-- The errors of a prosumer that stop the session. -/
def stopsSession : ErrorCode → Bool
  | .prosumerInit | .prosumerCreate | .prosumerStart | .prosumerVideoCapture | .prosumerTimeout => true
  | _ => false

/-- The errors of a session that end the step. -/
def endsStep : ErrorCode → Bool
  | .sessionStart | .connectionFailure | .invalidUrl | .decodeFormat | .unauthorized
  | .interactionFailure | .protocolInteractionTimeout | .networkError | .intakeTimeout => true
  | _ => false

theorem handleSessionError_eq (requestId : BitVec 32) (code : ErrorCode) :
    a.handleSessionError requestId code = if endsStep code then
      ((a.popNextStep a.runStep .error).1,
        .interaction .msgError requestId code :: (a.popNextStep a.runStep .error).2)
      else (a, [.interaction .msgError requestId code]) := by
  cases code <;> rfl

/-- An error of the prosumer passes every check. -/
theorem handleEvent_prosumerError {e : Event} (he : isProsumerError e.type = true) :
    a.handleEvent e = (a.setRunningStatus .destroy .running, .ok, a.handleProsumerError e) := by
  obtain ⟨type, requestId, errorCode⟩ := e
  cases type <;> first | (cases errorCode <;> rfl) | cases he

theorem handleEvent_taken (he : isProsumerError e.1.type = false) :
    Taken a e (a.handleEvent e.1).1 (a.handleEvent e.1).2.1 (a.handleEvent e.1).2.2 := by
  rw [handleEvent_stepEvent]
  exact taken he

/-- An event that asks for no step passes the check, unless the agent is interrupted. -/
theorem handleEvent_idle {e : Event} (he : getRunStep e.type = .idle) :
    a.handleEvent e = if a.runningStatus = .interrupt then
      (a, .ok, a.updateSessionStatus .interrupt e) else ((a.switch e).1, .ok, (a.switch e).2) := by
  have hwith : a.handleEvent e = behindCheck e (·.switch e) (a.checkRunStep e) := by
    obtain ⟨type, requestId, errorCode⟩ := e
    cases type <;> first | rfl | cases he
  rw [hwith, behindCheck, checkRunStep, dif_pos he]
  simp

/-- The pop of a step with an event that was kept. -/
theorem popNextStep_some {key : AgentRunStepKey} (status : AgentRunningStatus)
    (hfirst : a.runEvents.begin? = some (key, e)) : a.popNextStep a.runStep status =
      let r := { a.setRunningStatus a.runStep status with
        runEvents := a.runEvents.erase key }.handleEventWith e.1 switchStep
      (r.1, r.2.2) := by
  have hbegin : (a.setRunningStatus a.runStep status).runEvents.begin? = some (key, e) := hfirst
  rw [popNextStep, if_neg (not_not.mpr rfl)]
  simp only [hbegin]
  rfl

theorem popNextStep_taken {key : AgentRunStepKey} (status : AgentRunningStatus)
    (hfirst : a.runEvents.begin? = some (key, e)) (he : isProsumerError e.1.type = false) :
    ∃ code, Taken { a.setRunningStatus a.runStep status with runEvents := a.runEvents.erase key } e
      (a.popNextStep a.runStep status).1 code (a.popNextStep a.runStep status).2 := by
  rw [popNextStep_some status hfirst]
  exact ⟨_, taken he⟩

theorem popNextStep_none {status : AgentRunningStatus} (hempty : a.runEvents.begin? = none) :
    a.popNextStep a.runStep status = (a.setRunningStatus a.runStep status, []) := by
  have hbegin : (a.setRunningStatus a.runStep status).runEvents.begin? = none := hempty
  rw [popNextStep, if_neg (not_not.mpr rfl)]
  simp only [hbegin]

theorem popNextStep_of_ne {step : AgentRunStep} {status : AgentRunningStatus}
    (h : step ≠ a.runStep) : a.popNextStep step status = (a, []) := if_pos h

def isStop : Output → Bool
  | .updateOperation .stop _ => true
  | _ => false

theorem isStop_updateSessionStatus {status : SessionStatus} (hne : status ≠ .stop) (e : Event) :
    (a.updateSessionStatus status e).any isStop = false := by
  rw [updateSessionStatus]
  split
  · cases status <;> first | rfl | exact absurd rfl hne
  · rfl

theorem isStop_sendDestroyed (e : Event) : (a.sendDestroyed e).any isStop = false := by
  rw [sendDestroyed]
  split <;> rfl

/-- The agent stays where it is or comes to the end of a step. -/
inductive Ended (a : Agent) : Agent → List Output → Prop where
  | stays (prosumerId : BitVec 32) {outputs : List Output} (hstop : outputs.any isStop = false) :
      Ended a { a with prosumerId } outputs
  | ends (step : AgentRunStep) {before after : List Output} (hbefore : before.any isStop = false)
      (hafter : after.any isStop = false) :
      Ended a (a.popNextStep step .done).1 (before ++ (a.popNextStep step .done).2 ++ after)

theorem Ended.same (hstop : outputs.any isStop = false) : Ended a a outputs := .stays a.prosumerId hstop

theorem Ended.between (before after : List Output) (h : Ended a a' outputs)
    (hbefore : before.any isStop = false) (hafter : after.any isStop = false) :
    Ended a a' (before ++ outputs ++ after) := by
  cases h with
  | stays prosumerId hstop =>
    refine .stays prosumerId ?_
    simp only [List.any_append, hbefore, hstop, hafter, Bool.or_false]
  | @ends step first last hfirst hlast =>
    have hsame : before ++ (first ++ (a.popNextStep step .done).2 ++ last) ++ after =
        (before ++ first) ++ (a.popNextStep step .done).2 ++ (last ++ after) := by
      simp only [List.append_assoc]
    rw [hsame]
    refine .ends step ?_ ?_
    · simp only [List.any_append, hbefore, hfirst, Bool.or_false]
    · simp only [List.any_append, hlast, hafter, Bool.or_false]

theorem ended_popNextStep (step : AgentRunStep) :
    Ended a (a.popNextStep step .done).1 (a.popNextStep step .done).2 := by
  have h : Ended a _ ([] ++ (a.popNextStep step .done).2 ++ []) := .ends step rfl rfl
  rwa [List.nil_append, List.append_nil] at h

theorem ended_pushNextStep (e : Event) : Ended a (a.pushNextStep e).1 (a.pushNextStep e).2 := by
  obtain ⟨type, requestId, errorCode⟩ := e
  cases type with
  | stateProsumer state prosumerId =>
    cases state with
    | start => exact ended_popNextStep .start
    | stop => exact .same (isStop_updateSessionStatus SessionStatus.noConfusion _)
    | destroy => exact (ended_popNextStep .destroy).between [] _ rfl (isStop_sendDestroyed _)
    | _ => exact .same rfl
  | statePlayStart => exact ended_popNextStep .play
  | statePlayStop => exact ended_popNextStep .playStop
  | stateChannelAppendSurface => exact ended_popNextStep .appendSurface
  | stateChannelRemoveSurface surfaceId => exact ended_popNextStep .removeSurface
  | _ => exact .same rfl

theorem ended_handleProsumerState (state : ProsumerState) (prosumerId : BitVec 32) (e : Event) :
    Ended a (a.handleProsumerState state prosumerId e).1 (a.handleProsumerState state prosumerId e).2 := by
  rw [handleProsumerState]
  split
  · have h := (ended_pushNextStep (a := a) e).between [.updateMediaStatus state prosumerId e] [] rfl rfl
    rwa [List.append_nil] at h
  · exact .same rfl

def isAnswer : EventType → Bool
  | .statePlayStart | .statePlayStop | .stateChannelAppendSurface => true
  | _ => false

/-- What the agent does with an event that asks for no step. -/
theorem switch_cases {e : Event} (he : getRunStep e.type = .idle) :
    Ended a (a.switch e).1 (a.switch e).2 ∨ isAnswer e.type = true ∧ e.errorCode ≠ .ok ∧
      a.switch e = (a.setRunningStatus a.runStep .error, []) := by
  have hanswer : isAnswer e.type = true → a.switch e = a.handleAnswer e →
      Ended a (a.switch e).1 (a.switch e).2 ∨ isAnswer e.type = true ∧ e.errorCode ≠ .ok ∧
        a.switch e = (a.setRunningStatus a.runStep .error, []) := by
    intro htype hswitch
    rw [hswitch, handleAnswer]
    split
    · exact Or.inl (ended_pushNextStep e)
    · rename_i hfailed
      exact Or.inr ⟨htype, hfailed, rfl⟩
  obtain ⟨type, requestId, errorCode⟩ := e
  cases type with
  | pause mediaType => exact Or.inl (.same (isStop_updateSessionStatus SessionStatus.noConfusion _))
  | resume mediaType => exact Or.inl (.same (isStop_updateSessionStatus SessionStatus.noConfusion _))
  | stateProsumer state prosumerId =>
    left
    cases state with
    | create =>
      show Ended a (({ a with prosumerId } : Agent).handleProsumerState .create prosumerId _).1 _
      simp only [switch]
      rw [handleProsumerState]
      split
      · refine .stays prosumerId ?_
        rfl
      · exact .stays prosumerId rfl
    | _ => exact ended_handleProsumerState _ prosumerId _
  | statePlayStart => exact hanswer rfl rfl
  | statePlayStop => exact hanswer rfl rfl
  | stateChannelAppendSurface => exact hanswer rfl rfl
  | stateChannelRemoveSurface surfaceId =>
    let e : Event := ⟨.stateChannelRemoveSurface surfaceId, requestId, errorCode⟩
    exact Or.inl ((ended_pushNextStep e).between []
      (sendInteractionEvent (.stateRemoveSurface surfaceId) e) rfl rfl)
  | other type =>
    refine Or.inl (.same ?_)
    show List.any (if a.session then _ else _) isStop = false
    split <;> rfl
  | channelSetSceneType | channelSetVolume | channelSetKeyRedirect | accelerationDone | decoderDied =>
    exact Or.inl (.same rfl)
  | _ => cases he

/-- A request to destroy the agent is kept before every other request. -/
theorem rank_lt_iff_destroy (e : Event) :
    (runStepKey e).rank < 10 * 2 ^ 32 ↔ getRunStep e.type = .destroy := by
  have hid := e.requestId.isLt
  rw [AgentRunStepKey.rank]
  cases hstep : getRunStep e.type <;>
    simp [runStepKey, hstep, getRunStepWeight, AgentRunStep.value, AgentRunStepWeight.value] <;>
    omega

/-- How many requests to destroy the agent are kept. -/
def tearDowns (a : Agent) : Nat :=
  a.runEvents.toList.countP fun p => getRunStep p.2.1.type = .destroy

/-- An agent that was created: every event is kept under its key, and no error is. -/
structure Created (a : Agent) : Prop where
  keys : ∀ p ∈ a.runEvents, p.1 = runStepKey p.2.1
  errors : ∀ p ∈ a.runEvents, isProsumerError p.2.1.type = false
  status : a.runningStatus ≠ .idle
  session : a.session = true

theorem created_createSession (agentType : AgentType) :
    (createSession { agentType } true).1.Created where
  keys _ hp := absurd hp List.not_mem_nil
  errors _ hp := absurd hp List.not_mem_nil
  status := AgentRunningStatus.noConfusion
  session := rfl

theorem Created.setRunningStatus (ha : a.Created) (step : AgentRunStep) {status : AgentRunningStatus}
    (hstatus : status ≠ .idle) : (a.setRunningStatus step status).Created :=
  ⟨ha.keys, ha.errors, hstatus, ha.session⟩

theorem Created.cache (ha : a.Created) (he : isProsumerError e.1.type = false) :
    (a.cache e).Created where
  keys p hp := by
    rcases OrderedMap.mem_of_mem_emplace hp with rfl | hp
    · rfl
    · exact ha.keys p hp
  errors p hp := by
    rcases OrderedMap.mem_of_mem_emplace hp with rfl | hp
    · exact he
    · exact ha.errors p hp
  status := ha.status
  session := ha.session

theorem Created.erase (ha : a.Created) (key : AgentRunStepKey) :
    ({ a with runEvents := a.runEvents.erase key } : Agent).Created :=
  ⟨fun p hp => ha.keys p (OrderedMap.mem_erase.mp hp).1,
    fun p hp => ha.errors p (OrderedMap.mem_erase.mp hp).1, ha.status, ha.session⟩

theorem tearDowns_cache_le : (a.cache e).tearDowns ≤
    a.tearDowns + if getRunStep e.1.type = .destroy then 1 else 0 := by
  have h := OrderedMap.countP_emplace_le a.runEvents (runStepKey e.1) e
    fun p => getRunStep p.2.1.type = .destroy
  simpa [tearDowns, cache] using h

theorem tearDowns_cache_ne_zero (hstep : getRunStep e.1.type = .destroy)
    (hnew : a.runEvents.find? (runStepKey e.1) = none) : (a.cache e).tearDowns ≠ 0 := by
  intro hzero
  have hkeys : ∀ p ∈ a.runEvents, p.1 ≠ runStepKey e.1 := by
    intro p hp
    have hfind := List.find?_eq_none.mp (Option.map_eq_none_iff.mp hnew) p hp
    simpa using hfind
  have hmem : (runStepKey e.1, e) ∈ a.runEvents.emplace (runStepKey e.1) e :=
    (OrderedMap.mem_emplace hkeys).mpr (Or.inl rfl)
  exact List.countP_eq_zero.mp hzero _ hmem (decide_eq_true hstep)

/-- A request to destroy the agent comes before all others. -/
theorem begin?_destroy (ha : a.Created) {key : AgentRunStepKey}
    (hfirst : a.runEvents.begin? = some (key, e)) (hkept : a.tearDowns ≠ 0) :
    getRunStep e.1.type = .destroy := by
  obtain ⟨hmem, hleast⟩ := OrderedMap.begin?_some hfirst
  have hkey : key = runStepKey e.1 := ha.keys _ hmem
  obtain ⟨p, hp, hstep⟩ := List.countP_pos_iff.mp (Nat.pos_of_ne_zero hkept)
  have hstep : getRunStep p.2.1.type = .destroy := of_decide_eq_true hstep
  rcases hleast p hp with rfl | hlt
  · exact hstep
  · rw [AgentRunStepKey.lt_iff_rank, ha.keys p hp, hkey] at hlt
    have hlt : (runStepKey e.1).rank < (runStepKey p.2.1).rank := hlt
    have hlate := (rank_lt_iff_destroy p.2.1).mpr hstep
    exact (rank_lt_iff_destroy e.1).mp (by omega)

theorem tearDowns_erase {key : AgentRunStepKey} (hfirst : a.runEvents.begin? = some (key, e)) :
    a.tearDowns = ({ a with runEvents := a.runEvents.erase key } : Agent).tearDowns +
      if getRunStep e.1.type = .destroy then 1 else 0 := by
  have hcount := OrderedMap.countP_erase (OrderedMap.begin?_some hfirst).1
    fun p => getRunStep p.2.1.type = .destroy
  simpa [tearDowns] using hcount

theorem tearDowns_of_begin?_none (hempty : a.runEvents.begin? = none) : a.tearDowns = 0 := by
  have hnil : a.runEvents.toList = [] := List.head?_eq_none_iff.mp hempty
  simp [tearDowns, hnil]

end Agent

end WifiDisplay
