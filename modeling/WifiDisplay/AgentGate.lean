import WifiDisplay.AgentSteps
import WifiDisplay.GuardedRuns

/-! What an agent still hands on behind an accepted request to destroy it. -/

namespace WifiDisplay

namespace Agent

/-- The requests that start or change something. -/
def isRequest : EventType → Bool
  | .start | .playStart | .playStop | .pause _ | .resume _ | .channelAppendSurface _ _
  | .channelRemoveSurface _ | .channelSetSceneType _ _ | .channelSetVolume _
  | .channelSetKeyRedirect _ _ => true
  | _ => false

/-- The output hands a request on to the session or to the media channel. -/
def forwards : Output → Bool
  | .updateOperation .interrupt _ => false
  | .updateOperation _ _ | .updateMediaStatus _ _ _ | .sessionEvent _ | .channel _ _ _ _ => true
  | _ => false

/-- An agent, whether it has accepted a request to destroy it, and the later requests that
it has handed on or keeps for later. -/
structure Gate where
  agent : Agent
  accepted : Bool := false
  late : List Event := []

namespace Gate

def created (agentType : AgentType) : Gate where
  agent := (createSession { agentType } true).1

variable (g : Gate)

def step : Act → Gate
  | .event e =>
    let (agent, retCode, outputs) := g.agent.handleEvent e
    { agent
      accepted := g.accepted || e.type = .destroy && retCode = .ok
      late := if g.accepted ∧ isRequest e.type ∧
          (outputs.any forwards ∨ agent.runEvents.toList ≠ g.agent.runEvents.toList)
        then g.late ++ [e] else g.late }
  | .notify n => { g with agent := (g.agent.onSessionNotify n).1 }

/-- A request that asks for no step arrives before a request to destroy the agent is
accepted, or while that one interrupts a step. -/
def Closed : Act → Prop
  | .event e => g.accepted = true → isRequest e.type = true → getRunStep e.type = .idle →
      g.agent.runningStatus = .interrupt
  | .notify _ => True

instance (x : Act) : Decidable (g.Closed x) := by
  unfold Closed
  split <;> infer_instance

end Gate

/-- The agent destroys itself, or will when its step is interrupted. -/
def Doomed (a : Agent) : Prop :=
  a.runStep = .destroy ∨ a.runningStatus = .interrupt ∧ a.tearDowns ≠ 0

/-- An interrupted agent keeps a request to destroy it. -/
def Interruptible (a : Agent) : Prop := a.runningStatus = .interrupt → a.tearDowns ≠ 0

variable {a a' : Agent} {e : StepEvent} {code : ErrorCode} {outputs : List Output}

theorem Created.taken (ha : a.Created) (he : isProsumerError e.1.type = false)
    (h : Taken a e a' code outputs) : a'.Created := by
  cases h with
  | rejected => exact ha
  | cached => exact ha.cache he
  | interrupts => exact (ha.setRunningStatus a.runStep (by decide)).cache he
  | starts => exact ha.setRunningStatus _ (by decide)
  | interrupted => exact ha
  | idle => exact ha

/-- A doomed agent takes no step but to destroy itself, and keeps nothing more for later. -/
theorem Doomed.taken (ha : a.Doomed) (hstatus : a.runningStatus ≠ .idle)
    (h : Taken a e a' code outputs) :
    a'.Doomed ∧ (getRunStep e.1.type ≠ .destroy → outputs.any forwards = false) ∧
      a'.runEvents = a.runEvents := by
  have hop : (a.updateSessionStatus .interrupt e.1).any forwards = false := by
    rw [updateSessionStatus]
    split <;> rfl
  cases h with
  | rejected => exact ⟨ha, fun _ => rfl, rfl⟩
  | cached h hstep hrun =>
    rcases ha with hd | ⟨hs, -⟩
    · exact absurd hd hrun
    · rcases h with ⟨hs', -⟩ | ⟨hs', -⟩ <;> rw [hs] at hs' <;> cases hs'
  | interrupts hs hstep hrun =>
    rcases ha with hd | ⟨hs', -⟩
    · exact absurd hd hrun
    · rw [hs] at hs'
      cases hs'
  | starts h =>
    rcases h with ⟨hs, hrun, -⟩ | ⟨hs, hstep⟩
    · rcases ha with hd | ⟨hs', -⟩
      · exact absurd hd hrun
      · rw [hs] at hs'
        cases hs'
    · exact ⟨Or.inl hstep, fun hne => absurd hstep hne, rfl⟩
  | interrupted => exact ⟨ha, fun _ => hop, rfl⟩
  | idle hs => exact absurd hs hstatus

/-- An agent that takes a request to destroy it, or has just been left by an interrupt, is
doomed. -/
theorem doomed_of_taken (hstep : getRunStep e.1.type = .destroy) (hstatus : a.runningStatus ≠ .idle)
    (hok : code = .ok ∨ a.runningStatus = .done ∨ a.runningStatus = .error)
    (hinterrupt : a.runningStatus = .interrupt → a.tearDowns ≠ 0)
    (h : Taken a e a' code outputs) : a'.Doomed := by
  cases h with
  | rejected h =>
    rcases h with ⟨-, hd⟩ | ⟨hs, -⟩ | ⟨-, hne⟩
    · exact Or.inl hd
    · rcases hok with hc | hs' | hs'
      · cases hc
      · rw [hs] at hs'
        cases hs'
      · rw [hs] at hs'
        cases hs'
    · exact absurd hstep hne
  | cached h hne => exact absurd hstep hne
  | interrupts hs hd hrun hnew =>
    exact Or.inr ⟨rfl, tearDowns_cache_ne_zero (a := a.setRunningStatus a.runStep .interrupt) hd hnew⟩
  | starts h => exact Or.inl hstep
  | interrupted hs => exact Or.inr ⟨hs, hinterrupt hs⟩
  | idle hs => exact absurd hs hstatus

theorem Interruptible.taken (ha : a.Interruptible) (h : Taken a e a' code outputs) :
    a'.Interruptible := by
  cases h with
  | rejected => exact ha
  | cached h =>
    intro hs
    have hs : a.runningStatus = .interrupt := hs
    rcases h with ⟨hs', -⟩ | ⟨hs', -⟩ <;> rw [hs] at hs' <;> cases hs'
  | interrupts hs hd hrun hnew =>
    exact fun _ => tearDowns_cache_ne_zero (a := a.setRunningStatus a.runStep .interrupt) hd hnew
  | starts => exact nofun
  | interrupted => exact ha
  | idle => exact ha

/-- What every move keeps. -/
structure Steady (a a' : Agent) : Prop where
  created : a'.Created
  interruptible : a'.Interruptible
  doomed : a.Doomed → a'.Doomed

theorem Steady.refl (ha : a.Created) (hi : a.Interruptible) : Steady a a := ⟨ha, hi, id⟩

theorem steady_popNextStep (ha : a.Created) (hi : a.Interruptible) (step : AgentRunStep)
    {status : AgentRunningStatus} (hstatus : status = .done ∨ status = .error) :
    Steady a (a.popNextStep step status).1 := by
  have hne : status ≠ .idle := by rcases hstatus with rfl | rfl <;> decide
  have hnot : status ≠ .interrupt := by rcases hstatus with rfl | rfl <;> decide
  by_cases hstep : step = a.runStep
  · subst hstep
    cases hfirst : a.runEvents.begin? with
    | none =>
      rw [popNextStep_none hfirst]
      refine ⟨ha.setRunningStatus a.runStep hne, fun hs => absurd hs hnot, ?_⟩
      rintro (hd | ⟨-, hkept⟩)
      · exact Or.inl hd
      · exact absurd (tearDowns_of_begin?_none hfirst) hkept
    | some p =>
      obtain ⟨key, e⟩ := p
      have he := ha.errors _ (OrderedMap.begin?_some hfirst).1
      obtain ⟨code, htaken⟩ := popNextStep_taken status hfirst he
      have hpopped : ({ a.setRunningStatus a.runStep status with
          runEvents := a.runEvents.erase key } : Agent).Interruptible := fun hs => absurd hs hnot
      refine ⟨((ha.setRunningStatus a.runStep hne).erase key).taken he htaken,
        hpopped.taken htaken, ?_⟩
      rintro (hd | ⟨-, hkept⟩)
      · have hdoomed : ({ a.setRunningStatus a.runStep status with
            runEvents := a.runEvents.erase key } : Agent).Doomed := Or.inl hd
        exact (hdoomed.taken hne htaken).1
      · exact doomed_of_taken (begin?_destroy ha hfirst hkept) hne (Or.inr hstatus) hpopped htaken
  · rw [popNextStep_of_ne hstep]
    exact Steady.refl ha hi

theorem steady_ended (ha : a.Created) (hi : a.Interruptible) (h : Ended a a' outputs) : Steady a a' := by
  cases h with
  | stays prosumerId => exact ⟨⟨ha.keys, ha.errors, ha.status, ha.session⟩, hi, id⟩
  | ends step => exact steady_popNextStep ha hi step (Or.inl rfl)

/-- An event that asks for no step, while the agent is not interrupted. -/
theorem steady_switch (ha : a.Created) (hi : a.Interruptible)
    (hstatus : a.runningStatus ≠ .interrupt) {e : Event} (he : getRunStep e.type = .idle) :
    Steady a (a.switch e).1 := by
  rcases switch_cases (a := a) he with hended | ⟨-, -, hswitch⟩
  · exact steady_ended ha hi hended
  · rw [hswitch]
    refine ⟨ha.setRunningStatus a.runStep (by decide), nofun, ?_⟩
    rintro (hd | ⟨hs, -⟩)
    · exact Or.inl hd
    · exact absurd hs hstatus

theorem steady_handleEvent (ha : a.Created) (hi : a.Interruptible) (e : Event) :
    Steady a (a.handleEvent e).1 := by
  by_cases hidle : getRunStep e.type = .idle
  · rw [handleEvent_idle hidle]
    split
    · exact Steady.refl ha hi
    · rename_i hstatus
      exact steady_switch ha hi hstatus hidle
  · by_cases herror : isProsumerError e.type = true
    · rw [handleEvent_prosumerError herror]
      exact ⟨ha.setRunningStatus _ (by decide), nofun, fun _ => Or.inl rfl⟩
    · have herror : isProsumerError e.type = false := Bool.eq_false_iff.mpr herror
      have htaken := handleEvent_taken (a := a) (e := ⟨e, hidle⟩) herror
      exact ⟨ha.taken herror htaken, hi.taken htaken, fun hd => (hd.taken ha.status htaken).1⟩

theorem steady_onSessionNotify (ha : a.Created) (hi : a.Interruptible) (n : Notification) :
    Steady a (a.onSessionNotify n).1 := by
  cases n with
  | error requestId code =>
    rw [onSessionNotify, handleSessionError_eq]
    split
    · exact steady_popNextStep ha hi a.runStep (Or.inr rfl)
    · exact Steady.refl ha hi
  | interrupted => exact steady_popNextStep ha hi a.runStep (Or.inl rfl)
  | _ => exact Steady.refl ha hi

theorem step_of_isRequest {type : EventType} (h : isRequest type = true) :
    isProsumerError type = false ∧ getRunStep type ≠ .destroy := by
  cases type <;> first | exact ⟨rfl, AgentRunStep.noConfusion⟩ | cases h

/-- A doomed agent hands a request on exactly when it asks for no step and the agent is not
interrupted. -/
theorem Doomed.forwards_iff (hd : a.Doomed) (ha : a.Created) {e : Event}
    (he : isRequest e.type = true) : (a.handleEvent e).2.2.any forwards = true ↔
      getRunStep e.type = .idle ∧ a.runningStatus ≠ .interrupt := by
  by_cases hidle : getRunStep e.type = .idle
  · rw [handleEvent_idle hidle]
    split
    · rename_i hs
      rw [updateSessionStatus, if_pos ha.session]
      simp [hs, forwards]
    · rename_i hs
      obtain ⟨type, requestId, errorCode⟩ := e
      cases type with
      | pause | resume | channelSetSceneType | channelSetVolume | channelSetKeyRedirect =>
        simp [switch, updateSessionStatus, sendChannelEvent, ha.session, hs, forwards, hidle]
      | start | playStart | playStop | channelAppendSurface | channelRemoveSurface => cases hidle
      | _ => cases he
  · obtain ⟨herror, hne⟩ := step_of_isRequest he
    have hnone := (hd.taken ha.status (handleEvent_taken (a := a) (e := ⟨e, hidle⟩) herror)).2.1 hne
    simp [hnone, hidle]

/-- A doomed agent keeps no later request. -/
theorem Doomed.runEvents_handleEvent (hd : a.Doomed) (ha : a.Created) {e : Event}
    (he : isRequest e.type = true) : (a.handleEvent e).1.runEvents = a.runEvents := by
  by_cases hidle : getRunStep e.type = .idle
  · rw [handleEvent_idle hidle]
    split
    · rfl
    · obtain ⟨type, requestId, errorCode⟩ := e
      cases type with
      | pause | resume | channelSetSceneType | channelSetVolume | channelSetKeyRedirect => rfl
      | start | playStart | playStop | channelAppendSurface | channelRemoveSurface => cases hidle
      | _ => cases he
  · obtain ⟨herror, -⟩ := step_of_isRequest he
    exact (hd.taken ha.status (handleEvent_taken (a := a) (e := ⟨e, hidle⟩) herror)).2.2

namespace Gate

/-- The invariant of a run. -/
structure Kept (g : Gate) : Prop where
  created : g.agent.Created
  interruptible : g.agent.Interruptible
  doomed : g.accepted = true → g.agent.Doomed

variable {g : Gate}

theorem kept_created (agentType : AgentType) : (created agentType).Kept where
  created := created_createSession agentType
  interruptible := AgentRunningStatus.noConfusion
  doomed := Bool.noConfusion

theorem Kept.step (hg : g.Kept) (x : Act) : (g.step x).Kept := by
  cases x with
  | event e =>
    have h := steady_handleEvent hg.created hg.interruptible e
    refine ⟨h.created, h.interruptible, fun haccepted => ?_⟩
    simp only [Gate.step, Bool.or_eq_true, Bool.and_eq_true, decide_eq_true_eq] at haccepted
    rcases haccepted with haccepted | ⟨htype, hcode⟩
    · exact h.doomed (hg.doomed haccepted)
    · have hne : getRunStep e.type ≠ .idle := by
        rw [htype]
        exact AgentRunStep.noConfusion
      have htaken := handleEvent_taken (a := g.agent) (e := ⟨e, hne⟩) (by rw [htype]; rfl)
      exact doomed_of_taken (by rw [htype]; rfl) hg.created.status (Or.inl hcode)
        hg.interruptible htaken
  | notify n =>
    have h := steady_onSessionNotify hg.created hg.interruptible n
    exact ⟨h.created, h.interruptible, fun haccepted => h.doomed (hg.doomed haccepted)⟩

theorem late_step (hg : g.Kept) (x : Act) : (g.step x).late = [] ↔ g.late = [] ∧ g.Closed x := by
  cases x with
  | event e =>
    by_cases hlate : g.accepted = true ∧ isRequest e.type = true
    · have hforwards := (hg.doomed hlate.1).forwards_iff hg.created hlate.2
      have hkept := (hg.doomed hlate.1).runEvents_handleEvent hg.created hlate.2
      simp only [Gate.step, Closed, hlate, hforwards, hkept, ne_eq, not_true_eq_false, or_false, true_and]
      by_cases hidle : getRunStep e.type = .idle <;>
        by_cases hs : g.agent.runningStatus = .interrupt <;> simp [hidle, hs]
    · have hclosed : g.Closed (.event e) := fun ha hr => absurd ⟨ha, hr⟩ hlate
      have hsame : (g.step (.event e)).late = g.late := if_neg fun h => hlate ⟨h.1, h.2.1⟩
      rw [hsame]
      exact ⟨fun h => ⟨h, hclosed⟩, And.left⟩
  | notify n => exact ⟨fun h => ⟨h, trivial⟩, And.left⟩

/-- Behind an accepted request to destroy the agent nothing is handed on, nor kept for later, exactly when no
request that asks for no step arrives, but while that one interrupts a step. -/
theorem late_eq_nil_iff (agentType : AgentType) (acts : List Act) :
    (acts.foldl step (created agentType)).late = [] ↔
      AllMeet step Closed (created agentType) acts := by
  have h : (acts.foldl step (created agentType)).late = [] ↔
      (created agentType).late = [] ∧ AllMeet step Closed (created agentType) acts :=
    AllMeet.foldl_iff (I := Kept) (P := fun g => g.late = []) (fun _ x hg => hg.step x)
      (fun _ x hg => late_step hg x) (kept_created agentType)
  exact h.trans (and_iff_right rfl)

/-- A volume is set while the agent destroys itself. -/
theorem lateVolume_handedOn : ¬ ∀ (agentType : AgentType) (acts : List Act),
    (acts.foldl step (created agentType)).late = [] := by
  intro hall
  have hlate := hall .sink [.event ⟨.start, 1, .ok⟩, .event ⟨.stateProsumer .start 7, 1, .ok⟩,
    .event ⟨.destroy, 2, .ok⟩, .event ⟨.channelSetVolume 0, 3, .ok⟩]
  exact absurd hlate (by decide)

end Gate

end Agent

end WifiDisplay
