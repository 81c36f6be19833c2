import WifiDisplay.AgentSteps
import WifiDisplay.EventLog
import WifiDisplay.GuardedRuns

/-! The tear-down of an agent: accepted once, and not left waiting. -/

namespace WifiDisplay

namespace Agent

/-- An agent with what it has handed on, and the steps and statuses it has gone through. -/
structure History where
  agent : Agent
  outputs : List Output := []
  states : List (AgentRunStep × AgentRunningStatus) := []

def History.step (h : History) (x : Act) : History where
  agent := (h.agent.act x).1
  outputs := h.outputs ++ (h.agent.act x).2
  states := h.states ++ [((h.agent.act x).1.runStep, (h.agent.act x).1.runningStatus)]

/-- The agent as its context has created it. -/
def History.created (agentType : AgentType) : History where
  agent := (createSession { agentType } true).1

def stops (outputs : List Output) : Nat := outputs.countP isStop

/-- Tear-down happens once, is final and is not left waiting. -/
structure History.TornDownOnce (h : History) : Prop where
  once : stops h.outputs ≤ 1
  final : EventLog.Guarded (fun before p => (.destroy, .done) ∈ before →
    p = (.destroy, .done) ∨ p = (.destroy, .error)) h.states
  drained : h.agent.runningStatus = .done ∨ h.agent.runningStatus = .error →
    ∀ p ∈ h.agent.runEvents, p.2.1.type ≠ .destroy

/-- Once the agent destroys itself no error of its prosumer arrives but one that stops
nothing while it does so; no request to destroy it arrives behind an error; and no failed
answer or session error while such a request is kept. -/
def Undisturbed (a : Agent) : Act → Prop
  | .event e =>
    a.runStep = .destroy →
      match e.type with
      | .prosumerError _ => a.runningStatus = .running ∧ stopsSession e.errorCode = false
      | .destroy => a.runningStatus ≠ .error
      | .statePlayStart | .statePlayStop | .stateChannelAppendSurface =>
        e.errorCode ≠ .ok → a.tearDowns = 0
      | _ => True
  | .notify (.error _ code) => a.runStep = .destroy → endsStep code = true → a.tearDowns = 0
  | .notify _ => True

/-- The invariant of a run, but for what was handed on. -/
structure Orderly (a : Agent) : Prop where
  created : a.Created
  one : a.tearDowns ≤ 1
  waiting : a.tearDowns ≠ 0 → a.runningStatus = .interrupt ∨
    a.runStep = .destroy ∧ a.runningStatus = .running
  interrupt : a.runningStatus = .interrupt → a.runStep ≠ .destroy

def Over (a : Agent) : Prop :=
  a.runStep = .destroy ∧ (a.runningStatus = .done ∨ a.runningStatus = .error)

/-- What a move keeps. -/
structure Moved (a a' : Agent) (outputs : List Output) : Prop where
  orderly : a'.Orderly
  stops : Agent.stops outputs = 0 ∨
    Agent.stops outputs = 1 ∧ a.runStep ≠ .destroy ∧ a'.runStep = .destroy
  stays : a.runStep = .destroy → a'.runStep = .destroy
  atEnd : a.Over → a'.Over

variable {a a' : Agent} {e : StepEvent} {code : ErrorCode} {outputs : List Output}

theorem stops_eq_zero (h : outputs.any isStop = false) : stops outputs = 0 := by
  refine List.countP_eq_zero.mpr fun o ho => ?_
  simpa using List.any_eq_false.mp h o ho

theorem stops_updateSessionStatus (status : SessionStatus) (hne : status ≠ .stop) (e : Event) :
    stops (a.updateSessionStatus status e) = 0 := stops_eq_zero (isStop_updateSessionStatus hne e)

theorem stops_forward_le (e : Event) (he : isProsumerError e.type = false) :
    stops (a.forward e) ≤ 1 ∧ (getRunStep e.type ≠ .destroy → stops (a.forward e) = 0) := by
  obtain ⟨type, requestId, errorCode⟩ := e
  cases type with
  | destroy =>
    refine ⟨?_, fun h => absurd rfl h⟩
    show stops (if a.session then _ else _) ≤ 1
    split
    · exact Nat.le_refl 1
    · exact Nat.zero_le 1
  | start =>
    have h := stops_updateSessionStatus (a := a) .start (by decide) ⟨.start, requestId, errorCode⟩
    exact ⟨Nat.le_of_eq h |>.trans (by decide), fun _ => h⟩
  | prosumerError => cases he
  | _ => exact ⟨Nat.zero_le 1, fun _ => rfl⟩

theorem Orderly.cache (ha : a.Orderly) (he : isProsumerError e.1.type = false)
    {status : AgentRunningStatus} (hstatus : status ≠ .idle)
    (hone : a.tearDowns + (if getRunStep e.1.type = .destroy then 1 else 0) ≤ 1)
    (hwaiting : a.tearDowns + (if getRunStep e.1.type = .destroy then 1 else 0) ≠ 0 →
      status = .interrupt ∨ a.runStep = .destroy ∧ status = .running)
    (hinterrupt : status = .interrupt → a.runStep ≠ .destroy) :
    ((a.setRunningStatus a.runStep status).cache e).Orderly := by
  have hle : ((a.setRunningStatus a.runStep status).cache e).tearDowns ≤
      a.tearDowns + _ := tearDowns_cache_le
  refine ⟨(ha.created.setRunningStatus a.runStep hstatus).cache he, ?_, fun hne => ?_, hinterrupt⟩
  · omega
  · exact hwaiting (by omega)

/-- A new status while nothing waits that it would leave waiting. -/
theorem Orderly.setRunningStatus (ha : a.Orderly) {step : AgentRunStep} {status : AgentRunningStatus}
    (hstatus : status ≠ .idle) (hinterrupt : status ≠ .interrupt)
    (hwaiting : a.tearDowns ≠ 0 → step = .destroy ∧ status = .running) :
    (a.setRunningStatus step status).Orderly where
  created := ha.created.setRunningStatus step hstatus
  one := ha.one
  waiting h := Or.inr (hwaiting h)
  interrupt h := absurd h hinterrupt

theorem Orderly.moved_self (ha : a.Orderly) (hstops : Agent.stops outputs = 0) : Moved a a outputs :=
  ⟨ha, Or.inl hstops, id, id⟩

/-- A request that arrives or is taken from the map. -/
theorem Orderly.moved_taken (ha : a.Orderly) (he : isProsumerError e.1.type = false)
    (hok : getRunStep e.1.type = .destroy → a.runStep = .destroy → a.runningStatus ≠ .error)
    (h : Taken a e a' code outputs) : Moved a a' outputs := by
  cases h with
  | rejected => exact ha.moved_self rfl
  | cached h hstep hrun =>
    have hzero : a.tearDowns = 0 := by
      by_contra hne
      rcases ha.waiting hne with hs | ⟨hs, -⟩
      · rcases h with ⟨hs', -⟩ | ⟨hs', -⟩ <;> rw [hs] at hs' <;> cases hs'
      · exact hrun hs
    have horderly : ((a.setRunningStatus a.runStep a.runningStatus).cache e).Orderly := by
      apply ha.cache he ha.created.status
      · simp [hzero, hstep]
      · simp [hzero, hstep]
      · exact ha.interrupt
    exact ⟨horderly, Or.inl rfl, fun hd => absurd hd hrun, fun hover => absurd hover.1 hrun⟩
  | interrupts hstatus hstep hrun hnew =>
    have hzero : a.tearDowns = 0 := by
      by_contra hne
      rcases ha.waiting hne with hs | ⟨hs, -⟩
      · rw [hstatus] at hs
        cases hs
      · exact hrun hs
    have horderly : ((a.setRunningStatus a.runStep .interrupt).cache e).Orderly := by
      apply ha.cache he (by decide)
      · simp [hzero, hstep]
      · exact fun _ => Or.inl rfl
      · exact fun _ => hrun
    exact ⟨horderly, Or.inl (stops_updateSessionStatus _ (by decide) _), fun hd => absurd hd hrun,
      fun hover => absurd hover.1 hrun⟩
  | starts h =>
    have hnot : a.runStep = .destroy → getRunStep e.1.type ≠ .destroy := by
      intro hd hstep
      rcases h with ⟨-, hne, -⟩ | ⟨hs, -⟩
      · exact hne hd
      · exact hok hstep hd hs
    have hd : a.runStep ≠ .destroy := by
      intro hd
      rcases h with ⟨-, hne, -⟩ | ⟨-, hstep⟩
      · exact hne hd
      · exact hnot hd hstep
    have hzero : a.tearDowns = 0 := by
      by_contra hne
      rcases ha.waiting hne with hs | ⟨hs, -⟩
      · rcases h with ⟨hs', -⟩ | ⟨hs', -⟩ <;> rw [hs] at hs' <;> cases hs'
      · exact hd hs
    obtain ⟨hle, hother⟩ := stops_forward_le (a := a) e.1 he
    refine ⟨ha.setRunningStatus (by decide) (by decide) (fun hne => absurd hzero hne), ?_,
      fun hd' => absurd hd' hd, fun hover => absurd hover.1 hd⟩
    by_cases hstep : getRunStep e.1.type = .destroy
    · rcases Nat.le_one_iff_eq_zero_or_eq_one.mp hle with hzero | hone
      · exact Or.inl hzero
      · exact Or.inr ⟨hone, hd, hstep⟩
    · exact Or.inl (hother hstep)
  | interrupted => exact ha.moved_self (stops_updateSessionStatus _ (by decide) _)
  | idle hstatus => exact absurd hstatus ha.created.status

/-- The end of a step. -/
theorem Orderly.moved_popNextStep (ha : a.Orderly) (step : AgentRunStep) {status : AgentRunningStatus}
    (hstatus : status = .done ∨ status = .error)
    (hok : status = .error → a.runStep = .destroy → a.tearDowns = 0) :
    Moved a (a.popNextStep step status).1 (a.popNextStep step status).2 := by
  by_cases hstep : step = a.runStep
  · subst hstep
    cases hfirst : a.runEvents.begin? with
    | none =>
      rw [popNextStep_none hfirst]
      have hzero : a.tearDowns = 0 := tearDowns_of_begin?_none hfirst
      refine ⟨ha.setRunningStatus ?_ ?_ fun hne => absurd hzero hne, Or.inl rfl, id,
        fun hover => ⟨hover.1, hstatus⟩⟩
      · rcases hstatus with rfl | rfl <;> decide
      · rcases hstatus with rfl | rfl <;> decide
    | some p =>
      obtain ⟨key, e⟩ := p
      have he := ha.created.errors _ (OrderedMap.begin?_some hfirst).1
      obtain ⟨code, htaken⟩ := popNextStep_taken status hfirst he
      have hcount := tearDowns_erase hfirst
      have hkept : a.tearDowns = 0 → getRunStep e.1.type ≠ .destroy := by
        intro hzero hd
        rw [if_pos hd] at hcount
        omega
      have hzero : ({ a with runEvents := a.runEvents.erase key } : Agent).tearDowns = 0 := by
        have hone := ha.one
        by_cases hne : a.tearDowns = 0
        · omega
        · rw [if_pos (begin?_destroy ha.created hfirst hne)] at hcount
          omega
      have hne : status ≠ .idle := by rcases hstatus with rfl | rfl <;> decide
      have hpopped : ({ a.setRunningStatus a.runStep status with
          runEvents := a.runEvents.erase key } : Agent).Orderly := by
        refine ⟨(ha.created.setRunningStatus a.runStep hne).erase key, ?_,
          fun hne => absurd hzero hne, ?_⟩
        · exact (Nat.le_of_eq hzero).trans (Nat.zero_le 1)
        · intro hs
          have hs : status = .interrupt := hs
          rcases hstatus with rfl | rfl <;> cases hs
      have hmoved := hpopped.moved_taken he (fun hd hrun hs => hkept (hok hs hrun) hd) htaken
      exact ⟨hmoved.orderly, hmoved.stops, hmoved.stays, fun hover => hmoved.atEnd ⟨hover.1, hstatus⟩⟩
  · rw [popNextStep_of_ne hstep]
    exact ha.moved_self rfl

theorem stops_append (l m : List Output) : stops (l ++ m) = stops l + stops m := List.countP_append

/-- Outputs that stop nothing may stand around those of a move. -/
theorem Moved.between (before after : List Output) (h : Moved a a' outputs)
    (hbefore : Agent.stops before = 0) (hafter : Agent.stops after = 0) :
    Moved a a' (before ++ outputs ++ after) where
  orderly := h.orderly
  stops := by
    rw [stops_append, stops_append, hbefore, hafter, Nat.zero_add, Nat.add_zero]
    exact h.stops
  stays := h.stays
  atEnd := h.atEnd

/-- An error of the prosumer before the agent destroys itself, or one that stops nothing. -/
theorem Orderly.moved_prosumerError (ha : a.Orderly) (e : Event)
    (hok : a.runStep = .destroy → a.runningStatus = .running ∧ stopsSession e.errorCode = false) :
    Moved a (a.setRunningStatus .destroy .running) (a.handleProsumerError e) := by
  have hstops : stops (a.handleProsumerError e) ≤ 1 ∧
      (stopsSession e.errorCode = false → stops (a.handleProsumerError e) = 0) := by
    rw [handleProsumerError, stops_append]
    have hnotice : stops (sendInteractionEvent .msgError e) = 0 := rfl
    have hstop : stops (a.updateSessionStatus .stop e) ≤ 1 := by
      rw [updateSessionStatus]
      split
      · exact Nat.le_refl 1
      · exact Nat.zero_le 1
    have hdestroy : stops (a.updateSessionStatus .destroy e) = 0 :=
      stops_updateSessionStatus _ (by decide) e
    have hdestroyed : stops (a.sendDestroyed e) = 0 := stops_eq_zero (isStop_sendDestroyed e)
    rw [hnotice, Nat.zero_add]
    cases hcode : e.errorCode with
    | prosumerInit | prosumerCreate | prosumerStart | prosumerVideoCapture | prosumerTimeout =>
      exact ⟨hstop, Bool.noConfusion⟩
    | prosumerStop => exact ⟨(Nat.le_of_eq hdestroy).trans (Nat.zero_le 1), fun _ => hdestroy⟩
    | prosumerDestroy => exact ⟨(Nat.le_of_eq hdestroyed).trans (Nat.zero_le 1), fun _ => hdestroyed⟩
    | _ => exact ⟨Nat.zero_le 1, fun _ => rfl⟩
  refine ⟨ha.setRunningStatus (by decide) (by decide) fun _ => ⟨rfl, rfl⟩, ?_, fun _ => rfl, ?_⟩
  · by_cases hd : a.runStep = .destroy
    · exact Or.inl (hstops.2 (hok hd).2)
    · rcases Nat.le_one_iff_eq_zero_or_eq_one.mp hstops.1 with hzero | hone
      · exact Or.inl hzero
      · exact Or.inr ⟨hone, hd, rfl⟩
  · intro hover
    have hrunning := (hok hover.1).1
    rcases hover.2 with hs | hs <;> rw [hs] at hrunning <;> cases hrunning

theorem Orderly.moved_ended (ha : a.Orderly) (h : Ended a a' outputs) : Moved a a' outputs := by
  cases h with
  | stays prosumerId hstop =>
    have hcreated : ({ a with prosumerId } : Agent).Created :=
      ⟨ha.created.keys, ha.created.errors, ha.created.status, ha.created.session⟩
    exact ⟨⟨hcreated, ha.one, ha.waiting, ha.interrupt⟩, Or.inl (stops_eq_zero hstop), id, id⟩
  | ends step hbefore hafter =>
    exact (ha.moved_popNextStep step (Or.inl rfl) AgentRunningStatus.noConfusion).between _ _ (stops_eq_zero hbefore)
      (stops_eq_zero hafter)

/-- An event that asks for no step. -/
theorem Orderly.moved_switch (ha : a.Orderly) {e : Event} (he : getRunStep e.type = .idle)
    (hok : a.Undisturbed (.event e)) (hinterrupt : a.runningStatus ≠ .interrupt) :
    Moved a (a.switch e).1 (a.switch e).2 := by
  rcases switch_cases (a := a) he with hended | ⟨hanswer, hfailed, hswitch⟩
  · exact ha.moved_ended hended
  · rw [hswitch]
    have hzero : a.tearDowns = 0 := by
      by_contra hne
      rcases ha.waiting hne with hs | ⟨hd, -⟩
      · exact hinterrupt hs
      · have h := hok hd
        obtain ⟨type, requestId, errorCode⟩ := e
        cases type <;> first | exact hne (h hfailed) | cases hanswer
    exact ⟨ha.setRunningStatus (by decide) (by decide) fun hne => absurd hzero hne, Or.inl rfl, id,
      fun hover => ⟨hover.1, Or.inr rfl⟩⟩

/-- Every event and every notification, as long as nothing disturbs the tear-down. -/
theorem Orderly.moved_act (ha : a.Orderly) {x : Act} (hok : a.Undisturbed x) :
    Moved a (a.act x).1 (a.act x).2 := by
  cases x with
  | event e =>
    by_cases hidle : getRunStep e.type = .idle
    · rw [act, handleEvent_idle hidle]
      split
      · exact ha.moved_self (stops_updateSessionStatus _ (by decide) e)
      · rename_i hinterrupt
        exact ha.moved_switch hidle hok hinterrupt
    · by_cases herror : isProsumerError e.type = true
      · rw [act, handleEvent_prosumerError herror]
        apply ha.moved_prosumerError e
        intro hd
        have h := hok hd
        obtain ⟨type, requestId, errorCode⟩ := e
        cases type <;> first | exact h | cases herror
      · have herror : isProsumerError e.type = false := Bool.eq_false_iff.mpr herror
        apply ha.moved_taken (e := ⟨e, hidle⟩) herror _ (handleEvent_taken (e := ⟨e, hidle⟩) herror)
        intro hstep hd
        have h := hok hd
        obtain ⟨type, requestId, errorCode⟩ := e
        cases type with
        | destroy => exact h
        | prosumerError => cases herror
        | _ => cases hstep
  | notify n =>
    cases n with
    | error requestId code =>
      rw [act, onSessionNotify, handleSessionError_eq]
      split
      · rename_i hends
        have h := (ha.moved_popNextStep a.runStep (Or.inr rfl) fun _ hd => hok hd hends).between
          [.interaction .msgError requestId code] [] rfl rfl
        simpa using h
      · exact ha.moved_self rfl
    | interrupted => exact ha.moved_popNextStep _ (Or.inl rfl) AgentRunningStatus.noConfusion
    | _ => exact ha.moved_self rfl

namespace History

variable {h : History}

/-- The invariant of a run. -/
structure Kept (h : History) : Prop where
  orderly : h.agent.Orderly
  stops : Agent.stops h.outputs ≤ 1
  unstopped : h.agent.runStep ≠ .destroy → Agent.stops h.outputs = 0
  final : EventLog.Guarded (fun before p => (.destroy, .done) ∈ before →
    p = (.destroy, .done) ∨ p = (.destroy, .error)) h.states
  atEnd : (.destroy, .done) ∈ h.states → h.agent.Over

theorem kept_created (agentType : AgentType) : (created agentType).Kept where
  orderly :=
    { created := created_createSession agentType
      one := Nat.zero_le 1
      waiting := fun h => absurd rfl h
      interrupt := AgentRunningStatus.noConfusion }
  stops := Nat.zero_le 1
  unstopped _ := rfl
  final := EventLog.guarded_nil
  atEnd h := absurd h List.not_mem_nil

theorem Kept.moved (hh : h.Kept) {a' : Agent} {outputs : List Output}
    (hmoved : Moved h.agent a' outputs) :
    Kept ⟨a', h.outputs ++ outputs, h.states ++ [(a'.runStep, a'.runningStatus)]⟩ := by
  have hover : (.destroy, .done) ∈ h.states ++ [(a'.runStep, a'.runningStatus)] → a'.Over := by
    intro hmem
    rcases List.mem_append.mp hmem with hmem | hmem
    · exact hmoved.atEnd (hh.atEnd hmem)
    · have hnew := List.mem_singleton.mp hmem
      simp only [Prod.mk.injEq] at hnew
      exact ⟨hnew.1.symm, Or.inl hnew.2.symm⟩
  refine ⟨hmoved.orderly, ?_, ?_, EventLog.guarded_snoc.mpr ⟨hh.final, ?_⟩, hover⟩
  · show Agent.stops (h.outputs ++ outputs) ≤ 1
    rw [stops_append]
    rcases hmoved.stops with hzero | ⟨hone, hne, -⟩
    · have hle := hh.stops
      omega
    · have hzero := hh.unstopped hne
      omega
  · intro hne
    show Agent.stops (h.outputs ++ outputs) = 0
    have hbefore : h.agent.runStep ≠ .destroy := fun hd => hne (hmoved.stays hd)
    rw [stops_append, hh.unstopped hbefore]
    rcases hmoved.stops with hzero | ⟨-, -, hd⟩
    · omega
    · exact absurd hd hne
  · intro hmem
    obtain ⟨hd, hs | hs⟩ := hover (List.mem_append_left _ hmem)
    · exact Or.inl (Prod.ext hd hs)
    · exact Or.inr (Prod.ext hd hs)

theorem Kept.step (hh : h.Kept) {x : Act} (hok : h.agent.Undisturbed x) : (h.step x).Kept :=
  hh.moved (hh.orderly.moved_act hok)

theorem Kept.tornDownOnce (hh : h.Kept) : h.TornDownOnce where
  once := hh.stops
  final := hh.final
  drained := by
    intro hs p hp hdestroy
    have hne : h.agent.tearDowns ≠ 0 := by
      intro hzero
      have hnone := List.countP_eq_zero.mp hzero p hp
      rw [hdestroy] at hnone
      exact hnone rfl
    rcases hh.orderly.waiting hne with hw | ⟨-, hw⟩ <;> rcases hs with hs | hs <;> rw [hs] at hw <;>
      cases hw

/-- As long as no error disturbs its tear-down, an agent is torn down once. -/
theorem foldl_tornDownOnce {agentType : AgentType} {acts : List Act}
    (hok : AllMeet step (fun h x => h.agent.Undisturbed x) (created agentType) acts) :
    (acts.foldl step (created agentType)).TornDownOnce := by
  have hkept : (acts.foldl step (created agentType)).Kept :=
    AllMeet.invariant (I := Kept) (fun _ _ hh hok => hh.step hok) (kept_created agentType) hok
  exact hkept.tornDownOnce

/-- A start that is interrupted, and requests behind the end. -/
theorem foldl_tornDownOnce_interrupt : ([.event ⟨.start, 1, .ok⟩, .event ⟨.playStart, 2, .ok⟩,
    .event ⟨.destroy, 3, .ok⟩, .event ⟨.destroy, 4, .ok⟩, .notify .interrupted,
    .event ⟨.stateProsumer .stop 7, 0, .ok⟩, .event ⟨.stateProsumer .destroy 7, 0, .ok⟩,
    .event ⟨.destroy, 5, .ok⟩, .notify (.error 0 .networkError)].foldl step (created .sink)).TornDownOnce :=
  foldl_tornDownOnce (by
    simp only [AllMeet]
    exact ⟨by rintro ⟨⟩, by rintro ⟨⟩, by rintro ⟨⟩, by rintro ⟨⟩, trivial, fun _ => trivial, fun _ => trivial,
      fun _ => by rintro ⟨⟩, fun _ _ => rfl, trivial⟩)

/-- Two errors of the prosumer stop the session twice. -/
theorem prosumerErrors_not_tornDownOnce : ¬ ∀ (agentType : AgentType) (acts : List Act),
    (acts.foldl step (created agentType)).TornDownOnce := by
  intro hall
  have honce := (hall .sink [.event ⟨.prosumerError 7, 0, .prosumerTimeout⟩,
    .event ⟨.prosumerError 7, 0, .prosumerTimeout⟩]).once
  exact absurd honce (by decide)

end History

end Agent

end WifiDisplay
