import WifiDisplay.MediaChannel

/-! Which requests a channel answers once, to the agent that made them, and without hiding a
failure from it. -/

namespace WifiDisplay

/-- The step that an agent has running for the request. -/
def ChannelOperation.runStep : ChannelOperation → AgentRunStep
  | consumerCreate | consumerStart | producerCreate | producerStart => .start
  | consumerStop | consumerDestroy | producerStop | producerDestroy => .destroy
  | appendSurface _ => .appendSurface
  | removeSurface _ => .removeSurface
  | playStart => .play
  | playStop => .playStop

/-- What the prosumer does for the request. -/
def ChannelOperation.prosumerState : ChannelOperation → Option Agent.ProsumerState
  | consumerCreate | producerCreate => some .create
  | consumerStart | producerStart => some .start
  | consumerStop | producerStop => some .stop
  | consumerDestroy | producerDestroy => some .destroy
  | _ => none

/-- The event says that the operation is completed, or is the error of its prosumer. -/
def ChannelOperation.EndedBy (operation : ChannelOperation) : Agent.EventType → Prop
  | .stateProsumer state _ => operation.prosumerState = some state
  | .prosumerError _ => operation.prosumerState.isSome
  | .stateChannelAppendSurface => ∃ surface, operation = .appendSurface surface
  | .stateChannelRemoveSurface surfaceId => operation = .removeSurface surfaceId
  | .statePlayStart => operation = .playStart
  | .statePlayStop => operation = .playStop
  | _ => False

namespace Agent

/-- The agent without the requests that it keeps for later. -/
def alone (a : Agent) : Agent := { a with runEvents := .empty }

/-- Of itself, without a request that was kept, the event ends the step as done. -/
def CompletesAsDone (a : Agent) (step : AgentRunStep) (e : Event) : Prop :=
  (a.alone.handleEvent e).1.runStep = step ∧ (a.alone.handleEvent e).1.runningStatus = .done

/-- No agent that has the step running takes the event for its end. -/
def NeverDone (step : AgentRunStep) (e : Event) : Prop :=
  ∀ a : Agent, a.runStep = step → a.runningStatus = .running → ¬ a.CompletesAsDone step e

variable {step : AgentRunStep} {requestId : BitVec 32} {errorCode : ErrorCode}

/-- An event that asks for no step is handled by its branch. -/
theorem handleEvent_of_running {a : Agent} (hstatus : a.runningStatus = .running) {e : Event}
    (hstep : getRunStep e.type = .idle) : (a.handleEvent e).1 = (a.switch e).1 := by
  have hcheck : a.checkRunStep e = (a, .ok, false) := dif_pos hstep
  obtain ⟨type, requestId, errorCode⟩ := e
  cases type with
  | prosumerError prosumerId => cases hstep
  | _ =>
    simp only [handleEvent, handleEventWith, hcheck, hstatus]
    rfl

/-- The status stays what it was, or what the branch makes of it. -/
theorem neverDone_of_switch {e : Event} (hstep : getRunStep e.type = .idle)
    (hswitch : ∀ a : Agent, a.runningStatus = .running → (a.switch e).1.runningStatus ≠ .done) :
    NeverDone step e := by
  rintro a - hstatus ⟨-, hdone⟩
  have hrunning : a.alone.runningStatus = .running := hstatus
  rw [handleEvent_of_running hrunning hstep] at hdone
  exact hswitch a.alone hrunning hdone

theorem neverDone_create (prosumerId : BitVec 32) :
    NeverDone step ⟨.stateProsumer .create prosumerId, requestId, errorCode⟩ := by
  refine neverDone_of_switch rfl fun a hstatus => ?_
  cases hsession : a.session <;>
    simp [switch, handleProsumerState, pushNextStep, hsession, hstatus]

theorem neverDone_stop (prosumerId : BitVec 32) :
    NeverDone step ⟨.stateProsumer .stop prosumerId, requestId, errorCode⟩ := by
  refine neverDone_of_switch rfl fun a hstatus => ?_
  cases hsession : a.session <;>
    simp [switch, handleProsumerState, pushNextStep, hsession, hstatus]

/-- An error makes room for the step that destroys. -/
theorem neverDone_error (prosumerId : BitVec 32) :
    NeverDone step ⟨.prosumerError prosumerId, requestId, errorCode⟩ := by
  rintro a - - ⟨-, hdone⟩
  have hrunning : (a.alone.handleEvent
      ⟨.prosumerError prosumerId, requestId, errorCode⟩).1.runningStatus = .running := rfl
  cases hrunning.symm.trans hdone

theorem neverDone_refused {type : EventType} (hcode : errorCode ≠ .ok)
    (htype : type = .statePlayStart ∨ type = .statePlayStop ∨ type = .stateChannelAppendSurface) :
    NeverDone step ⟨type, requestId, errorCode⟩ := by
  rcases htype with rfl | rfl | rfl
  all_goals
    refine neverDone_of_switch rfl fun a _ => ?_
    simp [switch, handleAnswer, hcode, setRunningStatus]

/-- A sink with a session that has the step running. -/
def waiting (step : AgentRunStep) : Agent :=
  { agentType := .sink, session := true, runStep := step, runningStatus := .running }

theorem not_neverDone_start (prosumerId : BitVec 32) :
    ¬ NeverDone .start ⟨.stateProsumer .start prosumerId, requestId, errorCode⟩ :=
  fun hnever => hnever (waiting .start) rfl rfl ⟨rfl, rfl⟩

theorem not_neverDone_removeSurface (surfaceId : BitVec 64) :
    ¬ NeverDone .removeSurface ⟨.stateChannelRemoveSurface surfaceId, requestId, errorCode⟩ :=
  fun hnever => hnever (waiting .removeSurface) rfl rfl ⟨rfl, rfl⟩

theorem not_neverDone_playStart : ¬ NeverDone .play ⟨.statePlayStart, requestId, .ok⟩ :=
  fun hnever => hnever (waiting .play) rfl rfl ⟨rfl, rfl⟩

end Agent

namespace MediaChannel

variable (m : MediaChannel) (e : ChannelEventMsg) (r : OperationResults)

/-- The consumer itself starts. -/
def ConsumerStarts (c : BaseConsumer) (r : OperationResults) : Prop :=
  c.className = .wfdRtpConsumer → r.started

/-- What was asked for is not done. A prosumer that is not there is stopped and destroyed. -/
def Failed : Prop :=
  match e.operation with
  | .consumerCreate => ∀ made ∈ r.consumer, made.1 = .wfdRtpConsumer ∧ ¬ r.initialised
  | .consumerDestroy => ∃ c ∈ m.consumer, c.isRunning
  | .consumerStart => ∀ c ∈ m.consumer,
      ConsumerStarts c r → m.playController ∧ ¬ r.controllerInit
  | .consumerStop => ∃ c ∈ m.consumer, c.className = .screenCaptureConsumer ∧ ¬ r.stopped
  | .producerCreate => r.producer = none
  | .producerDestroy => ∃ p ∈ m.producers.lookup e.prosumerId, p.isRunning
  | .producerStart => m.producers.lookup e.prosumerId ≠ none → r.attached → ¬ r.started
  | .producerStop => m.producers.lookup e.prosumerId ≠ none ∧ ¬ r.stopped
  | .appendSurface surface =>
    ¬ (m.consumer.isSome ∧ surface.isSome ∧ m.playController ∧ r.surfaceAppended)
  | .removeSurface _ => ¬ (m.consumer.isSome ∧ m.playController)
  | .playStart => ¬ (m.playController ∧ r.playing)
  | .playStop => ¬ m.playController

/-- One event goes back with the ids of the request, which ends the operation that was asked for, and
tells of a failure so that no agent takes its step for done. -/
def Answers : Prop :=
  ∃ answer, (m.handleEvent e r).2 = [answer] ∧ answer.agentId = e.agentId ∧
    answer.event.requestId = e.requestId ∧ e.operation.EndedBy answer.event.type ∧
    (m.Failed e r → Agent.NeverDone e.operation.runStep answer.event)

/-- The prosumer that answers is the agent's own; there is a consumer for surfaces to be appended
and removed, and a play controller to remove them; and what starts can play. -/
def Serves : Prop :=
  match e.operation with
  | .consumerCreate | .producerCreate | .playStop => True
  | .consumerDestroy => ∀ c ∈ m.consumer, ¬ c.isRunning → c.sinkAgentId = e.agentId
  | .consumerStart => ∀ c ∈ m.consumer, c.sinkAgentId = e.agentId ∧
      (ConsumerStarts c r → m.playController → r.controllerInit)
  | .consumerStop => ∀ c ∈ m.consumer, c.sinkAgentId = e.agentId
  | .producerDestroy => ∀ p ∈ m.producers.lookup e.prosumerId,
      ¬ p.isRunning → p.srcAgentId = e.agentId
  | .producerStart => ∀ p ∈ m.producers.lookup e.prosumerId, r.attached → p.srcAgentId = e.agentId
  | .producerStop => ∀ p ∈ m.producers.lookup e.prosumerId, p.srcAgentId = e.agentId
  | .appendSurface surface => ∃ c, m.consumer = some c ∧
      (surface.isSome → m.playController → r.surfaceAppended → c.sinkAgentId = e.agentId)
  | .removeSurface _ => ∃ c, m.consumer = some c ∧ c.sinkAgentId = e.agentId ∧ m.playController
  | .playStart => m.playController → r.playing

variable {m e r}

/-- A single answer that ends the operation. -/
theorem answers_iff {operation : ChannelOperation} (hop : e.operation = operation) {agentId : BitVec 32}
    {code : Agent.ErrorCode} {type : Agent.EventType}
    (heq : (m.handleEvent e r).2 = [m.sendAgentEvent e.requestId agentId code type])
    (hends : operation.EndedBy type) :
    m.Answers e r ↔ agentId = e.agentId ∧
      (m.Failed e r → Agent.NeverDone operation.runStep ⟨type, e.requestId, code⟩) := by
  subst hop
  constructor
  · rintro ⟨answer, heq', hid, -, -, hfailed⟩
    cases heq.symm.trans heq'
    exact ⟨hid, hfailed⟩
  · exact fun h => ⟨_, heq, h.1, rfl, hends, h.2⟩

/-- One that no agent takes for the end of its step. -/
theorem answers_of_neverDone {operation : ChannelOperation} (hop : e.operation = operation)
    {agentId : BitVec 32} {code : Agent.ErrorCode} {type : Agent.EventType}
    (heq : (m.handleEvent e r).2 = [m.sendAgentEvent e.requestId agentId code type])
    (hends : operation.EndedBy type)
    (hnever : Agent.NeverDone operation.runStep ⟨type, e.requestId, code⟩) :
    m.Answers e r ↔ agentId = e.agentId :=
  (answers_iff hop heq hends).trans (and_iff_left fun _ => hnever)

theorem answers_of_not_failed {operation : ChannelOperation} (hop : e.operation = operation)
    {agentId : BitVec 32} {code : Agent.ErrorCode} {type : Agent.EventType}
    (heq : (m.handleEvent e r).2 = [m.sendAgentEvent e.requestId agentId code type])
    (hends : operation.EndedBy type)
    (hdone : ¬ m.Failed e r) : m.Answers e r ↔ agentId = e.agentId :=
  (answers_iff hop heq hends).trans (and_iff_left fun hfailed => absurd hfailed hdone)

theorem not_answers_of_nil (heq : (m.handleEvent e r).2 = []) : ¬ m.Answers e r := by
  rintro ⟨answer, hanswer, -⟩
  cases heq.symm.trans hanswer

theorem not_answers_of_done {operation : ChannelOperation} (hop : e.operation = operation)
    {agentId : BitVec 32} {code : Agent.ErrorCode} {type : Agent.EventType}
    (heq : (m.handleEvent e r).2 = [m.sendAgentEvent e.requestId agentId code type])
    (hends : operation.EndedBy type)
    (hfailed : m.Failed e r) (hdone : ¬ Agent.NeverDone operation.runStep ⟨type, e.requestId, code⟩) :
    ¬ m.Answers e r :=
  fun h => hdone (((answers_iff hop heq hends).mp h).2 hfailed)

section consumer

variable {c : BaseConsumer}

theorem answers_consumerCreate (hop : e.operation = .consumerCreate) : m.Answers e r := by
  cases hmade : r.consumer with
  | none =>
    have heq : (m.handleEvent e r).2 = [m.sendAgentEvent e.requestId e.agentId .prosumerCreate
        (.prosumerError invalidId)] := by
      simp only [handleEvent, hop, handleCreateConsumer, hmade]
      rfl
    exact (answers_of_neverDone hop heq rfl (Agent.neverDone_error _)).mpr rfl
  | some made =>
    obtain ⟨code, heq⟩ : ∃ code, (m.handleEvent e r).2 = [m.sendAgentEvent e.requestId e.agentId
        code (.stateProsumer .create made.2)] := by
      simp only [handleEvent, hop, handleCreateConsumer, hmade]
      cases made.1 <;> exact ⟨_, rfl⟩
    exact (answers_of_neverDone hop heq rfl (Agent.neverDone_create _)).mpr rfl

theorem answers_consumerDestroy_iff (hop : e.operation = .consumerDestroy) :
    m.Answers e r ↔ ∀ c ∈ m.consumer, ¬ c.isRunning → c.sinkAgentId = e.agentId := by
  cases hconsumer : m.consumer with
  | none =>
    have heq : (m.handleEvent e r).2 = [m.sendAgentEvent e.requestId e.agentId .ok
        (.stateProsumer .destroy invalidId)] := by
      simp only [handleEvent, hop, handleDestroyConsumer, hconsumer]
      rfl
    have hdone : ¬ m.Failed e r := by simp [Failed, hop, hconsumer]
    exact iff_of_true ((answers_of_not_failed hop heq rfl hdone).mpr rfl) nofun
  | some c =>
    simp only [Option.mem_def, Option.some.injEq, forall_eq']
    by_cases hrunning : c.isRunning
    · have heq : (m.handleEvent e r).2 = [m.sendAgentEvent e.requestId e.agentId .prosumerDestroy
          (.prosumerError c.id)] := by
        simp only [handleEvent, hop, handleDestroyConsumer, hconsumer, hrunning, if_true]
        rfl
      exact iff_of_true ((answers_of_neverDone hop heq rfl (Agent.neverDone_error _)).mpr rfl)
        fun hnot => absurd hrunning hnot
    · have heq : (m.handleEvent e r).2 = [m.sendAgentEvent e.requestId c.sinkAgentId .ok
          (.stateProsumer .destroy c.id)] := by
        simp only [handleEvent, hop, handleDestroyConsumer, hconsumer, hrunning]
        rfl
      have hdone : ¬ m.Failed e r := by simp [Failed, hop, hconsumer, hrunning]
      rw [answers_of_not_failed hop heq rfl hdone]
      exact ⟨fun hid _ => hid, fun h => h hrunning⟩

theorem updateConsumer_start (hstarts : ConsumerStarts c r) :
    ∃ code, (m.updateConsumer e r c .start).2 =
      [m.sendAgentEvent e.requestId c.sinkAgentId code (.stateProsumer .start c.id)] := by
  obtain ⟨c', hupdate, hid, hagent⟩ : ∃ c', c.updateOperation r .start = (c', .startSuccess, .ok) ∧
      c'.id = c.id ∧ c'.sinkAgentId = c.sinkAgentId := by
    unfold BaseConsumer.updateOperation
    cases hclass : c.className with
    | wfdRtpConsumer => exact ⟨_, if_pos (hstarts hclass), rfl, rfl⟩
    | screenCaptureConsumer => exact ⟨c, rfl, rfl, rfl⟩
  simp only [updateConsumer, hupdate, initPlayController, hid, hagent]
  split <;> exact ⟨_, rfl⟩

theorem updateConsumer_start_refused (hrefused : ¬ ConsumerStarts c r) :
    (m.updateConsumer e r c .start).2 =
      [m.sendAgentEvent e.requestId c.sinkAgentId .prosumerStart (.prosumerError c.id)] := by
  obtain ⟨hclass, hstarted⟩ := Classical.not_imp.mp hrefused
  have hupdate : c.updateOperation r .start = (c, .error, .prosumerStart) := by
    unfold BaseConsumer.updateOperation
    simp only [hclass, hstarted]
    rfl
  simp only [updateConsumer, hupdate]
  rfl

theorem updateConsumer_stop : ∃ code type, (m.updateConsumer e r c .stop).2 =
      [m.sendAgentEvent e.requestId c.sinkAgentId code type] ∧
      ChannelOperation.consumerStop.EndedBy type ∧ ∀ step, Agent.NeverDone step ⟨type, e.requestId, code⟩ := by
  unfold updateConsumer BaseConsumer.updateOperation
  cases c.className with
  | wfdRtpConsumer => exact ⟨_, _, rfl, rfl, fun _ => Agent.neverDone_stop _⟩
  | screenCaptureConsumer =>
    cases r.stopped with
    | true => exact ⟨_, _, rfl, rfl, fun _ => Agent.neverDone_stop _⟩
    | false => exact ⟨_, _, rfl, rfl, fun _ => Agent.neverDone_error _⟩

theorem answers_consumerStart_iff (hop : e.operation = .consumerStart) :
    m.Answers e r ↔ ∀ c ∈ m.consumer, c.sinkAgentId = e.agentId ∧
      (ConsumerStarts c r → m.playController → r.controllerInit) := by
  cases hconsumer : m.consumer with
  | none =>
    have heq : (m.handleEvent e r).2 = [m.sendAgentEvent e.requestId e.agentId .prosumerStart
        (.prosumerError invalidId)] := by
      simp only [handleEvent, hop, handleStartConsumer, hconsumer]
      rfl
    exact iff_of_true ((answers_of_neverDone hop heq rfl (Agent.neverDone_error _)).mpr rfl) nofun
  | some c =>
    simp only [Option.mem_def, Option.some.injEq, forall_eq']
    by_cases hstarts : ConsumerStarts c r
    · obtain ⟨code, hupdate⟩ := updateConsumer_start (m := m) (e := e) hstarts
      have heq : (m.handleEvent e r).2 = [m.sendAgentEvent e.requestId c.sinkAgentId code
          (.stateProsumer .start c.id)] := by
        simp only [handleEvent, hop, handleStartConsumer, hconsumer, hupdate]
      by_cases hplay : m.playController ∧ ¬ r.controllerInit
      · have hfailed : m.Failed e r := by
          simp [Failed, hop, hconsumer, hplay]
        have hnot : ¬ m.Answers e r := by
          exact not_answers_of_done hop heq rfl hfailed (Agent.not_neverDone_start _)
        exact iff_of_false hnot fun h => hplay.2 (h.2 hstarts hplay.1)
      · have hdone : ¬ m.Failed e r := by
          simp only [Failed, hop, hconsumer, Option.mem_def, Option.some.injEq, forall_eq']
          exact fun h => hplay (h hstarts)
        rw [answers_of_not_failed hop heq rfl hdone]
        exact ⟨fun hid => ⟨hid, fun _ hp => by simpa [hp] using hplay⟩, And.left⟩
    · have heq : (m.handleEvent e r).2 = [m.sendAgentEvent e.requestId c.sinkAgentId .prosumerStart
          (.prosumerError c.id)] := by
        simp only [handleEvent, hop, handleStartConsumer, hconsumer,
          updateConsumer_start_refused hstarts]
      rw [answers_of_neverDone hop heq rfl (Agent.neverDone_error _)]
      exact ⟨fun hid => ⟨hid, fun h => absurd h hstarts⟩, And.left⟩

theorem answers_consumerStop_iff (hop : e.operation = .consumerStop) :
    m.Answers e r ↔ ∀ c ∈ m.consumer, c.sinkAgentId = e.agentId := by
  cases hconsumer : m.consumer with
  | none =>
    have heq : (m.handleEvent e r).2 = [m.sendAgentEvent e.requestId e.agentId .ok
        (.stateProsumer .stop invalidId)] := by
      simp only [handleEvent, hop, handleStopConsumer, hconsumer]
      rfl
    exact iff_of_true ((answers_of_neverDone hop heq rfl (Agent.neverDone_stop _)).mpr rfl) nofun
  | some c =>
    simp only [Option.mem_def, Option.some.injEq, forall_eq']
    obtain ⟨code, type, hupdate, hends, hnever⟩ := updateConsumer_stop (m := m) (e := e) (r := r) (c := c)
    have heq : (m.handleEvent e r).2 = [m.sendAgentEvent e.requestId c.sinkAgentId code type] := by
      simp only [handleEvent, hop, handleStopConsumer, hconsumer, hupdate]
    exact answers_of_neverDone hop heq hends (hnever _)

end consumer

section producer

variable {p : BaseProducer}

theorem answers_producerCreate (hop : e.operation = .producerCreate) : m.Answers e r := by
  cases hmade : r.producer with
  | none =>
    have heq : (m.handleEvent e r).2 = [m.sendAgentEvent e.requestId e.agentId .prosumerCreate
        (.prosumerError invalidId)] := by
      simp only [handleEvent, hop, handleCreateProducer, hmade]
      rfl
    exact (answers_of_neverDone hop heq rfl (Agent.neverDone_error _)).mpr rfl
  | some id =>
    have heq : (m.handleEvent e r).2 = [m.sendAgentEvent e.requestId e.agentId .ok
        (.stateProsumer .create id)] := by
      simp only [handleEvent, hop, handleCreateProducer, hmade]
      rfl
    exact (answers_of_neverDone hop heq rfl (Agent.neverDone_create _)).mpr rfl

theorem answers_producerDestroy_iff (hop : e.operation = .producerDestroy) :
    m.Answers e r ↔ ∀ p ∈ m.producers.lookup e.prosumerId,
      ¬ p.isRunning → p.srcAgentId = e.agentId := by
  cases hproducer : m.producers.lookup e.prosumerId with
  | none =>
    have heq : (m.handleEvent e r).2 = [m.sendAgentEvent e.requestId e.agentId .ok
        (.stateProsumer .destroy e.prosumerId)] := by
      simp only [handleEvent, hop, handleDestroyProducer, hproducer]
      rfl
    have hdone : ¬ m.Failed e r := by simp [Failed, hop, hproducer]
    exact iff_of_true ((answers_of_not_failed hop heq rfl hdone).mpr rfl) nofun
  | some p =>
    simp only [Option.mem_def, Option.some.injEq, forall_eq']
    by_cases hrunning : p.isRunning
    · have heq : (m.handleEvent e r).2 = [m.sendAgentEvent e.requestId e.agentId .prosumerDestroy
          (.prosumerError e.prosumerId)] := by
        simp only [handleEvent, hop, handleDestroyProducer, hproducer, hrunning, if_true]
        rfl
      exact iff_of_true ((answers_of_neverDone hop heq rfl (Agent.neverDone_error _)).mpr rfl)
        fun hnot => absurd hrunning hnot
    · have heq : (m.handleEvent e r).2 = [m.sendAgentEvent e.requestId p.srcAgentId .ok
          (.stateProsumer .destroy p.id)] := by
        simp only [handleEvent, hop, handleDestroyProducer, hproducer, hrunning]
        rfl
      have hdone : ¬ m.Failed e r := by simp [Failed, hop, hproducer, hrunning]
      rw [answers_of_not_failed hop heq rfl hdone]
      exact ⟨fun hid _ => hid, fun h => h hrunning⟩

theorem answers_producerStart_iff (hop : e.operation = .producerStart) :
    m.Answers e r ↔ ∀ p ∈ m.producers.lookup e.prosumerId,
      r.attached → p.srcAgentId = e.agentId := by
  cases hproducer : m.producers.lookup e.prosumerId with
  | none =>
    have heq : (m.handleEvent e r).2 = [m.sendAgentEvent e.requestId e.agentId .prosumerStart
        (.prosumerError e.prosumerId)] := by
      simp only [handleEvent, hop, handleStartProducer, hproducer]
      rfl
    exact iff_of_true ((answers_of_neverDone hop heq rfl (Agent.neverDone_error _)).mpr rfl) nofun
  | some p =>
    simp only [Option.mem_def, Option.some.injEq, forall_eq']
    by_cases hattached : r.attached
    · by_cases hstarted : r.started
      · have heq : (m.handleEvent e r).2 = [m.sendAgentEvent e.requestId p.srcAgentId .ok
            (.stateProsumer .start p.id)] := by
          simp only [handleEvent, hop, handleStartProducer, hproducer, hattached, if_true,
            updateProducer, BaseProducer.updateOperation, hstarted]
          rfl
        have hdone : ¬ m.Failed e r := by simp [Failed, hop, hproducer, hattached, hstarted]
        rw [answers_of_not_failed hop heq rfl hdone]
        exact ⟨fun hid _ => hid, fun h => h hattached⟩
      · have heq : (m.handleEvent e r).2 = [m.sendAgentEvent e.requestId p.srcAgentId .prosumerStart
            (.prosumerError p.id)] := by
          simp only [handleEvent, hop, handleStartProducer, hproducer, hattached, if_true,
            updateProducer, BaseProducer.updateOperation, hstarted]
          rfl
        rw [answers_of_neverDone hop heq rfl (Agent.neverDone_error _)]
        exact ⟨fun hid _ => hid, fun h => h hattached⟩
    · have heq : (m.handleEvent e r).2 = [m.sendAgentEvent e.requestId e.agentId .prosumerStart
          (.prosumerError e.prosumerId)] := by
        simp only [handleEvent, hop, handleStartProducer, hproducer, hattached]
        rfl
      exact iff_of_true ((answers_of_neverDone hop heq rfl (Agent.neverDone_error _)).mpr rfl)
        fun h => absurd h hattached

theorem answers_producerStop_iff (hop : e.operation = .producerStop) :
    m.Answers e r ↔ ∀ p ∈ m.producers.lookup e.prosumerId, p.srcAgentId = e.agentId := by
  cases hproducer : m.producers.lookup e.prosumerId with
  | none =>
    have heq : (m.handleEvent e r).2 = [m.sendAgentEvent e.requestId e.agentId .ok
        (.stateProsumer .stop e.prosumerId)] := by
      simp only [handleEvent, hop, handleStopProducer, hproducer]
      rfl
    exact iff_of_true ((answers_of_neverDone hop heq rfl (Agent.neverDone_stop _)).mpr rfl) nofun
  | some p =>
    simp only [Option.mem_def, Option.some.injEq, forall_eq']
    cases hstopped : r.stopped with
    | true =>
      have heq : (m.handleEvent e r).2 = [m.sendAgentEvent e.requestId p.srcAgentId .ok
          (.stateProsumer .stop p.id)] := by
        simp only [handleEvent, hop, handleStopProducer, hproducer, updateProducer,
          BaseProducer.updateOperation, hstopped]
        rfl
      exact answers_of_neverDone hop heq rfl (Agent.neverDone_stop _)
    | false =>
      have heq : (m.handleEvent e r).2 = [m.sendAgentEvent e.requestId p.srcAgentId .prosumerStop
          (.prosumerError p.id)] := by
        simp only [handleEvent, hop, handleStopProducer, hproducer, updateProducer,
          BaseProducer.updateOperation, hstopped]
        rfl
      exact answers_of_neverDone hop heq rfl (Agent.neverDone_error _)

end producer

section play

theorem answers_appendSurface_iff {surface : Option (BitVec 64)}
    (hop : e.operation = .appendSurface surface) : m.Answers e r ↔ ∃ c, m.consumer = some c ∧
      (surface.isSome → m.playController → r.surfaceAppended → c.sinkAgentId = e.agentId) := by
  cases hconsumer : m.consumer with
  | none =>
    have heq : (m.handleEvent e r).2 = [] := by
      simp only [handleEvent, hop, handleAppendSurface, hconsumer]
    exact iff_of_false (not_answers_of_nil heq) (by simp)
  | some c =>
    simp only [Option.some.injEq, exists_eq_left']
    by_cases hplay : surface.isSome ∧ m.playController
    · by_cases happended : r.surfaceAppended
      · have heq : (m.handleEvent e r).2 = [m.sendAgentEvent e.requestId c.sinkAgentId .ok
            .stateChannelAppendSurface] := by
          simp only [handleEvent, hop, handleAppendSurface, hconsumer]
          rw [if_pos hplay, if_pos happended]
        have hdone : ¬ m.Failed e r := by
          simp only [Failed, hop, hconsumer, not_not]
          exact ⟨rfl, hplay.1, hplay.2, happended⟩
        rw [answers_of_not_failed hop heq ⟨_, rfl⟩ hdone]
        exact ⟨fun hid _ _ _ => hid, fun h => h hplay.1 hplay.2 happended⟩
      · have heq : (m.handleEvent e r).2 = [m.sendAgentEvent e.requestId e.agentId
            errInvalidSurfaceId .stateChannelAppendSurface] := by
          simp only [handleEvent, hop, handleAppendSurface, hconsumer]
          rw [if_pos hplay, if_neg happended]
          rfl
        exact iff_of_true ((answers_of_neverDone hop heq ⟨_, rfl⟩ (Agent.neverDone_refused (by decide)
          (Or.inr (Or.inr rfl)))).mpr rfl) fun _ _ h => absurd h happended
    · have heq : (m.handleEvent e r).2 = [m.sendAgentEvent e.requestId e.agentId errPlayStart
          .stateChannelAppendSurface] := by
        simp only [handleEvent, hop, handleAppendSurface, hconsumer]
        rw [if_neg hplay]
        rfl
      exact iff_of_true ((answers_of_neverDone hop heq ⟨_, rfl⟩ (Agent.neverDone_refused (by decide)
        (Or.inr (Or.inr rfl)))).mpr rfl) fun hsurface hcontroller => absurd ⟨hsurface, hcontroller⟩ hplay

theorem answers_removeSurface_iff {surfaceId : BitVec 64}
    (hop : e.operation = .removeSurface surfaceId) : m.Answers e r ↔
      ∃ c, m.consumer = some c ∧ c.sinkAgentId = e.agentId ∧ m.playController := by
  cases hconsumer : m.consumer with
  | none =>
    have heq : (m.handleEvent e r).2 = [] := by
      simp only [handleEvent, hop, handleRemoveSurface, hconsumer]
    exact iff_of_false (not_answers_of_nil heq) (by simp)
  | some c =>
    simp only [Option.some.injEq, exists_eq_left']
    have heq : (m.handleEvent e r).2 = [m.sendAgentEvent e.requestId c.sinkAgentId .ok
        (.stateChannelRemoveSurface surfaceId)] := by
      simp only [handleEvent, hop, handleRemoveSurface, hconsumer]
    by_cases hcontroller : m.playController
    · have hdone : ¬ m.Failed e r := by simp [Failed, hop, hconsumer, hcontroller]
      rw [answers_of_not_failed hop heq rfl hdone]
      exact ⟨fun hid => ⟨hid, hcontroller⟩, And.left⟩
    · have hfailed : m.Failed e r := by simp [Failed, hop, hcontroller]
      have hnot : ¬ m.Answers e r := by
        exact not_answers_of_done hop heq rfl hfailed (Agent.not_neverDone_removeSurface _)
      exact iff_of_false hnot fun h => hcontroller h.2

theorem answers_playStart_iff (hop : e.operation = .playStart) :
    m.Answers e r ↔ (m.playController → r.playing) := by
  by_cases hcontroller : m.playController
  · have heq : (m.handleEvent e r).2 =
        [m.sendAgentEvent e.requestId e.agentId .ok .statePlayStart] := by
      simp only [handleEvent, hop, handleStartPlay, hcontroller]
      rfl
    by_cases hplaying : r.playing
    · have hdone : ¬ m.Failed e r := by simp [Failed, hop, hcontroller, hplaying]
      exact iff_of_true ((answers_of_not_failed hop heq rfl hdone).mpr rfl) fun _ => hplaying
    · have hfailed : m.Failed e r := by simp [Failed, hop, hplaying]
      have hnot : ¬ m.Answers e r := by
        exact not_answers_of_done hop heq rfl hfailed (Agent.not_neverDone_playStart)
      exact iff_of_false hnot fun h => hplaying (h hcontroller)
  · have heq : (m.handleEvent e r).2 =
        [m.sendAgentEvent e.requestId e.agentId errPlayStart .statePlayStart] := by
      simp only [handleEvent, hop, handleStartPlay, hcontroller]
      rfl
    exact iff_of_true ((answers_of_neverDone hop heq rfl (Agent.neverDone_refused (by decide)
      (Or.inl rfl))).mpr rfl) fun h => absurd h hcontroller

theorem answers_playStop (hop : e.operation = .playStop) : m.Answers e r := by
  by_cases hcontroller : m.playController
  · have heq : (m.handleEvent e r).2 =
        [m.sendAgentEvent e.requestId e.agentId .ok .statePlayStop] := by
      simp only [handleEvent, hop, handleStopPlay, hcontroller]
      rfl
    have hdone : ¬ m.Failed e r := by simp [Failed, hop, hcontroller]
    exact (answers_of_not_failed hop heq rfl hdone).mpr rfl
  · have heq : (m.handleEvent e r).2 =
        [m.sendAgentEvent e.requestId e.agentId errPlayStop .statePlayStop] := by
      simp only [handleEvent, hop, handleStopPlay, hcontroller]
      rfl
    exact (answers_of_neverDone hop heq rfl (Agent.neverDone_refused (by decide)
      (Or.inr (Or.inl rfl)))).mpr rfl

end play

theorem answers_iff_serves : m.Answers e r ↔ m.Serves e r := by
  unfold Serves
  split
  case h_1 hop => exact iff_of_true (answers_consumerCreate hop) trivial
  case h_2 hop => exact iff_of_true (answers_producerCreate hop) trivial
  case h_3 hop => exact iff_of_true (answers_playStop hop) trivial
  case h_4 hop => exact answers_consumerDestroy_iff hop
  case h_5 hop => exact answers_consumerStart_iff hop
  case h_6 hop => exact answers_consumerStop_iff hop
  case h_7 hop => exact answers_producerDestroy_iff hop
  case h_8 hop => exact answers_producerStart_iff hop
  case h_9 hop => exact answers_producerStop_iff hop
  case h_10 hop => exact answers_appendSurface_iff hop
  case h_11 hop => exact answers_removeSurface_iff hop
  case h_12 hop => exact answers_playStart_iff hop

end MediaChannel

namespace ChannelManager

variable (m : ChannelManager) (e : ChannelEventMsg) (r : OperationResults)

/-- A channel that is gone does nothing of what it is asked for. -/
def Failed : Prop :=
  ∀ mediaChannel ∈ m.mediaChannels.lookup e.dstId, mediaChannel.Failed e r

/-- One event goes back with the ids of the request, which ends the operation that was asked for, and
tells of a failure so that no agent takes its step for done. -/
def Answers : Prop :=
  ∃ answer, (m.handleEvent e r).2 = [answer] ∧ answer.agentId = e.agentId ∧
    answer.event.requestId = e.requestId ∧ e.operation.EndedBy answer.event.type ∧
    (m.Failed e r → Agent.NeverDone e.operation.runStep answer.event)

/-- The channel is there and serves the request. -/
def Serves : Prop :=
  ∃ mediaChannel, m.mediaChannels.lookup e.dstId = some mediaChannel ∧ mediaChannel.Serves e r

/-- A channel answers exactly the requests that it serves. -/
theorem answers_once_iff : m.Answers e r ↔ m.Serves e r := by
  unfold Answers Serves Failed handleEvent
  cases hchannel : m.mediaChannels.lookup e.dstId with
  | none => exact iff_of_false (by simp) (by simp)
  | some mediaChannel =>
    simp only [Option.some.injEq, exists_eq_left', Option.mem_def, forall_eq']
    exact MediaChannel.answers_iff_serves

/-- A channel whose consumer was made by the agent 3. -/
def withConsumer : ChannelManager where
  mediaChannels := AList.insert 5
    { id := 5, consumer := some { className := .wfdRtpConsumer, id := 8, sinkAgentId := 3 } } ∅

/-- A channel that is gone, or has no consumer, answers nothing; a consumer that starts without
a decoder and a controller that finds nothing to play are reported as done. -/
theorem silentChannel_not_answers :
    ¬ Answers {} ⟨.consumerStart, 5, 3, 9, 8⟩ {} ∧
      ¬ Answers { mediaChannels := AList.insert 5 { id := 5 } ∅ } ⟨.removeSurface 7, 5, 3, 9, 8⟩ {} ∧
      ¬ withConsumer.Answers ⟨.consumerStart, 5, 3, 9, 8⟩ { controllerInit := false } ∧
      ¬ withConsumer.Answers ⟨.playStart, 5, 3, 9, 8⟩ { playing := false } := by
  refine ⟨fun h => ?_, fun h => ?_, fun h => ?_, fun h => ?_⟩
  · obtain ⟨answer, heq, -⟩ := h
    cases heq
  · obtain ⟨answer, heq, -⟩ := h
    cases heq
  · obtain ⟨answer, heq, -, -, -, hnever⟩ := h
    cases heq
    refine Agent.not_neverDone_start _ (hnever ?_)
    rintro mediaChannel ⟨⟩ c ⟨⟩ -
    exact ⟨rfl, Bool.false_ne_true⟩
  · obtain ⟨answer, heq, -, -, -, hnever⟩ := h
    cases heq
    refine Agent.not_neverDone_playStart (hnever ?_)
    rintro mediaChannel ⟨⟩ ⟨-, hplaying⟩
    cases hplaying

end ChannelManager

end WifiDisplay
