import WifiDisplay.AgentSteps
import WifiDisplay.GuardedRuns
import Mathlib.Data.Finset.Basic

/-! The requests that an agent keeps while a step runs, against their execution one after
another: the agent with a session that starts and a channel that answers. -/

namespace WifiDisplay

namespace Agent

/-- What the channel shows: the surfaces that were appended, and whether it plays. -/
structure Channel where
  surfaces : Finset (BitVec 64) := ∅
  playing : Bool := false
  deriving DecidableEq

def isSurfaceRequest : EventType → Bool
  | .channelAppendSurface _ _ | .channelRemoveSurface _ => true
  | _ => false

def isChannelRequest : EventType → Bool
  | .channelAppendSurface _ _ | .channelRemoveSurface _ | .playStart | .playStop => true
  | _ => false

namespace Channel

def execute (c : Channel) (e : Event) : Channel :=
  match e.type with
  | .channelAppendSurface surface _ => { c with surfaces := insert surface c.surfaces }
  | .channelRemoveSurface surfaceId => { c with surfaces := c.surfaces.erase surfaceId }
  | .playStart => { c with playing := true }
  | .playStop => { c with playing := false }
  | _ => c

def executeAll (events : List Event) : Channel := events.foldl execute {}

end Channel

def channelRequest : Output → Option Event
  | .channel _ _ _ e => some e
  | _ => none

/-- The agent with the requests that have arrived, those that it has forwarded to the
channel, and the one that is not answered yet. -/
structure Dialogue where
  agent : Agent
  started : Bool := false
  requests : List Event := []
  forwarded : List Event := []
  pending : Option Event := none

namespace Dialogue

inductive Move where
  | start (requestId : BitVec 32)
  | request (e : Event)
  | answer (prosumerId : BitVec 32)
  deriving DecidableEq, Repr

/-- The step cannot be taken now. -/
inductive Blocked where
  | blocked

def created (agentType : AgentType) : Dialogue where
  agent := (createSession { agentType } true).1

/-- The successful answer to a request. -/
def answerTo (prosumerId : BitVec 32) (e : Event) : Event where
  type := match e.type with
    | .start => .stateProsumer .start prosumerId
    | .playStart => .statePlayStart
    | .playStop => .statePlayStop
    | .channelAppendSurface _ _ => .stateChannelAppendSurface
    | .channelRemoveSurface surfaceId => .stateChannelRemoveSurface surfaceId
    | type => type
  requestId := e.requestId

variable (d : Dialogue)

/-- A request to append or to remove a surface has an id of its own. -/
def Fresh (e : Event) : Prop :=
  isSurfaceRequest e.type = true →
    ∀ e' ∈ d.requests, isSurfaceRequest e'.type = true → e'.requestId ≠ e.requestId

instance (e : Event) : Decidable (d.Fresh e) := inferInstanceAs (Decidable (_ → _))

def step : Move → Except Blocked Dialogue
  | .start requestId =>
    if d.started then .error .blocked
    else
      let e : Event := { type := .start, requestId }
      .ok { d with agent := (d.agent.handleEvent e).1, started := true, pending := some e }
  | .request e =>
    if isChannelRequest e.type ∧ d.Fresh e then
      let (agent, _, outputs) := d.agent.handleEvent e
      let new := outputs.filterMap channelRequest
      .ok { d with
        agent, requests := d.requests ++ [e], forwarded := d.forwarded ++ new
        pending := new.getLast?.or d.pending }
    else .error .blocked
  | .answer prosumerId =>
    match d.pending with
    | none => .error .blocked
    | some e =>
      let (agent, _, outputs) := d.agent.handleEvent (answerTo prosumerId e)
      let new := outputs.filterMap channelRequest
      .ok { d with agent, forwarded := d.forwarded ++ new, pending := new.getLast? }

/-- Every request about a surface is forwarded at most once. When the session has started
and everything is answered, each was forwarded, and the channel is as if all requests had
been executed in the order of their arrival. -/
structure Transparent : Prop where
  once : ∀ e ∈ d.requests, isSurfaceRequest e.type = true → d.forwarded.count e ≤ 1
  all : d.started = true → d.pending = none → ∀ e ∈ d.requests, isSurfaceRequest e.type = true →
    d.forwarded.count e = 1
  final : d.started = true → d.pending = none →
    Channel.executeAll d.forwarded = Channel.executeAll d.requests

end Dialogue

/-- A request about a surface does not arrive while one of its kind runs; one to append a
surface overtakes none to remove it; one to play overtakes none to stop, and one to stop
that is dropped is not behind one to play. -/
def InTurn (a : Agent) : EventType → Prop
  | .channelAppendSurface surface _ => ¬ (a.runningStatus = .running ∧ a.runStep = .appendSurface) ∧
      ∀ p ∈ a.runEvents.toList, p.2.1.type ≠ .channelRemoveSurface surface
  | .channelRemoveSurface _ => ¬ (a.runningStatus = .running ∧ a.runStep = .removeSurface)
  | .playStart => ∀ p ∈ a.runEvents.toList, p.2.1.type ≠ .playStop
  | .playStop => a.runningStatus = .running ∧ a.runStep = .playStop →
      ∀ p ∈ a.runEvents.toList, p.2.1.type ≠ .playStart
  | _ => True

def Dialogue.InTurn (d : Dialogue) : Dialogue.Move → Prop
  | .request e => d.agent.InTurn e.type
  | _ => True

namespace Channel

variable {c : Channel} {e e' : Event}

/-- Two requests whose order matters. -/
def Conflict : EventType → EventType → Prop
  | .channelAppendSurface surface _, .channelRemoveSurface surfaceId => surface = surfaceId
  | .channelRemoveSurface surfaceId, .channelAppendSurface surface _ => surface = surfaceId
  | .playStart, .playStop => True
  | .playStop, .playStart => True
  | _, _ => False

theorem execute_comm (h : ¬ Conflict e.type e'.type) :
    (c.execute e).execute e' = (c.execute e').execute e := by
  obtain ⟨type, requestId, errorCode⟩ := e
  obtain ⟨type', requestId', errorCode'⟩ := e'
  cases type with
  | channelAppendSurface surface sceneType =>
    cases type' with
    | channelAppendSurface => simp only [execute, Finset.insert_comm]
    | channelRemoveSurface => simp only [execute, Finset.erase_insert_of_ne h]
    | _ => rfl
  | channelRemoveSurface surfaceId =>
    cases type' with
    | channelAppendSurface => simp only [execute, Finset.erase_insert_of_ne h]
    | channelRemoveSurface => simp only [execute, Finset.erase_right_comm]
    | _ => rfl
  | playStart =>
    cases type' with
    | playStop => exact absurd trivial h
    | _ => rfl
  | playStop =>
    cases type' with
    | playStart => exact absurd trivial h
    | _ => rfl
  | _ => rfl

theorem foldl_comm {events : List Event} (h : ∀ e' ∈ events, ¬ Conflict e.type e'.type) :
    events.foldl execute (c.execute e) = (events.foldl execute c).execute e := by
  induction events generalizing c with
  | nil => rfl
  | cons e' events ih =>
    rw [List.foldl_cons, List.foldl_cons, execute_comm (h e' List.mem_cons_self)]
    exact ih fun e'' he'' => h e'' (List.mem_cons_of_mem e' he'')

/-- What plays goes on, as long as nothing stops it. -/
theorem foldl_playing {events : List Event} (h : ∀ e ∈ events, e.type ≠ .playStop)
    (hc : c.playing = true ∨ ∃ e ∈ events, e.type = .playStart) :
    (events.foldl execute c).playing = true := by
  induction events generalizing c with
  | nil => simpa using hc
  | cons e events ih =>
    apply ih (fun e' he' => h e' (List.mem_cons_of_mem e he'))
    obtain ⟨type, requestId, errorCode⟩ := e
    have hne := h _ List.mem_cons_self
    rcases hc with hc | ⟨e', he', htype⟩
    · left
      cases type <;> first | exact hc | rfl | exact absurd rfl hne
    · rcases List.mem_cons.mp he' with rfl | he'
      · left
        obtain rfl : type = .playStart := htype
        rfl
      · exact Or.inr ⟨e', he', htype⟩

theorem foldl_stopped {events : List Event} (h : ∀ e ∈ events, e.type ≠ .playStart)
    (hc : c.playing = false) : (events.foldl execute c).playing = false := by
  induction events generalizing c with
  | nil => exact hc
  | cons e events ih =>
    apply ih (fun e' he' => h e' (List.mem_cons_of_mem e he'))
    obtain ⟨type, requestId, errorCode⟩ := e
    have hne := h _ List.mem_cons_self
    cases type <;> first | exact hc | rfl | exact absurd rfl hne

theorem execute_playStart (he : e.type = .playStart) (hc : c.playing = true) : c.execute e = c := by
  rw [execute, he]
  cases c
  cases hc
  rfl

theorem execute_playStop (he : e.type = .playStop) (hc : c.playing = false) : c.execute e = c := by
  rw [execute, he]
  cases c
  cases hc
  rfl

end Channel

section Requests

variable {a : Agent} {e e' : Event}

theorem getRunStep_of_channelRequest (he : isChannelRequest e.type = true) :
    getRunStep e.type ≠ .idle ∧ getRunStep e.type ≠ .start ∧ getRunStep e.type ≠ .destroy ∧
      isProsumerError e.type = false ∧ 5 ≤ (getRunStep e.type).value := by
  cases htype : e.type <;> rw [htype] at he <;>
    first
      | exact ⟨AgentRunStep.noConfusion, AgentRunStep.noConfusion, AgentRunStep.noConfusion, rfl,
          Nat.le_of_ble_eq_true rfl⟩
      | cases he

theorem channelRequest_forward (he : isChannelRequest e.type = true) :
    (a.forward e).filterMap channelRequest = [e] := by
  obtain ⟨type, requestId, errorCode⟩ := e
  cases type <;> first | rfl | cases he

/-- Of two requests for the channel the one of the smaller step is taken first. -/
theorem value_le_of_lt (he : isChannelRequest e.type = true) (he' : isChannelRequest e'.type = true)
    (h : runStepKey e < runStepKey e') : (getRunStep e.type).value ≤ (getRunStep e'.type).value := by
  have hid := e.requestId.isLt
  have hid' := e'.requestId.isLt
  have hweight : ∀ e : Event, isChannelRequest e.type = true →
      (getRunStepWeight (getRunStep e.type)).value = 1 := by
    intro e he
    cases htype : e.type <;> rw [htype] at he <;> first | rfl | cases he
  rw [AgentRunStepKey.lt_iff_rank, AgentRunStepKey.rank, AgentRunStepKey.rank] at h
  simp only [runStepKey, hweight e he, hweight e' he'] at h
  omega

/-- A request that is taken behind another one does not conflict with it, when it arrives in
turn. -/
theorem InTurn.not_conflict (h : a.InTurn e.type) (he : isChannelRequest e.type = true)
    {p : AgentRunStepKey × StepEvent} (hp : p ∈ a.runEvents) (hkey : p.1 = runStepKey p.2.1)
    (hkind : isChannelRequest p.2.1.type = true) (hlt : runStepKey e < p.1) :
    ¬ Channel.Conflict e.type p.2.1.type := by
  rw [hkey] at hlt
  have hle := value_le_of_lt he hkind hlt
  intro hconflict
  cases htype : e.type with
  | channelAppendSurface surface sceneType =>
    rw [htype] at h hconflict
    cases htype' : p.2.1.type with
    | channelRemoveSurface surfaceId =>
      rw [htype'] at hconflict
      obtain rfl : surface = surfaceId := hconflict
      exact h.2 p hp htype'
    | _ =>
      rw [htype'] at hconflict
      exact hconflict
  | channelRemoveSurface surfaceId =>
    rw [htype] at hle hconflict
    cases htype' : p.2.1.type with
    | channelAppendSurface surface sceneType =>
      rw [htype'] at hle
      exact absurd (show 6 ≤ 5 from hle) (by decide)
    | _ =>
      rw [htype'] at hconflict
      exact hconflict
  | playStart =>
    rw [htype] at h hconflict
    cases htype' : p.2.1.type with
    | playStop => exact h p hp htype'
    | _ =>
      rw [htype'] at hconflict
      exact hconflict
  | playStop =>
    rw [htype] at hle hconflict
    cases htype' : p.2.1.type with
    | playStart =>
      rw [htype'] at hle
      exact absurd hle (by decide)
    | _ =>
      rw [htype'] at hconflict
      exact hconflict
  | _ =>
    rw [htype] at hconflict
    exact hconflict

end Requests

namespace Dialogue

variable {d d' : Dialogue} {e : Event}

/-- What the agent keeps, in the order in which it is taken. -/
def kept (d : Dialogue) : List Event := d.agent.runEvents.toList.map fun p => p.2.1

def surfaceRequests (events : List Event) : List Event := events.filter fun e => isSurfaceRequest e.type

/-- Where the agent stands between the requests and the answers. -/
inductive Phase (d : Dialogue) : Prop where
  | fresh (hstarted : d.started = false) (hpending : d.pending = none)
      (hstep : d.agent.runStep = .create) (hstatus : d.agent.runningStatus = .done)
  | starting (e : Event) (hstarted : d.started = true) (hpending : d.pending = some e)
      (he : e.type = .start) (hstep : d.agent.runStep = .start)
      (hstatus : d.agent.runningStatus = .running)
  | running (before : List Event) (e : Event) (hstarted : d.started = true)
      (hpending : d.pending = some e) (he : isChannelRequest e.type = true)
      (hforwarded : d.forwarded = before ++ [e]) (hstep : d.agent.runStep = getRunStep e.type)
      (hstatus : d.agent.runningStatus = .running)
  | settled (hstarted : d.started = true) (hpending : d.pending = none)
      (hstep : 2 ≤ d.agent.runStep.value ∧ d.agent.runStep ≠ .destroy)
      (hstatus : d.agent.runningStatus = .done) (hempty : d.agent.runEvents.toList = [])

/-- The invariant of a run: what was forwarded and then what is kept does the same as what
has arrived. -/
structure Kept (d : Dialogue) : Prop where
  created : d.agent.Created
  kinds : ∀ p ∈ d.agent.runEvents, isChannelRequest p.2.1.type = true
  phase : d.Phase
  surfaces : (surfaceRequests (d.forwarded ++ d.kept)).Perm (surfaceRequests d.requests)
  nodup : (surfaceRequests d.requests).Nodup
  order : Channel.executeAll (d.forwarded ++ d.kept) = Channel.executeAll d.requests

theorem mem_kept {p : AgentRunStepKey × StepEvent} (hp : p ∈ d.agent.runEvents) : p.2.1 ∈ d.kept :=
  List.mem_map_of_mem hp

theorem mem_of_mem_kept (h : e ∈ d.kept) : ∃ p ∈ d.agent.runEvents, p.2.1 = e := by
  obtain ⟨p, hp, rfl⟩ := List.mem_map.mp h
  exact ⟨p, hp, rfl⟩

/-- A request about a surface that is kept has arrived. -/
theorem Kept.known (hd : d.Kept) {p : AgentRunStepKey × StepEvent} (hp : p ∈ d.agent.runEvents)
    (hsurface : isSurfaceRequest p.2.1.type = true) : p.2.1 ∈ d.requests := by
  have hmem : p.2.1 ∈ surfaceRequests (d.forwarded ++ d.kept) :=
    List.mem_filter.mpr ⟨List.mem_append_right _ (mem_kept hp), hsurface⟩
  exact (List.mem_filter.mp (hd.surfaces.mem_iff.mp hmem)).1

theorem isSurfaceRequest_congr {e e' : Event} (h : getRunStep e.type = getRunStep e'.type) :
    isSurfaceRequest e.type = isSurfaceRequest e'.type := by
  cases htype : e.type <;> cases htype' : e'.type <;> rw [htype, htype'] at h <;>
    first | rfl | cases h

theorem type_of_step {type : EventType} : (getRunStep type = .play → type = .playStart) ∧
    (getRunStep type = .playStop → type = .playStop) := by
  cases type <;> exact ⟨by first | exact fun _ => rfl | exact AgentRunStep.noConfusion,
    by first | exact fun _ => rfl | exact AgentRunStep.noConfusion⟩

end Dialogue

end Agent

end WifiDisplay
