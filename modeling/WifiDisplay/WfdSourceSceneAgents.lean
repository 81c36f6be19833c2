import WifiDisplay.GuardedRuns
import WifiDisplay.WfdSourceScene

/-! The scene records its agents until it has one destroyed: it never forgets the ids of the
sink that it let go. -/

namespace WifiDisplay

/-- The agents that the scene has the ids of. -/
def WfdSourceScene.recorded (s : WfdSourceScene) : List (AgentType × Nat × Nat) :=
  (if s.agentId = invalidId then [] else [(.sink, s.contextId, s.agentId)]) ++
    match s.connDev with
    | none => []
    | some dev => if dev.agentId = invalidId then [] else [(.src, dev.contextId, dev.agentId)]

namespace SceneAgent

def entry (a : SceneAgent) : AgentType × Nat × Nat := (a.agentType, a.contextId, a.agentId)

def live (agents : List SceneAgent) : List SceneAgent := agents.filter fun a => !a.asked

def setMac (contextId agentId : Nat) (mac : Text) (a : SceneAgent) : SceneAgent :=
  if a.hasIds contextId agentId then { a with mac := some mac } else a

variable {agents : List SceneAgent} {a : SceneAgent} {contextId agentId : Nat} {mac : Text}

theorem hasIds_iff : a.hasIds contextId agentId ↔ a.contextId = contextId ∧ a.agentId = agentId := by
  simp [hasIds]

@[simp] theorem setMac_entry : (a.setMac contextId agentId mac).entry = a.entry := by
  unfold setMac
  split <;> rfl

@[simp] theorem setMac_agentId : (a.setMac contextId agentId mac).agentId = a.agentId := by
  unfold setMac
  split <;> rfl

@[simp] theorem setMac_asked : (a.setMac contextId agentId mac).asked = a.asked := by
  unfold setMac
  split <;> rfl

theorem mem_live : a ∈ live agents ↔ a ∈ agents ∧ a.asked = false := by
  simp [live]

theorem live_append (agents' : List SceneAgent) :
    live (agents ++ agents') = live agents ++ live agents' := List.filter_append ..

theorem live_map_setMac : (live (agents.map (setMac contextId agentId mac))).map entry =
    (live agents).map entry := by
  simp [live, List.filter_map, Function.comp_def]

/-- No agent is there with the ids of one that was asked to go. -/
theorem not_hasIds_of_mem_live_destroy (ha : a ∈ live (destroy contextId agentId agents)) :
    ¬ a.hasIds contextId agentId := by
  obtain ⟨hmem, hasked⟩ := mem_live.mp ha
  obtain ⟨b, -, rfl⟩ := List.mem_map.mp hmem
  simp only [Bool.or_eq_false_iff] at hasked
  exact Bool.eq_false_iff.mp hasked.1.2

theorem destroy_of_forall_ne (h : ∀ a ∈ agents, a.agentId ≠ agentId) :
    destroy contextId agentId agents = agents := by
  have hids : ∀ a ∈ agents, a.hasIds contextId agentId = false := by
    intro a ha
    simp [hasIds, h a ha]
  have hsink : (agents.any fun a => a.hasIds contextId agentId && a.agentType = .sink) = false := by
    rw [List.any_eq_false]
    intro a ha
    simp [hids a ha]
  unfold destroy
  conv_rhs => rw [← List.map_id agents]
  refine List.map_congr_left fun a ha => ?_
  simp only [hsink, hids a ha, Bool.false_and, Bool.or_false, id_eq]

theorem destroy_map_agentId : (destroy contextId agentId agents).map SceneAgent.agentId =
    agents.map SceneAgent.agentId := by
  simp [destroy, Function.comp_def]

end SceneAgent

namespace SourceHistory

variable (h : SourceHistory)

def live : List SceneAgent := SceneAgent.live h.agents

/-- One device at most is cast to, the scene has the ids of the agents that are not asked to go
and of no others, and it asks no agent twice. -/
structure Conserved : Prop where
  oneDevice : ∀ a ∈ h.live, ∀ b ∈ h.live, a.agentType = .src → b.agentType = .src → a.mac = b.mac
  recorded : ∀ e, e ∈ h.live.map SceneAgent.entry ↔ e ∈ h.scene.recorded
  destroyedOnce : ∀ agentId, agentId ≠ invalidId → h.destroyed.count agentId ≤ 1

/-- The device that the call takes away, if the scene has it. -/
def lostDevice : SourceCall → Option Text
  | .removeDevice mac | .rtspTeardown mac => if h.scene.isConnected mac then some mac else none
  | .p2pThisDeviceChanged true => h.scene.connDev.map ConnectionInfo.mac
  | _ => none

/-- A device that is taken away leaves no agent that is not asked to go, and may come again. -/
structure Kept (call : SourceCall) : Prop where
  conserved : (h.step call).Conserved
  lost : ∀ mac ∈ h.lostDevice call,
    (h.step call).live = [] ∧ (h.step call).scene.isConnected mac = false

/-- The agents that the answers make have identifiers that were not given before, in contexts. -/
def Possible : SourceCall → Prop
  | .p2pConnectionChanged _ _ answers =>
    let made := answers.sink.made.toList ++ answers.source.made.toList
    (h.key :: made.map Prod.snd).Pairwise (· < ·) ∧ ∀ ids ∈ made, ids.1 ≠ invalidId
  | _ => True

/-- The scene hears of a group whose owner it is not connected with. -/
def Joins (connected : Bool) (owner : GroupOwner) : Prop :=
  connected ∧ owner.ip ≠ [] ∧ h.scene.isSourceRunning ∧ ¬ h.scene.isConnected owner.mac

/-- The request for the source, if there is one, is answered in time. -/
def SourceInTime (answers : CastAnswers) : Prop :=
  answers.port ≠ 0 → answers.source.inTime

/-- The scene has no agent destroyed and learns of none that is, is not asked to remove a device
that plays, and connects with no second device as long as it has agents, with answers in time. -/
def Undisturbed : SourceCall → Prop
  | .removeDevice mac => ∀ dev ∈ h.scene.connDev, dev.mac = mac →
      h.scene.agentId = invalidId ∧ dev.state = .connected
  | .rtspTeardown mac => h.scene.isConnected mac → h.scene.agentId = invalidId
  | .p2pThisDeviceChanged disconnected =>
    disconnected → h.scene.connDev ≠ none → h.scene.agentId = invalidId
  | .destroyScreenCapture => h.scene.agentId = invalidId
  | .p2pStateChanged state =>
    state = .closed → h.scene.isSourceRunning → h.scene.agentId = invalidId
  | .agentDestroyed contextId agentId => ∀ e ∈ h.scene.recorded, e.2 ≠ (contextId, agentId)
  | .p2pConnectionChanged connected owner answers => h.Joins connected owner →
      match answers.sink with
      | .created _ _ => h.scene.agentId = invalidId ∧ SourceInTime answers
      | .refused _ => h.scene.agentId = invalidId
      | .timedOut (some _) => False
      | .timedOut none => h.scene.agentId ≠ invalidId →
          (∀ dev ∈ h.scene.connDev, dev.agentId = invalidId) ∧ SourceInTime answers
  | _ => True

instance (call : SourceCall) : Decidable (h.Possible call) := by
  unfold Possible
  split <;> infer_instance

instance (connected : Bool) (owner : GroupOwner) : Decidable (h.Joins connected owner) := by
  unfold Joins
  infer_instance

instance (answers : CastAnswers) : Decidable (SourceInTime answers) := by
  unfold SourceInTime
  infer_instance

instance (call : SourceCall) : Decidable (h.Undisturbed call) := by
  unfold Undisturbed
  split
  case h_7 => split <;> infer_instance
  all_goals infer_instance

/-- The agents that are not gone have identifiers of their own, none of them above `key`. -/
structure Registered : Prop where
  nodup : (h.agents.map SceneAgent.agentId).Nodup
  le_key : ∀ a ∈ h.agents, a.agentId ≠ invalidId ∧ a.agentId ≤ h.key

/-- What holds whatever becomes of the agents. -/
structure Sound : Prop extends Registered h where
  sharingAdapter : h.scene.sharingAdapter = true
  ipcAdapter : h.scene.ipcAdapter = true
  p2pInstance : h.scene.p2pInstance = true
  sink_le_key : h.scene.agentId ≤ h.key
  context : h.scene.agentId ≠ invalidId → h.scene.contextId ≠ invalidId
  sink_of_source : ∀ dev ∈ h.scene.connDev, dev.agentId ≠ invalidId → h.scene.agentId ≠ invalidId

variable {h} {call : SourceCall} {s : WfdSourceScene}

theorem Sound.init : Sound {} where
  nodup := List.nodup_nil
  le_key := nofun
  sharingAdapter := rfl
  ipcAdapter := rfl
  p2pInstance := rfl
  sink_le_key := le_refl _
  context := nofun
  sink_of_source := nofun

theorem Conserved.init : Conserved {} where
  oneDevice := nofun
  recorded := by simp [live, SceneAgent.live, WfdSourceScene.recorded]
  destroyedOnce := by simp

/-- Two agents with one identifier are one agent. -/
theorem Registered.eq_of_agentId (hr : h.Registered) {a b : SceneAgent} (ha : a ∈ h.agents)
    (hb : b ∈ h.agents) (heq : a.agentId = b.agentId) : a = b :=
  List.inj_on_of_nodup_map hr.nodup ha hb heq

theorem mem_agents_of_mem_live {a : SceneAgent} (ha : a ∈ h.live) : a ∈ h.agents :=
  (SceneAgent.mem_live.mp ha).1

/-- The records decide which device is cast to. -/
theorem Conserved.of_recorded (hr : h.Registered)
    (hrec : ∀ e, e ∈ h.live.map SceneAgent.entry ↔ e ∈ h.scene.recorded)
    (hone : ∀ agentId, agentId ≠ invalidId → h.destroyed.count agentId ≤ 1) : h.Conserved where
  recorded := hrec
  destroyedOnce := hone
  oneDevice a ha b hb hasrc hbsrc := by
    have hsource : ∀ x ∈ h.live, x.agentType = .src →
        ∃ dev ∈ h.scene.connDev, x.agentId = dev.agentId := by
      intro x hx hsrc
      have hmem := (hrec x.entry).mp (List.mem_map_of_mem hx)
      rw [WfdSourceScene.recorded, List.mem_append] at hmem
      rcases hmem with hmem | hmem
      · split at hmem
        · cases hmem
        · cases (hsrc.symm.trans (congrArg Prod.fst (List.mem_singleton.mp hmem)))
      · split at hmem
        · cases hmem
        · rename_i dev hdev
          split at hmem
          · cases hmem
          · exact ⟨dev, hdev, congrArg (fun e => e.2.2) (List.mem_singleton.mp hmem)⟩
    obtain ⟨dev, hdev, hadev⟩ := hsource a ha hasrc
    obtain ⟨dev', hdev', hbdev⟩ := hsource b hb hbsrc
    rw [Option.mem_def] at hdev hdev'
    rw [hdev] at hdev'
    cases hdev'
    rw [hr.eq_of_agentId (mem_agents_of_mem_live ha) (mem_agents_of_mem_live hb)
      (hadev.trans hbdev.symm)]

theorem mem_recorded_sink (hsink : h.scene.agentId ≠ invalidId) :
    (AgentType.sink, h.scene.contextId, h.scene.agentId) ∈ h.scene.recorded := by
  simp [WfdSourceScene.recorded, hsink]

theorem Sound.recorded_eq_nil (hs : h.Sound) (hsink : h.scene.agentId = invalidId) :
    h.scene.recorded = [] := by
  unfold WfdSourceScene.recorded
  rw [if_pos hsink, List.nil_append]
  split
  · rfl
  · rename_i dev hdev
    exact if_pos (not_not.mp fun hne => hs.sink_of_source dev hdev hne hsink)

theorem Conserved.live_eq_nil (hc : h.Conserved) (hrec : h.scene.recorded = []) : h.live = [] := by
  refine List.eq_nil_iff_forall_not_mem.mpr fun a ha => ?_
  have hmem := (hc.recorded a.entry).mp (List.mem_map_of_mem ha)
  rw [hrec] at hmem
  cases hmem

/-- The scene keeps the ids of its sink, and its device unless it drops it. -/
structure Follows (s' s : WfdSourceScene) : Prop where
  sharingAdapter : s'.sharingAdapter = s.sharingAdapter
  ipcAdapter : s'.ipcAdapter = s.ipcAdapter
  p2pInstance : s'.p2pInstance = s.p2pInstance
  agentId : s'.agentId = s.agentId
  contextId : s'.contextId = s.contextId
  connDev : ∀ dev' ∈ s'.connDev, ∃ dev ∈ s.connDev, dev'.agentId = dev.agentId

theorem Sound.follows (hs : h.Sound) (hf : Follows s h.scene) {agents : List SceneAgent}
    {destroyed : List Nat}
    (hr : Registered ⟨s, agents, destroyed, h.key⟩) : Sound ⟨s, agents, destroyed, h.key⟩ where
  toRegistered := hr
  sharingAdapter := hf.sharingAdapter.trans hs.sharingAdapter
  ipcAdapter := hf.ipcAdapter.trans hs.ipcAdapter
  p2pInstance := hf.p2pInstance.trans hs.p2pInstance
  sink_le_key := hf.agentId.trans_le hs.sink_le_key
  context := by
    intro hne
    rw [hf.agentId] at hne
    exact hf.contextId.trans_ne (hs.context hne)
  sink_of_source := by
    intro dev' hdev' hne
    obtain ⟨dev, hdev, heq⟩ := hf.connDev dev' hdev'
    exact hf.agentId.trans_ne (hs.sink_of_source dev hdev (heq.symm.trans_ne hne))

theorem Registered.destroy (hr : h.Registered) (contextId agentId : Nat) (destroyed : List Nat) :
    Registered ⟨s, SceneAgent.destroy contextId agentId h.agents, destroyed, h.key⟩ where
  nodup := by
    change (List.map _ (SceneAgent.destroy contextId agentId h.agents)).Nodup
    rw [SceneAgent.destroy_map_agentId]
    exact hr.nodup
  le_key a ha := by
    obtain ⟨b, hb, rfl⟩ := List.mem_map.mp ha
    exact hr.le_key b hb

/-- The scene drops its device, if it does, and has its sink destroyed. -/
def loseSink (h : SourceHistory) (s : WfdSourceScene) : SourceHistory where
  scene := s
  agents := SceneAgent.destroy s.contextId s.agentId h.agents
  destroyed := h.destroyed ++ [s.agentId]
  key := h.key

theorem Sound.loseSink (hs : h.Sound) (hf : Follows s h.scene) : (h.loseSink s).Sound :=
  hs.follows hf (hs.destroy ..)

/-- The ids of the sink stay in the scene. -/
theorem conserved_loseSink_iff (hs : h.Sound) (hc : h.Conserved) (hf : Follows s h.scene) :
    (h.loseSink s).Conserved ↔ h.scene.agentId = invalidId := by
  constructor
  · intro hc'
    by_contra hne
    have hmem : (AgentType.sink, s.contextId, s.agentId) ∈ (h.loseSink s).live.map SceneAgent.entry :=
      (hc'.recorded _).mpr (mem_recorded_sink (h := h.loseSink s) (hf.agentId.trans_ne hne))
    obtain ⟨a, ha, heq⟩ := List.mem_map.mp hmem
    refine SceneAgent.not_hasIds_of_mem_live_destroy ha (SceneAgent.hasIds_iff.mpr ?_)
    exact ⟨congrArg (fun e => e.2.1) heq, congrArg (fun e => e.2.2) heq⟩
  · intro hsink
    have hid : s.agentId = invalidId := hf.agentId.trans hsink
    have hsame : (h.loseSink s).agents = h.agents :=
      SceneAgent.destroy_of_forall_ne fun a ha => by
        rw [hid]
        exact (hs.le_key a ha).1
    have hrec : (h.loseSink s).scene.recorded = [] := (hs.loseSink hf).recorded_eq_nil hid
    refine Conserved.of_recorded (hs.loseSink hf).toRegistered ?_ ?_
    · rw [live, hsame, hrec, ← hs.recorded_eq_nil hsink]
      exact hc.recorded
    · intro agentId hne
      change (h.destroyed ++ [s.agentId]).count agentId ≤ 1
      rw [List.count_append, hid, List.count_singleton, if_neg (by simpa using Ne.symm hne)]
      exact hc.destroyedOnce agentId hne

/-- With no sink there is nothing to have destroyed. -/
theorem conserved_drop (hs : h.Sound) (hc : h.Conserved) (hf : Follows s h.scene)
    (hsink : h.scene.agentId = invalidId) : Conserved { h with scene := s } := by
  have hs' : Sound { h with scene := s } := hs.follows hf ⟨hs.nodup, hs.le_key⟩
  refine Conserved.of_recorded hs'.toRegistered ?_ hc.destroyedOnce
  change ∀ e, e ∈ h.live.map SceneAgent.entry ↔ e ∈ s.recorded
  rw [hs'.recorded_eq_nil (hf.agentId.trans hsink), ← hs.recorded_eq_nil hsink]
  exact hc.recorded

theorem conserved_rename (hs : h.Sound) (hc : h.Conserved) (hf : Follows s h.scene)
    (hrec : s.recorded = h.scene.recorded) : Conserved { h with scene := s } := by
  have hs' : Sound { h with scene := s } := hs.follows hf ⟨hs.nodup, hs.le_key⟩
  refine Conserved.of_recorded hs'.toRegistered ?_ hc.destroyedOnce
  change ∀ e, e ∈ h.live.map SceneAgent.entry ↔ e ∈ s.recorded
  rw [hrec]
  exact hc.recorded

end SourceHistory

/-- An action that no agent hears of. -/
def SourceAction.isIdle : SourceAction → Bool
  | createAgent .. | initCast .. | destroyAgent .. => false
  | _ => true

namespace SourceHistory

variable {h : SourceHistory} {s : WfdSourceScene} {ρ : Type} {result : SourceResult ρ}

theorem perform_of_isIdle {action : SourceAction} (hidle : action.isIdle) :
    h.perform action = h := by
  cases action with
  | createAgent | initCast | destroyAgent => cases hidle
  | _ => rfl

theorem foldl_perform_of_isIdle {actions : List SourceAction} (hidle : actions.all (·.isIdle)) :
    actions.foldl perform h = h := by
  induction actions with
  | nil => rfl
  | cons action actions ih =>
    rw [List.all_cons, Bool.and_eq_true] at hidle
    rw [List.foldl_cons, perform_of_isIdle hidle.1, ih hidle.2]

theorem after_of_isIdle (hidle : result.actions.all (·.isIdle)) :
    h.after result = { h with scene := result.scene } := foldl_perform_of_isIdle hidle

/-- The only action that an agent hears of is that the sink is to be destroyed. -/
theorem after_loseSink (before behind : List SourceAction)
    (hactions : result.actions =
      before ++ [.destroyAgent result.scene.contextId result.scene.agentId] ++ behind)
    (hbefore : before.all (·.isIdle)) (hbehind : behind.all (·.isIdle)) :
    h.after result = h.loseSink result.scene := by
  rw [after, hactions, List.foldl_append, List.foldl_append, foldl_perform_of_isIdle hbefore,
    foldl_perform_of_isIdle hbehind]
  rfl

theorem Follows.refl : Follows s s := ⟨rfl, rfl, rfl, rfl, rfl, fun dev hdev => ⟨dev, hdev, rfl⟩⟩

theorem Follows.drop : Follows { s with connDev := none } s := ⟨rfl, rfl, rfl, rfl, rfl, nofun⟩

theorem isIdle_ipc {action : SourceAction} (hidle : action.isIdle) :
    (s.ipc action).all (·.isIdle) := by
  unfold WfdSourceScene.ipc
  split
  · simpa using hidle
  · rfl

theorem isIdle_p2p {action : SourceAction} (hidle : action.isIdle) :
    (s.p2p action).all (·.isIdle) := by
  unfold WfdSourceScene.p2p
  split
  · simpa using hidle
  · rfl

theorem isConnected_iff {mac : Text} :
    s.isConnected mac ↔ ∃ dev, s.connDev = some dev ∧ dev.mac = mac := by
  simp [WfdSourceScene.isConnected, Option.any_eq_true]

theorem disconnect_of_not {mac : Text} (hnot : ¬ h.scene.isConnected mac) :
    h.after (h.scene.onP2pPeerDisconnected mac) = h := by
  unfold WfdSourceScene.onP2pPeerDisconnected
  split
  · rfl
  · rename_i dev hdev
    rw [if_pos fun hmac => hnot (isConnected_iff.mpr ⟨dev, hdev, hmac⟩)]
    rfl

theorem disconnect_of_noSink {mac : Text} (hmac : h.scene.isConnected mac)
    (hsink : h.scene.agentId = invalidId) :
    h.after (h.scene.onP2pPeerDisconnected mac) =
      { h with scene := { h.scene with connDev := none } } := by
  obtain ⟨dev, hdev, rfl⟩ := isConnected_iff.mp hmac
  unfold WfdSourceScene.onP2pPeerDisconnected
  rw [hdev]
  simp only [ne_eq, not_true_eq_false, if_false, hsink, or_true, if_true]
  exact after_of_isIdle (isIdle_ipc rfl)

theorem Sound.disconnect_of_sink (hs : h.Sound) {mac : Text} (hmac : h.scene.isConnected mac)
    (hsink : h.scene.agentId ≠ invalidId) :
    h.after (h.scene.onP2pPeerDisconnected mac) =
      h.loseSink { h.scene with connDev := none } := by
  obtain ⟨dev, hdev, rfl⟩ := isConnected_iff.mp hmac
  unfold WfdSourceScene.onP2pPeerDisconnected
  rw [hdev]
  simp only [ne_eq, not_true_eq_false, if_false, hsink, hs.context hsink, or_false,
    hs.sharingAdapter, if_true]
  exact after_loseSink _ _ rfl (isIdle_ipc rfl) (isIdle_p2p rfl)

/-- What takes the device away: whether it takes the agents along decides. -/
theorem Sound.disconnect (hs : h.Sound) (hc : h.Conserved) {mac : Text}
    (hmac : h.scene.isConnected mac) :
    (h.after (h.scene.onP2pPeerDisconnected mac)).Sound ∧
      ((h.after (h.scene.onP2pPeerDisconnected mac)).Conserved ↔ h.scene.agentId = invalidId) ∧
      (h.scene.agentId = invalidId →
        (h.after (h.scene.onP2pPeerDisconnected mac)).live = [] ∧
          (h.after (h.scene.onP2pPeerDisconnected mac)).scene.isConnected mac = false) := by
  by_cases hsink : h.scene.agentId = invalidId
  · rw [disconnect_of_noSink hmac hsink]
    refine ⟨hs.follows Follows.drop ⟨hs.nodup, hs.le_key⟩, ?_, fun _ => ⟨?_, rfl⟩⟩
    · exact iff_of_true (conserved_drop hs hc Follows.drop hsink) hsink
    · exact hc.live_eq_nil (hs.recorded_eq_nil hsink)
  · rw [hs.disconnect_of_sink hmac hsink]
    exact ⟨hs.loseSink Follows.drop, conserved_loseSink_iff hs hc Follows.drop,
      fun hno => absurd hno hsink⟩

end SourceHistory

end WifiDisplay
