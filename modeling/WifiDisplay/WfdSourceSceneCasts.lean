import WifiDisplay.WfdSourceSceneAgents

/-! A device joins: which answers to the requests for its agents leave the scene with records of
all of them. -/

namespace WifiDisplay

namespace SourceHistory

variable {h : SourceHistory} {owner : GroupOwner} {answers : CastAnswers}

/-- The scene when the device is recorded and no agent is asked for. -/
def joined (h : SourceHistory) (owner : GroupOwner) : WfdSourceScene :=
  { h.scene with connDev := some owner.connectionInfo }

theorem Sound.step_joins (hs : h.Sound) {connected : Bool} (hjoins : h.Joins connected owner) :
    h.step (.p2pConnectionChanged connected owner answers) =
      h.after ((h.joined owner).startCast owner.mac answers) := by
  obtain ⟨rfl, hip, hrunning, hnew⟩ := hjoins
  have hcast : (h.scene.onP2pConnectionChanged true owner answers) =
      ⟨((h.joined owner).startCast owner.mac answers).scene,
        .connectionChanged owner.connectionInfo ::
          ((h.joined owner).startCast owner.mac answers).actions, ()⟩ := by
    rw [WfdSourceScene.onP2pConnectionChanged, if_neg (by simp [hs.p2pInstance, hip]),
      WfdSourceScene.onP2pPeerConnected, if_neg (by simp [hrunning]),
      if_neg (by simp [hs.sharingAdapter]),
      if_neg (show ¬ h.scene.isConnected owner.connectionInfo.mac = true from hnew),
      WfdSourceScene.onConnectionChanged,
      if_neg (by simp [hs.ipcAdapter])]
    rfl
  rw [step, hcast]
  rfl

theorem step_not_joins {connected : Bool} (hs : h.Sound) (hnot : ¬ h.Joins connected owner) :
    h.step (.p2pConnectionChanged connected owner answers) = h := by
  rw [step]
  unfold WfdSourceScene.onP2pConnectionChanged
  split
  · rfl
  · rename_i hgo
    unfold WfdSourceScene.onP2pPeerConnected
    split
    · rfl
    · rename_i hrunning
      rw [if_neg (by simp [hs.sharingAdapter])]
      split
      · rfl
      · rename_i hnew
        simp only [hs.p2pInstance, Bool.not_true, Bool.false_eq_true, Bool.not_eq_true',
          false_or, not_or, Bool.not_eq_false] at hgo hrunning
        exact absurd ⟨hgo.1, hgo.2, hrunning, hnew⟩ hnot

/-- There is an agent that is not asked to go and that the scene has not the ids of. -/
def Leaks (h : SourceHistory) : Prop := ∃ a ∈ h.live, a.entry ∉ h.scene.recorded

theorem Leaks.not_conserved (hleak : h.Leaks) : ¬ h.Conserved := by
  obtain ⟨a, ha, hrec⟩ := hleak
  exact fun hc => hrec ((hc.recorded a.entry).mp (List.mem_map_of_mem ha))

theorem perform_scene (action : SourceAction) (s : WfdSourceScene) :
    perform { h with scene := s } action = { h.perform action with scene := s } := by
  cases action with
  | createAgent agentType contextId sinkAgentId answer =>
    cases answer with
    | timedOut late => cases late <;> rfl
    | _ => rfl
  | _ => rfl

theorem foldl_perform_scene (actions : List SourceAction) (s : WfdSourceScene) :
    actions.foldl perform { h with scene := s } =
      { actions.foldl perform h with scene := s } := by
  induction actions generalizing h with
  | nil => rfl
  | cons action actions ih => rw [List.foldl_cons, perform_scene, ih, List.foldl_cons]

/-- A handler that goes on where another one ended. -/
theorem after_append {ρ ρ' : Type} (result : SourceResult ρ) (next : SourceResult ρ')
    {behind : List SourceAction} (hidle : behind.all (·.isIdle)) :
    h.after ⟨next.scene, result.actions ++ next.actions ++ behind, ()⟩ =
      (h.after result).after next := by
  unfold after
  rw [List.foldl_append, List.foldl_append, foldl_perform_of_isIdle hidle,
    foldl_perform_scene result.actions next.scene, foldl_perform_scene result.actions result.scene]

/-- The scene has a sink for the device, and is about to ask for the source. -/
structure Casting (h : SourceHistory) (info : ConnectionInfo) : Prop where
  sound : h.Sound
  connDev : h.scene.connDev = some info
  agentId : info.agentId = invalidId
  isRunning : info.isRunning = false
  sink : h.scene.agentId ≠ invalidId
  sinks : ∀ a ∈ h.agents, a.agentId = h.scene.agentId → a.agentType = .sink

section cast

variable {info : ConnectionInfo} {port : Nat}

/-- The history when the source is asked for and not made. -/
theorem Casting.cast_none (hk : h.Casting info) {answer : AgentAnswer}
    (hnone : port = 0 ∨ ∃ contextId, answer = .refused contextId) :
    h.after (h.scene.appendCast info.mac port answer) = h := by
  have hstart : h.scene.appendCast info.mac port answer =
      if port = 0 then ⟨h.scene, [], false⟩
      else ⟨h.scene, [.createAgent .src h.scene.contextId h.scene.agentId answer], false⟩ := by
    unfold WfdSourceScene.appendCast
    rw [if_neg (by simp [hk.sound.sharingAdapter]), hk.connDev]
    simp only [ne_eq, not_true_eq_false, if_false]
    split
    · rfl
    · rename_i hport
      obtain ⟨contextId, rfl⟩ := hnone.resolve_left hport
      have hid : (createAgent h.scene.contextId h.scene.agentId (.refused contextId)).2 =
          invalidId := rfl
      rw [if_pos (Or.inr hid)]
  rw [hstart]
  split
  · rfl
  · rename_i hport
    obtain ⟨contextId, rfl⟩ := hnone.resolve_left hport
    rfl

/-- The history when the source is believed to be made with these ids. -/
def believed (h : SourceHistory) (info : ConnectionInfo) (answer : AgentAnswer)
    (ids : Nat × Nat) : SourceHistory :=
  let made := h.perform (.createAgent .src h.scene.contextId h.scene.agentId answer)
  { made with
    scene := { h.scene with
      connDev := some { info with contextId := ids.1, agentId := ids.2, isRunning := true } }
    agents := made.agents.map (SceneAgent.setMac ids.1 ids.2 info.mac) }

theorem Casting.cast_believed (hk : h.Casting info) {answer : AgentAnswer} (hport : port ≠ 0)
    (hids : ¬ ((createAgent h.scene.contextId h.scene.agentId answer).1 = invalidId ∨
      (createAgent h.scene.contextId h.scene.agentId answer).2 = invalidId)) :
    h.after (h.scene.appendCast info.mac port answer) =
      h.believed info answer (createAgent h.scene.contextId h.scene.agentId answer) := by
  unfold WfdSourceScene.appendCast
  rw [if_neg (by simp [hk.sound.sharingAdapter]), hk.connDev]
  simp only [ne_eq, not_true_eq_false, if_false, hport, hids, hk.isRunning, Bool.false_eq_true]
  unfold after
  rw [foldl_perform_scene]
  rfl

theorem perform_of_made_none {agentType : AgentType} {contextId sinkAgentId : Nat}
    {answer : AgentAnswer} (hnone : answer.made = none) :
    h.perform (.createAgent agentType contextId sinkAgentId answer) = h := by
  simp only [perform, hnone]

theorem perform_of_made_some {agentType : AgentType} {contextId sinkAgentId : Nat}
    {answer : AgentAnswer} {ids : Nat × Nat} (hmade : answer.made = some ids) :
    h.perform (.createAgent agentType contextId sinkAgentId answer) =
      { h with agents := h.agents ++ [⟨agentType, ids.1, ids.2, sinkAgentId, none, false⟩]
               key := ids.2 } := by
  simp only [perform, hmade]

/-- A new agent may be registered. -/
theorem Registered.perform_createAgent (hr : h.Registered) (agentType : AgentType)
    (contextId sinkAgentId : Nat) {answer : AgentAnswer}
    (hfresh : ∀ ids ∈ answer.made, h.key < ids.2) :
    (h.perform (.createAgent agentType contextId sinkAgentId answer)).Registered ∧
      h.key ≤ (h.perform (.createAgent agentType contextId sinkAgentId answer)).key := by
  cases hmade : answer.made with
  | none =>
    rw [perform_of_made_none hmade]
    exact ⟨hr, le_refl _⟩
  | some ids =>
    have hlt : h.key < ids.2 := hfresh ids hmade
    rw [perform_of_made_some hmade]
    refine ⟨⟨?_, ?_⟩, hlt.le⟩
    · rw [List.map_append, List.nodup_append]
      refine ⟨hr.nodup, List.nodup_singleton _, ?_⟩
      rintro _ ha _ hb rfl
      obtain ⟨a, ha, heq⟩ := List.mem_map.mp ha
      have hle := (hr.le_key a ha).2
      have hid : a.agentId = ids.2 := heq.trans (List.mem_singleton.mp hb)
      omega
    · intro a ha
      rcases List.mem_append.mp ha with ha | ha
      · exact ⟨(hr.le_key a ha).1, (hr.le_key a ha).2.trans hlt.le⟩
      · rw [List.mem_singleton.mp ha]
        exact ⟨Nat.ne_of_gt (lt_of_le_of_lt (Nat.zero_le _) hlt), le_refl _⟩

theorem Registered.map_setMac (hr : h.Registered) (s : WfdSourceScene) (contextId agentId : Nat)
    (mac : Text) : Registered ⟨s, h.agents.map (SceneAgent.setMac contextId agentId mac),
      h.destroyed, h.key⟩ where
  nodup := by
    simpa [Function.comp_def] using hr.nodup
  le_key a ha := by
    obtain ⟨b, hb, rfl⟩ := List.mem_map.mp ha
    simpa using hr.le_key b hb

theorem Casting.sound_believed (hk : h.Casting info) {answer : AgentAnswer} {ids : Nat × Nat}
    (hfresh : ∀ ids ∈ answer.made, h.key < ids.2) : (h.believed info answer ids).Sound := by
  obtain ⟨hr, hle⟩ := hk.sound.toRegistered.perform_createAgent .src
    h.scene.contextId h.scene.agentId hfresh
  refine ⟨hr.map_setMac _ _ _ _, hk.sound.sharingAdapter, hk.sound.ipcAdapter,
    hk.sound.p2pInstance, hk.sound.sink_le_key.trans hle, hk.sound.context, ?_⟩
  exact fun _ _ _ => hk.sink

theorem Casting.recorded_eq (hk : h.Casting info) :
    h.scene.recorded = [(.sink, h.scene.contextId, h.scene.agentId)] := by
  simp [WfdSourceScene.recorded, hk.sink, hk.connDev, hk.agentId]

theorem Casting.recorded_believed (hk : h.Casting info) {answer : AgentAnswer} {ids : Nat × Nat}
    (hids : ids.2 ≠ invalidId) : (h.believed info answer ids).scene.recorded =
      h.scene.recorded ++ [(.src, ids.1, ids.2)] := by
  rw [hk.recorded_eq]
  simp [WfdSourceScene.recorded, believed, hk.sink, hids]

theorem entries_believed {answer : AgentAnswer} {ids : Nat × Nat} :
    (h.believed info answer ids).live.map SceneAgent.entry = h.live.map SceneAgent.entry ++
      answer.made.toList.map fun made => (.src, made.1, made.2) := by
  refine SceneAgent.live_map_setMac.trans ?_
  cases hmade : answer.made with
  | none =>
    rw [perform_of_made_none hmade]
    simp [live]
  | some made =>
    rw [perform_of_made_some hmade, SceneAgent.live_append, List.map_append]
    rfl

/-- Only the sink has the identifier of the sink. -/
theorem Casting.source_agentId (hk : h.Casting info) {a : SceneAgent} (ha : a ∈ h.live)
    {contextId agentId : Nat} (hentry : a.entry = (.src, contextId, agentId)) :
    agentId ≤ h.key ∧ agentId ≠ h.scene.agentId := by
  have hmem := mem_agents_of_mem_live ha
  have hid : a.agentId = agentId := congrArg (fun e => e.2.2) hentry
  have hsrc : a.agentType = .src := congrArg Prod.fst hentry
  refine ⟨hid ▸ (hk.sound.le_key a hmem).2, fun heq => ?_⟩
  cases hsrc.symm.trans (hk.sinks a hmem (hid.trans heq))

theorem Casting.believed_created (hk : h.Casting info) (hc : h.Conserved)
    {contextId agentId : Nat} (hlt : h.key < agentId) :
    (h.believed info (.created contextId agentId) (contextId, agentId)).Conserved := by
  have hs' : (h.believed info (.created contextId agentId) (contextId, agentId)).Sound :=
    hk.sound_believed fun ids hids => by
      cases hids
      exact hlt
  refine Conserved.of_recorded hs'.toRegistered ?_ hc.destroyedOnce
  intro e
  rw [entries_believed, hk.recorded_believed (Nat.ne_of_gt (lt_of_le_of_lt (Nat.zero_le _) hlt)),
    List.mem_append, List.mem_append, hc.recorded]
  rfl

theorem Casting.believed_timedOut (hk : h.Casting info) {late : Option (Nat × Nat)}
    (hfresh : ∀ ids ∈ late, h.key < ids.2) :
    ¬ (h.believed info (.timedOut late) (h.scene.contextId, h.scene.agentId)).Conserved := by
  intro hc
  have hmem := (hc.recorded (.src, h.scene.contextId, h.scene.agentId)).mpr (by
    rw [hk.recorded_believed hk.sink]
    exact List.mem_append_right _ (List.mem_singleton_self _))
  rw [entries_believed, List.mem_append] at hmem
  rcases hmem with hmem | hmem
  · obtain ⟨a, ha, hentry⟩ := List.mem_map.mp hmem
    exact (hk.source_agentId ha hentry).2 rfl
  · obtain ⟨ids, hids, hentry⟩ := List.mem_map.mp hmem
    have hlt := hfresh ids (Option.mem_toList.mp hids)
    have heq : ids.2 = h.scene.agentId := congrArg (fun e => e.2.2) hentry
    exact absurd hk.sound.sink_le_key (by omega)

theorem Casting.believed_leaks (hk : h.Casting info) {answer : AgentAnswer} {ids : Nat × Nat}
    (hids : h.key < ids.2 ∨ ids.2 = h.scene.agentId) (hne : ids.2 ≠ invalidId)
    (hleak : h.Leaks) : (h.believed info answer ids).Leaks := by
  obtain ⟨a, ha, hrec⟩ := hleak
  have hmem : a.entry ∈ (h.believed info answer ids).live.map SceneAgent.entry := by
    rw [entries_believed]
    exact List.mem_append_left _ (List.mem_map_of_mem ha)
  obtain ⟨b, hb, heq⟩ := List.mem_map.mp hmem
  refine ⟨b, hb, ?_⟩
  rw [heq, hk.recorded_believed hne, List.mem_append, not_or, List.mem_singleton]
  refine ⟨hrec, fun hentry => ?_⟩
  obtain ⟨hle, hsink⟩ := hk.source_agentId ha hentry
  rcases hids with hlt | heq'
  · omega
  · exact hsink heq'

/-- The request for the source: what was lost before stays lost, and the rest depends on an
answer in time. -/
theorem Casting.cast (hk : h.Casting info) (port : Nat) {answer : AgentAnswer}
    (hfresh : ∀ ids ∈ answer.made, h.key < ids.2 ∧ ids.1 ≠ invalidId) :
    (h.after (h.scene.appendCast info.mac port answer)).Sound ∧
      (h.Leaks → (h.after (h.scene.appendCast info.mac port answer)).Leaks) ∧
      (h.Conserved → ((h.after (h.scene.appendCast info.mac port answer)).Conserved ↔
        (port ≠ 0 → answer.inTime))) := by
  by_cases hport : port = 0
  · rw [hk.cast_none (Or.inl hport)]
    exact ⟨hk.sound, id, fun hc => iff_of_true hc fun hne => absurd hport hne⟩
  · cases answer with
    | refused contextId =>
      rw [hk.cast_none (Or.inr ⟨contextId, rfl⟩)]
      exact ⟨hk.sound, id, fun hc => iff_of_true hc fun _ => rfl⟩
    | created contextId agentId =>
      obtain ⟨hlt, hcontext⟩ := hfresh _ rfl
      have hne : agentId ≠ invalidId := Nat.ne_of_gt (lt_of_le_of_lt (Nat.zero_le _) hlt)
      have hold : h.scene.agentId ≠ agentId := by
        have := hk.sound.sink_le_key
        intro heq
        exact absurd hlt (by omega)
      have hids : createAgent h.scene.contextId h.scene.agentId (.created contextId agentId) =
          (contextId, agentId) := by
        simp [createAgent, hold, hne]
      rw [hk.cast_believed hport (by simp [hids, hcontext, hne]), hids]
      exact ⟨hk.sound_believed fun ids hids => (hfresh ids hids).1,
        hk.believed_leaks (Or.inl hlt) hne,
        fun hc => iff_of_true (hk.believed_created hc hlt) fun _ => rfl⟩
    | timedOut late =>
      have hids : createAgent h.scene.contextId h.scene.agentId (.timedOut late) =
          (h.scene.contextId, h.scene.agentId) := rfl
      rw [hk.cast_believed hport (by simp [hids, hk.sound.context hk.sink, hk.sink]), hids]
      refine ⟨hk.sound_believed fun ids hids => (hfresh ids hids).1,
        hk.believed_leaks (Or.inr rfl) hk.sink, fun _ => iff_of_false ?_ ?_⟩
      · exact hk.believed_timedOut fun ids hids => (hfresh ids hids).1
      · exact fun htime => Bool.false_ne_true (htime hport)

end cast

theorem after_startCast (s : WfdSourceScene) (mac : Text) (capture : SourceResult Bool)
    (hcapture : s.createScreenCapture answers.sink = capture) :
    h.after (s.startCast mac answers) =
      if capture.reply then
        (h.after capture).after (capture.scene.appendCast mac answers.port answers.source)
      else h.after capture := by
  unfold WfdSourceScene.startCast
  rw [hcapture]
  by_cases hreply : capture.reply
  · simp only [hreply, if_true]
    refine after_append capture _ ?_
    split
    · rfl
    · exact isIdle_ipc rfl
  · simp only [hreply]
    rw [if_neg Bool.false_ne_true, if_neg Bool.false_ne_true, after, List.foldl_append,
      WfdSourceScene.onInnerError, foldl_perform_of_isIdle (isIdle_ipc rfl)]
    rfl

theorem Sound.capture_of_ids (hs : h.Sound) (owner : GroupOwner) {answer : AgentAnswer} {ids : Nat × Nat}
    (hids : createAgent h.scene.contextId h.scene.agentId answer = ids) :
    (h.joined owner).createScreenCapture answer =
      let s := { h.joined owner with contextId := ids.1, agentId := ids.2 }
      let create := .createAgent .sink h.scene.contextId h.scene.agentId answer
      if ids.1 = invalidId ∨ ids.2 = invalidId then ⟨s, [create], false⟩
      else ⟨s, [create, .initCapture ids.1 ids.2 h.scene.screenId, .start ids.1 ids.2], true⟩ := by
  subst hids
  exact if_neg (by simp [joined, hs.sharingAdapter])

/-- The history when the sink is asked for: the ids in the scene, and the agent that is made. -/
def captured (h : SourceHistory) (owner : GroupOwner) (answer : AgentAnswer)
    (ids : Nat × Nat) : SourceHistory :=
  { h.perform (.createAgent .sink h.scene.contextId h.scene.agentId answer) with
    scene := { h.joined owner with contextId := ids.1, agentId := ids.2 } }

theorem after_capture {answer : AgentAnswer} {ids : Nat × Nat} {behind : List SourceAction}
    (hbehind : behind.all (·.isIdle)) (reply : Bool) :
    h.after ⟨{ h.joined owner with contextId := ids.1, agentId := ids.2 },
      .createAgent .sink h.scene.contextId h.scene.agentId answer :: behind, reply⟩ =
      h.captured owner answer ids := by
  rw [after, foldl_perform_scene, List.foldl_cons, foldl_perform_of_isIdle hbehind]
  rfl

/-- The step when the sink is believed to be made. -/
theorem Sound.step_captured (hs : h.Sound) {connected : Bool} (hjoins : h.Joins connected owner)
    {ids : Nat × Nat} (hids : createAgent h.scene.contextId h.scene.agentId answers.sink = ids)
    (hvalid : ids.1 ≠ invalidId ∧ ids.2 ≠ invalidId) :
    h.step (.p2pConnectionChanged connected owner answers) =
      (h.captured owner answers.sink ids).after
        ((h.captured owner answers.sink ids).scene.appendCast owner.mac answers.port
          answers.source) := by
  have hcapture := hs.capture_of_ids owner hids
  rw [if_neg (by simpa using hvalid)] at hcapture
  rw [hs.step_joins hjoins, after_startCast _ _ _ hcapture, if_pos rfl, after_capture rfl]
  rfl

theorem Sound.step_not_captured (hs : h.Sound) {connected : Bool}
    (hjoins : h.Joins connected owner) {ids : Nat × Nat}
    (hids : createAgent h.scene.contextId h.scene.agentId answers.sink = ids)
    (hinvalid : ids.1 = invalidId ∨ ids.2 = invalidId) :
    h.step (.p2pConnectionChanged connected owner answers) =
      h.captured owner answers.sink ids := by
  have hcapture := hs.capture_of_ids owner hids
  rw [if_pos hinvalid] at hcapture
  rw [hs.step_joins hjoins, after_startCast _ _ _ hcapture, if_neg Bool.false_ne_true,
    after_capture rfl]

section capture

variable {answer : AgentAnswer} {ids : Nat × Nat}

theorem captured_of_made_none (hnone : answer.made = none) : h.captured owner answer ids =
    { h with scene := { h.joined owner with contextId := ids.1, agentId := ids.2 } } := by
  rw [captured, perform_of_made_none hnone]

theorem captured_of_made_some {made : Nat × Nat} (hmade : answer.made = some made) :
    h.captured owner answer ids =
      { h with
        scene := { h.joined owner with contextId := ids.1, agentId := ids.2 }
        agents := h.agents ++ [⟨.sink, made.1, made.2, h.scene.agentId, none, false⟩]
        key := made.2 } := by
  rw [captured, perform_of_made_some hmade]

theorem entries_captured : (h.captured owner answer ids).live.map SceneAgent.entry =
    h.live.map SceneAgent.entry ++ answer.made.toList.map fun made => (.sink, made.1, made.2) := by
  cases hmade : answer.made with
  | none =>
    rw [captured_of_made_none hmade]
    exact (List.append_nil _).symm
  | some made =>
    rw [captured_of_made_some hmade, live, SceneAgent.live_append, List.map_append]
    rfl

theorem recorded_captured : (h.captured owner answer ids).scene.recorded =
    if ids.2 = invalidId then [] else [(.sink, ids.1, ids.2)] := by
  simp [WfdSourceScene.recorded, captured, joined, GroupOwner.connectionInfo]

theorem Sound.sound_captured (hs : h.Sound) (hfresh : ∀ ids ∈ answer.made, h.key < ids.2)
    (hids : ids.2 ≠ invalidId → ids.1 ≠ invalidId)
    (hkey : ids.2 ≤ h.key ∨ answer.made = some ids) : (h.captured owner answer ids).Sound := by
  obtain ⟨hr, hle⟩ := hs.toRegistered.perform_createAgent .sink
    h.scene.contextId h.scene.agentId hfresh
  refine ⟨⟨hr.nodup, hr.le_key⟩, hs.sharingAdapter, hs.ipcAdapter, hs.p2pInstance, ?_, hids, ?_⟩
  · rcases hkey with hkey | hmade
    · exact hkey.trans hle
    · rw [captured_of_made_some hmade]
  · rintro dev hdev hne
    cases hdev
    exact absurd rfl hne

/-- What is asked for the sink is lost if it finds records of other agents. -/
theorem leaks_captured {e : AgentType × Nat × Nat}
    (he : e ∈ h.live.map SceneAgent.entry ++
      answer.made.toList.map fun made => (.sink, made.1, made.2))
    (hne : e ≠ (.sink, ids.1, ids.2)) : (h.captured owner answer ids).Leaks := by
  have hmem : e ∈ (h.captured owner answer ids).live.map SceneAgent.entry := by
    rw [entries_captured]
    exact he
  obtain ⟨a, ha, rfl⟩ := List.mem_map.mp hmem
  refine ⟨a, ha, ?_⟩
  rw [recorded_captured]
  split
  · exact List.not_mem_nil
  · simpa using hne

theorem Sound.casting_captured (hs' : (h.captured owner answer ids).Sound)
    (hne : ids.2 ≠ invalidId)
    (hsinks : ∀ a ∈ h.agents, a.agentId = ids.2 → a.agentType = .sink) :
    (h.captured owner answer ids).Casting owner.connectionInfo := by
  refine ⟨hs', rfl, rfl, rfl, hne, ?_⟩
  intro a ha heq
  cases hmade : answer.made with
  | none =>
    rw [captured_of_made_none hmade] at ha
    exact hsinks a ha heq
  | some made =>
    rw [captured_of_made_some hmade] at ha
    rcases List.mem_append.mp ha with ha | ha
    · exact hsinks a ha heq
    · rw [List.mem_singleton.mp ha]

/-- The scene has the ids of the agents of before, which are none, and of the new sink. -/
theorem Conserved.captured (hc : h.Conserved) (hs' : (h.captured owner answer ids).Sound)
    (hentries : ∀ e, e ∈ h.live.map SceneAgent.entry ++
        (answer.made.toList.map fun made => (AgentType.sink, made.1, made.2)) ↔
      e ∈ if ids.2 = invalidId then [] else [(AgentType.sink, ids.1, ids.2)]) :
    (h.captured owner answer ids).Conserved := by
  refine Conserved.of_recorded hs'.toRegistered ?_ ?_
  · rw [entries_captured, recorded_captured]
    exact hentries
  · intro agentId hne
    cases hmade : answer.made with
    | none =>
      rw [captured_of_made_none hmade]
      exact hc.destroyedOnce agentId hne
    | some made =>
      rw [captured_of_made_some hmade]
      exact hc.destroyedOnce agentId hne

theorem Possible.sink {connected : Bool}
    (hp : h.Possible (.p2pConnectionChanged connected owner answers)) :
    ∀ ids ∈ answers.sink.made, h.key < ids.2 ∧ ids.1 ≠ invalidId := by
  intro ids hids
  have hmem : ids ∈ answers.sink.made.toList ++ answers.source.made.toList :=
    List.mem_append_left _ (Option.mem_toList.mpr hids)
  exact ⟨List.rel_of_pairwise_cons hp.1 (List.mem_map_of_mem hmem), hp.2 ids hmem⟩

theorem Possible.source {connected : Bool}
    (hp : h.Possible (.p2pConnectionChanged connected owner answers)) :
    ∀ made ∈ answers.source.made,
      (h.captured owner answers.sink ids).key < made.2 ∧ made.1 ≠ invalidId := by
  intro made hmade
  have hmem : made ∈ answers.sink.made.toList ++ answers.source.made.toList :=
    List.mem_append_right _ (Option.mem_toList.mpr hmade)
  refine ⟨?_, hp.2 made hmem⟩
  cases hsink : answers.sink.made with
  | none =>
    rw [captured_of_made_none hsink]
    exact List.rel_of_pairwise_cons hp.1 (List.mem_map_of_mem hmem)
  | some first =>
    rw [captured_of_made_some hsink]
    have hpair := hp.1
    rw [hsink] at hpair
    exact List.rel_of_pairwise_cons (List.pairwise_cons.mp hpair).2
      (List.mem_map_of_mem (Option.mem_toList.mpr hmade))

end capture

section joins

variable {connected : Bool}

/-- The step behind a sink that is believed to be made. -/
theorem Sound.joins_captured (hs : h.Sound) (hjoins : h.Joins connected owner)
    (hp : h.Possible (.p2pConnectionChanged connected owner answers)) {ids : Nat × Nat}
    (hids : createAgent h.scene.contextId h.scene.agentId answers.sink = ids)
    (hvalid : ids.1 ≠ invalidId ∧ ids.2 ≠ invalidId)
    (hkey : ids.2 ≤ h.key ∨ answers.sink.made = some ids)
    (hsinks : ∀ a ∈ h.agents, a.agentId = ids.2 → a.agentType = .sink) :
    (h.step (.p2pConnectionChanged connected owner answers)).Sound ∧
      ((h.captured owner answers.sink ids).Leaks →
        ¬ (h.step (.p2pConnectionChanged connected owner answers)).Conserved) ∧
      ((h.captured owner answers.sink ids).Conserved →
        ((h.step (.p2pConnectionChanged connected owner answers)).Conserved ↔
          SourceInTime answers)) := by
  have hs' : (h.captured owner answers.sink ids).Sound :=
    hs.sound_captured (fun made hmade => (Possible.sink hp made hmade).1) (fun _ => hvalid.1) hkey
  obtain ⟨hsound, hleak, hcons⟩ := (hs'.casting_captured hvalid.2 hsinks).cast answers.port
    (Possible.source hp)
  rw [hs.step_captured hjoins hids hvalid]
  exact ⟨hsound, fun hl => (hleak hl).not_conserved, hcons⟩

theorem Sound.joins_created (hs : h.Sound) (hc : h.Conserved) (hjoins : h.Joins connected owner)
    (hp : h.Possible (.p2pConnectionChanged connected owner answers)) {contextId agentId : Nat}
    (hsink : answers.sink = .created contextId agentId) :
    (h.step (.p2pConnectionChanged connected owner answers)).Sound ∧
      ((h.step (.p2pConnectionChanged connected owner answers)).Conserved ↔
        h.scene.agentId = invalidId ∧ SourceInTime answers) := by
  have hmade : answers.sink.made = some (contextId, agentId) := by rw [hsink]; rfl
  obtain ⟨hlt, hcontext⟩ := Possible.sink hp _ hmade
  have hne : agentId ≠ invalidId := Nat.ne_of_gt (lt_of_le_of_lt (Nat.zero_le _) hlt)
  have hold : h.scene.agentId ≠ agentId := fun heq => absurd hs.sink_le_key (by omega)
  have hids : createAgent h.scene.contextId h.scene.agentId answers.sink = (contextId, agentId) := by
    simp [hsink, createAgent, hold, hne]
  obtain ⟨hsound, hleak, hcons⟩ := hs.joins_captured hjoins hp hids ⟨hcontext, hne⟩
    (Or.inr hmade) fun a ha heq => absurd (hs.le_key a ha).2 (by omega)
  refine ⟨hsound, ?_⟩
  by_cases hnone : h.scene.agentId = invalidId
  · have hs' : (h.captured owner answers.sink (contextId, agentId)).Sound :=
      hs.sound_captured (fun made hmade => (Possible.sink hp made hmade).1) (fun _ => hcontext)
        (Or.inr hmade)
    have hlive : h.live = [] := hc.live_eq_nil (hs.recorded_eq_nil hnone)
    rw [hcons (hc.captured hs' (by simp [hlive, hmade, hne]))]
    exact ⟨fun htime => ⟨hnone, htime⟩, And.right⟩
  · refine iff_of_false (hleak (leaks_captured (e := (.sink, h.scene.contextId, h.scene.agentId))
      (List.mem_append_left _ ?_) ?_)) fun hand => hnone hand.1
    · exact (hc.recorded _).mpr (mem_recorded_sink hnone)
    · exact fun heq => hold (congrArg (fun e => e.2.2) heq)

theorem Sound.joins_refused (hs : h.Sound) (hc : h.Conserved) (hjoins : h.Joins connected owner)
    {contextId : Nat} (hsink : answers.sink = .refused contextId) :
    (h.step (.p2pConnectionChanged connected owner answers)).Sound ∧
      ((h.step (.p2pConnectionChanged connected owner answers)).Conserved ↔
        h.scene.agentId = invalidId) := by
  have hmade : answers.sink.made = none := by rw [hsink]; rfl
  have hids : createAgent h.scene.contextId h.scene.agentId answers.sink =
      (contextId, invalidId) := by rw [hsink]; rfl
  have hs' : (h.captured owner answers.sink (contextId, invalidId)).Sound :=
    hs.sound_captured (by simp [hmade]) (fun hne => absurd rfl hne) (Or.inl (Nat.zero_le _))
  rw [hs.step_not_captured hjoins hids (Or.inr rfl)]
  refine ⟨hs', ?_⟩
  by_cases hnone : h.scene.agentId = invalidId
  · have hlive : h.live = [] := hc.live_eq_nil (hs.recorded_eq_nil hnone)
    exact iff_of_true (hc.captured hs' (by simp [hlive, hmade])) hnone
  · refine iff_of_false (Leaks.not_conserved (leaks_captured
      (e := (.sink, h.scene.contextId, h.scene.agentId)) (List.mem_append_left _ ?_) ?_)) hnone
    · exact (hc.recorded _).mpr (mem_recorded_sink hnone)
    · exact fun heq => hnone (congrArg (fun e => e.2.2) heq)

/-- The scene has no sink, and the answer for one comes too late. -/
theorem Sound.joins_timedOut_noSink (hs : h.Sound) (hc : h.Conserved)
    (hjoins : h.Joins connected owner)
    (hp : h.Possible (.p2pConnectionChanged connected owner answers)) {late : Option (Nat × Nat)}
    (hsink : answers.sink = .timedOut late) (hnone : h.scene.agentId = invalidId) :
    (h.step (.p2pConnectionChanged connected owner answers)).Sound ∧
      ((h.step (.p2pConnectionChanged connected owner answers)).Conserved ↔ late = none) := by
  have hmade : answers.sink.made = late := by rw [hsink]; rfl
  have hids : createAgent h.scene.contextId h.scene.agentId answers.sink =
      (h.scene.contextId, invalidId) := by rw [hsink, createAgent, hnone]
  have hs' : (h.captured owner answers.sink (h.scene.contextId, invalidId)).Sound :=
    hs.sound_captured (fun made hmade => (Possible.sink hp made hmade).1)
      (fun hne => absurd rfl hne) (Or.inl (Nat.zero_le _))
  rw [hs.step_not_captured hjoins hids (Or.inr rfl)]
  refine ⟨hs', ?_⟩
  cases late with
  | none =>
    have hlive : h.live = [] := hc.live_eq_nil (hs.recorded_eq_nil hnone)
    exact iff_of_true (hc.captured hs' (by simp [hlive, hmade])) rfl
  | some made =>
    have hlt := (Possible.sink hp made hmade).1
    refine iff_of_false (Leaks.not_conserved (leaks_captured (e := (.sink, made.1, made.2))
      (List.mem_append_right _ ?_) ?_)) (by simp)
    · simp [hmade]
    · exact fun heq => absurd (congrArg (fun e => e.2.2) heq) (Nat.ne_of_gt (Nat.zero_lt_of_lt hlt))

/-- The scene goes on with the sink that it had. -/
theorem Sound.joins_timedOut (hs : h.Sound) (hc : h.Conserved) (hjoins : h.Joins connected owner)
    (hp : h.Possible (.p2pConnectionChanged connected owner answers)) {late : Option (Nat × Nat)}
    (hsink : answers.sink = .timedOut late) (hold : h.scene.agentId ≠ invalidId) :
    (h.step (.p2pConnectionChanged connected owner answers)).Sound ∧
      ((h.step (.p2pConnectionChanged connected owner answers)).Conserved ↔
        late = none ∧ (∀ dev ∈ h.scene.connDev, dev.agentId = invalidId) ∧
          SourceInTime answers) := by
  have hmade : answers.sink.made = late := by rw [hsink]; rfl
  have hids : createAgent h.scene.contextId h.scene.agentId answers.sink =
      (h.scene.contextId, h.scene.agentId) := by rw [hsink, createAgent]
  have hsinks : ∀ a ∈ h.agents, a.agentId = h.scene.agentId → a.agentType = .sink := by
    intro a ha heq
    obtain ⟨b, hb, hentry⟩ := List.mem_map.mp ((hc.recorded _).mpr (mem_recorded_sink hold))
    rw [hs.eq_of_agentId ha (mem_agents_of_mem_live hb)
      (heq.trans (congrArg (fun e => e.2.2) hentry).symm)]
    exact congrArg Prod.fst hentry
  obtain ⟨hsound, hleak, hcons⟩ := hs.joins_captured hjoins hp hids ⟨hs.context hold, hold⟩
    (Or.inl hs.sink_le_key) hsinks
  refine ⟨hsound, ?_⟩
  cases late with
  | some made =>
    have hlt := (Possible.sink hp made hmade).1
    refine iff_of_false (hleak (leaks_captured (e := (.sink, made.1, made.2))
      (List.mem_append_right _ ?_) ?_)) (by simp)
    · simp [hmade]
    · intro heq
      have hid : made.2 = h.scene.agentId := congrArg (fun e => e.2.2) heq
      exact absurd hs.sink_le_key (by omega)
  | none =>
    by_cases hsource : ∀ dev ∈ h.scene.connDev, dev.agentId = invalidId
    · have hrec : h.scene.recorded = [(.sink, h.scene.contextId, h.scene.agentId)] := by
        unfold WfdSourceScene.recorded
        rw [if_neg hold]
        split
        · rfl
        · rename_i dev hdev
          rw [if_pos (hsource dev hdev), List.append_nil]
      have hs' : (h.captured owner answers.sink (h.scene.contextId, h.scene.agentId)).Sound :=
        hs.sound_captured (by simp [hmade]) (fun _ => hs.context hold) (Or.inl hs.sink_le_key)
      have hcaptured : (h.captured owner answers.sink
          (h.scene.contextId, h.scene.agentId)).Conserved := by
        refine hc.captured hs' fun e => ?_
        rw [if_neg hold, ← hrec, ← hc.recorded e, hmade]
        simp
      rw [hcons hcaptured]
      exact ⟨fun htime => ⟨rfl, hsource, htime⟩, fun hand => hand.2.2⟩
    · obtain ⟨dev, hdev, hne⟩ : ∃ dev, h.scene.connDev = some dev ∧ dev.agentId ≠ invalidId := by
        simpa using hsource
      refine iff_of_false (hleak (leaks_captured (e := (.src, dev.contextId, dev.agentId))
        (List.mem_append_left _ ((hc.recorded _).mpr ?_)) (by simp))) fun hand => hsource hand.2.1
      simp [WfdSourceScene.recorded, hdev, hne]

theorem Sound.joins (hs : h.Sound) (hc : h.Conserved)
    (hp : h.Possible (.p2pConnectionChanged connected owner answers)) :
    (h.step (.p2pConnectionChanged connected owner answers)).Sound ∧
      ((h.step (.p2pConnectionChanged connected owner answers)).Conserved ↔
        h.Undisturbed (.p2pConnectionChanged connected owner answers)) := by
  by_cases hjoins : h.Joins connected owner
  · unfold Undisturbed
    simp only [hjoins, true_implies]
    cases hsink : answers.sink with
    | created contextId agentId => exact hs.joins_created hc hjoins hp hsink
    | refused contextId => exact hs.joins_refused hc hjoins hsink
    | timedOut late =>
      by_cases hold : h.scene.agentId = invalidId
      · have hstep := hs.joins_timedOut_noSink hc hjoins hp hsink hold
        cases late with
        | none => simpa [hold] using hstep
        | some made => simpa using hstep
      · have hstep := hs.joins_timedOut hc hjoins hp hsink hold
        cases late with
        | none => simpa [hold] using hstep
        | some made => simpa using hstep
  · rw [step_not_joins hs hjoins]
    exact ⟨hs, iff_of_true hc fun h => absurd h hjoins⟩

end joins

end SourceHistory

end WifiDisplay
