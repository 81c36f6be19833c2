import WifiDisplay.WfdSourceSceneCasts

/-! Runs of the scene: its agents are conserved exactly as long as it has none of them destroyed. -/

namespace WifiDisplay

namespace SourceHistory

variable {h : SourceHistory} {call : SourceCall} {s : WfdSourceScene}

/-- A call that only renames: the agents, the records and the device stay. -/
theorem Sound.of_rename (hs : h.Sound) (hc : h.Conserved) (hstep : h.step call = { h with scene := s })
    (hf : Follows s h.scene) (hrec : s.recorded = h.scene.recorded)
    (hlost : h.lostDevice call = none) : (h.step call).Sound ∧ h.Kept call := by
  have hc' : (h.step call).Conserved := by
    rw [hstep]
    exact conserved_rename hs hc hf hrec
  refine ⟨?_, hc', by simp [hlost]⟩
  rw [hstep]
  exact hs.follows hf ⟨hs.nodup, hs.le_key⟩

theorem Sound.startDiscovery (hs : h.Sound) (hc : h.Conserved) (status : P2pState) :
    (h.step (.startDiscovery status)).Sound ∧ h.Kept (.startDiscovery status) := by
  have hstep : ∃ running, (h.scene.handleStartDiscovery status).scene =
        { h.scene with isSourceRunning := running } ∧
      (h.scene.handleStartDiscovery status).actions.all (·.isIdle) := by
    unfold WfdSourceScene.handleStartDiscovery
    rw [if_neg (by simp [hs.p2pInstance])]
    split
    · exact ⟨_, rfl, rfl⟩
    · have hpause : (h.scene.wfdP2pStart).all (·.isIdle) := by
        rw [WfdSourceScene.wfdP2pStart, List.all_append, isIdle_p2p rfl, isIdle_p2p rfl]
        rfl
      cases status with
      | started =>
        refine ⟨true, rfl, ?_⟩
        rw [List.all_append, hpause]
        rfl
      | closed => exact ⟨true, rfl, rfl⟩
      | _ => exact ⟨_, rfl, isIdle_ipc rfl⟩
  obtain ⟨running, hscene, hidle⟩ := hstep
  refine hs.of_rename hc (s := { h.scene with isSourceRunning := running }) ?_
    ⟨rfl, rfl, rfl, rfl, rfl, fun dev hdev => ⟨dev, hdev, rfl⟩⟩ rfl rfl
  rw [step, after_of_isIdle hidle, hscene]

theorem Sound.addDevice (hs : h.Sound) (hc : h.Conserved) (deviceId : Text) (screenId : BitVec 64)
    (displayIds : List (BitVec 64)) : (h.step (.addDevice deviceId screenId displayIds)).Sound ∧
      h.Kept (.addDevice deviceId screenId displayIds) := by
  have hstep : ∃ screenId', (h.scene.handleAddDevice deviceId screenId displayIds).scene =
        { h.scene with screenId := screenId' } ∧
      (h.scene.handleAddDevice deviceId screenId displayIds).actions.all (·.isIdle) := by
    unfold WfdSourceScene.handleAddDevice
    split
    · exact ⟨_, rfl, rfl⟩
    · split
      · exact ⟨_, rfl, rfl⟩
      · exact ⟨_, rfl, rfl⟩
  obtain ⟨screenId', hscene, hidle⟩ := hstep
  refine hs.of_rename hc (s := { h.scene with screenId := screenId' }) ?_
    ⟨rfl, rfl, rfl, rfl, rfl, fun dev hdev => ⟨dev, hdev, rfl⟩⟩ rfl rfl
  rw [step, after_of_isIdle hidle, hscene]

/-- The scene reports another state of its device. -/
theorem follows_setState {dev : ConnectionInfo} (hdev : h.scene.connDev = some dev)
    (state : ConnectionState) :
    Follows { h.scene with connDev := some { dev with state := state } } h.scene ∧
      { h.scene with connDev := some { dev with state := state } }.recorded = h.scene.recorded := by
  refine ⟨⟨rfl, rfl, rfl, rfl, rfl, ?_⟩, ?_⟩
  · rintro _ ⟨⟩
    exact ⟨dev, hdev, rfl⟩
  · simp [WfdSourceScene.recorded, hdev]

theorem Sound.rtspPlayed (hs : h.Sound) (hc : h.Conserved) (mac : Text) :
    (h.step (.rtspPlayed mac)).Sound ∧ h.Kept (.rtspPlayed mac) := by
  have hsame : h.step (.rtspPlayed mac) = h ∨ ∃ dev, h.scene.connDev = some dev ∧
      h.step (.rtspPlayed mac) =
        { h with scene := { h.scene with connDev := some { dev with state := .playing } } } := by
    rw [step]
    unfold WfdSourceScene.onRtspPlayed
    split
    · exact Or.inl rfl
    · rename_i dev hdev
      split
      · exact Or.inl rfl
      · exact Or.inr ⟨dev, hdev, after_of_isIdle (isIdle_ipc rfl)⟩
  rcases hsame with heq | ⟨dev, hdev, heq⟩
  · exact hs.of_rename hc heq Follows.refl rfl rfl
  · exact hs.of_rename hc heq (follows_setState hdev .playing).1 (follows_setState hdev .playing).2 rfl

theorem Sound.destroyScreenCapture (hs : h.Sound) (hc : h.Conserved) :
    (h.step .destroyScreenCapture).Sound ∧
      (h.Kept .destroyScreenCapture ↔ h.Undisturbed .destroyScreenCapture) := by
  have hstep : h.step .destroyScreenCapture = h.loseSink h.scene := by
    rw [step]
    refine after_loseSink [] [] ?_ rfl rfl
    exact if_pos hs.sharingAdapter
  have hiff := conserved_loseSink_iff hs hc Follows.refl
  rw [← hstep] at hiff
  refine ⟨hstep ▸ hs.loseSink Follows.refl, fun hk => hiff.mp hk.conserved, fun hu => ?_⟩
  exact ⟨hiff.mpr hu, by rintro _ ⟨⟩⟩

theorem wfdP2pStop_eq (hadapter : s.sharingAdapter) :
    ∃ teardown : List SourceAction, teardown.all (·.isIdle) ∧ s.wfdP2pStop =
      ⟨s, teardown ++ (if s.contextId ≠ invalidId ∧ s.agentId ≠ invalidId then
        [.destroyAgent s.contextId s.agentId] else []) ++ s.p2p .removeGroup, ()⟩ := by
  simp only [WfdSourceScene.wfdP2pStop, hadapter, if_true]
  refine ⟨_, ?_, rfl⟩
  split
  · split <;> rfl
  · rfl

theorem Sound.p2pStopped (hs : h.Sound) (hc : h.Conserved) (hrunning : h.scene.isSourceRunning) :
    (h.step (.p2pStateChanged .closed)).Sound ∧
      ((h.step (.p2pStateChanged .closed)).Conserved ↔ h.scene.agentId = invalidId) := by
  have hf : Follows { h.scene with isSourceRunning := false } h.scene :=
    ⟨rfl, rfl, rfl, rfl, rfl, fun dev hdev => ⟨dev, hdev, rfl⟩⟩
  obtain ⟨teardown, hteardown, hstop⟩ :=
    wfdP2pStop_eq (s := { h.scene with isSourceRunning := false }) hs.sharingAdapter
  have hbehind : (h.scene.p2p .removeGroup ++ h.scene.onInnerError .networkError
      "NETWORK ERROR, P2P MODULE STOPPED").all (·.isIdle) := by
    rw [List.all_append, isIdle_p2p rfl]
    exact isIdle_ipc rfl
  have hclosed : h.scene.onP2pStateChanged .closed =
      ⟨{ h.scene with isSourceRunning := false },
        teardown ++ (if h.scene.contextId ≠ invalidId ∧ h.scene.agentId ≠ invalidId then
          [.destroyAgent h.scene.contextId h.scene.agentId] else []) ++
          (h.scene.p2p .removeGroup ++ h.scene.onInnerError .networkError
            "NETWORK ERROR, P2P MODULE STOPPED"), ()⟩ := by
    unfold WfdSourceScene.onP2pStateChanged
    rw [if_neg (by simp [hrunning]), hstop, ← List.append_assoc]
    rfl
  rw [step, hclosed]
  by_cases hsink : h.scene.agentId = invalidId
  · rw [if_neg fun hids => hids.2 hsink, after_of_isIdle]
    · exact ⟨hs.follows hf ⟨hs.nodup, hs.le_key⟩,
        iff_of_true (conserved_drop hs hc hf hsink) hsink⟩
    · rw [List.append_nil, List.all_append, hteardown, hbehind]
      rfl
  · rw [if_pos ⟨hs.context hsink, hsink⟩, after_loseSink _ _ rfl hteardown hbehind]
    exact ⟨hs.loseSink hf, conserved_loseSink_iff hs hc hf⟩

theorem Sound.p2pStateChanged (hs : h.Sound) (hc : h.Conserved) (state : P2pState) :
    (h.step (.p2pStateChanged state)).Sound ∧
      (h.Kept (.p2pStateChanged state) ↔ h.Undisturbed (.p2pStateChanged state)) := by
  by_cases hstop : state = .closed ∧ h.scene.isSourceRunning
  · obtain ⟨rfl, hrunning⟩ := hstop
    obtain ⟨hsound, hiff⟩ := hs.p2pStopped hc hrunning
    refine ⟨hsound, fun hk _ _ => hiff.mp hk.conserved, fun hu => ?_⟩
    exact ⟨hiff.mpr (hu rfl hrunning), by rintro _ ⟨⟩⟩
  · have hstep : h.step (.p2pStateChanged state) = { h with scene := h.scene } := by
      rw [step]
      unfold WfdSourceScene.onP2pStateChanged
      split
      · rfl
      · rename_i hrunning
        cases state with
        | started =>
          refine after_of_isIdle ?_
          rw [WfdSourceScene.wfdP2pStart, List.all_append, isIdle_p2p rfl, isIdle_p2p rfl]
          rfl
        | closed => exact absurd ⟨rfl, by simpa using hrunning⟩ hstop
        | _ => rfl
    obtain ⟨hsound, hk⟩ := hs.of_rename hc hstep Follows.refl rfl rfl
    exact ⟨hsound, iff_of_true hk fun hclosed hrunning => absurd ⟨hclosed, hrunning⟩ hstop⟩

theorem Sound.rtspTeardown (hs : h.Sound) (hc : h.Conserved) (mac : Text) :
    (h.step (.rtspTeardown mac)).Sound ∧
      (h.Kept (.rtspTeardown mac) ↔ h.Undisturbed (.rtspTeardown mac)) := by
  by_cases hmac : h.scene.isConnected mac
  · obtain ⟨hsound, hiff, hlost⟩ := hs.disconnect hc hmac
    refine ⟨hsound, fun hk _ => hiff.mp hk.conserved, fun hu => ⟨hiff.mpr (hu hmac), ?_⟩⟩
    intro mac' hmac'
    rw [lostDevice, if_pos hmac] at hmac'
    cases hmac'
    exact hlost (hu hmac)
  · have hstep : h.step (.rtspTeardown mac) = { h with scene := h.scene } := disconnect_of_not hmac
    obtain ⟨hsound, hk⟩ := hs.of_rename hc hstep Follows.refl rfl (if_neg hmac)
    exact ⟨hsound, iff_of_true hk fun hyes => absurd hyes hmac⟩

theorem Sound.p2pThisDeviceChanged (hs : h.Sound) (hc : h.Conserved) (disconnected : Bool) :
    (h.step (.p2pThisDeviceChanged disconnected)).Sound ∧
      (h.Kept (.p2pThisDeviceChanged disconnected) ↔
        h.Undisturbed (.p2pThisDeviceChanged disconnected)) := by
  by_cases hgone : disconnected = true ∧ h.scene.connDev ≠ none
  · obtain ⟨rfl, hsome⟩ := hgone
    obtain ⟨dev, hdev⟩ := Option.ne_none_iff_exists'.mp hsome
    have hstep : h.step (.p2pThisDeviceChanged true) =
        h.after (h.scene.onP2pPeerDisconnected dev.mac) := by
      rw [step]
      unfold WfdSourceScene.onP2pThisDeviceChanged
      rw [if_neg (by simp [hs.p2pInstance]), hdev]
    obtain ⟨hsound, hiff, hlost⟩ := hs.disconnect hc (isConnected_iff.mpr ⟨dev, hdev, rfl⟩)
    rw [← hstep] at hsound hiff hlost
    refine ⟨hsound, fun hk _ _ => hiff.mp hk.conserved, fun hu => ⟨hiff.mpr (hu rfl hsome), ?_⟩⟩
    intro mac hmac
    rw [lostDevice, hdev] at hmac
    cases hmac
    exact hlost (hu rfl hsome)
  · have hstep : h.step (.p2pThisDeviceChanged disconnected) = { h with scene := h.scene } := by
      rw [step]
      unfold WfdSourceScene.onP2pThisDeviceChanged
      split
      · rfl
      · rename_i hgo
        split
        · rfl
        · rename_i dev hdev
          exact absurd ⟨by simpa [hs.p2pInstance] using hgo, by simp [hdev]⟩ hgone
    have hlost : h.lostDevice (.p2pThisDeviceChanged disconnected) = none := by
      cases disconnected with
      | false => rfl
      | true => simpa [lostDevice] using hgone
    obtain ⟨hsound, hk⟩ := hs.of_rename hc hstep Follows.refl rfl hlost
    exact ⟨hsound, iff_of_true hk fun hyes hsome => absurd ⟨hyes, hsome⟩ hgone⟩

theorem Sound.removeDevice (hs : h.Sound) (hc : h.Conserved) (mac : Text) :
    (h.step (.removeDevice mac)).Sound ∧
      (h.Kept (.removeDevice mac) ↔ h.Undisturbed (.removeDevice mac)) := by
  by_cases hmac : h.scene.isConnected mac
  · obtain ⟨dev, hdev, rfl⟩ := isConnected_iff.mp hmac
    have hlost : h.lostDevice (.removeDevice dev.mac) = some dev.mac := if_pos hmac
    by_cases hstate : dev.state = .connected
    · have hstep : h.step (.removeDevice dev.mac) =
          h.loseSink { h.scene with connDev := none } := by
        rw [step]
        unfold WfdSourceScene.handleRemoveDevice
        rw [if_neg (by simp [hs.sharingAdapter]), hdev]
        simp only [ne_eq, not_true_eq_false, hstate, or_self, if_false]
        exact after_loseSink [.teardown dev.contextId dev.agentId] _ rfl rfl (isIdle_p2p rfl)
      have hiff := conserved_loseSink_iff hs hc Follows.drop
      rw [← hstep] at hiff
      refine ⟨hstep ▸ hs.loseSink Follows.drop, fun hk => ?_, fun hu => ?_⟩
      · intro dev' hdev' _
        cases hdev.symm.trans hdev'
        exact ⟨hiff.mp hk.conserved, hstate⟩
      · have hc' := hiff.mpr (hu dev hdev rfl).1
        refine ⟨hc', fun mac' hmac' => ?_⟩
        cases hlost.symm.trans hmac'
        refine ⟨hc'.live_eq_nil ?_, by rw [hstep]; rfl⟩
        rw [hstep]
        exact (hs.loseSink Follows.drop).recorded_eq_nil (hu dev hdev rfl).1
    · have hstep : h.step (.removeDevice dev.mac) = h := by
        rw [step]
        unfold WfdSourceScene.handleRemoveDevice
        rw [if_neg (by simp [hs.sharingAdapter]), hdev]
        simp only [ne_eq, not_true_eq_false, hstate, not_false_eq_true, or_true, if_true]
        rfl
      refine ⟨hstep.symm ▸ hs, iff_of_false (fun hk => ?_) fun hu => hstate (hu dev hdev rfl).2⟩
      have hgone := (hk.lost dev.mac hlost).2
      rw [hstep, hmac] at hgone
      cases hgone
  · have hnot : ∀ dev, h.scene.connDev = some dev → dev.mac ≠ mac :=
      fun dev hdev heq => hmac (isConnected_iff.mpr ⟨dev, hdev, heq⟩)
    have hstep : h.step (.removeDevice mac) = { h with scene := h.scene } := by
      rw [step]
      unfold WfdSourceScene.handleRemoveDevice
      rw [if_neg (by simp [hs.sharingAdapter])]
      split
      · rfl
      · rename_i dev hdev
        rw [if_pos (Or.inl (hnot dev hdev))]
        rfl
    obtain ⟨hsound, hk⟩ := hs.of_rename hc hstep Follows.refl rfl (if_neg hmac)
    exact ⟨hsound, iff_of_true hk fun dev hdev heq => absurd heq (hnot dev hdev)⟩

/-- The agents without the one that is gone. -/
def without (h : SourceHistory) (s : WfdSourceScene) (contextId agentId : Nat) : SourceHistory :=
  { h with scene := s, agents := h.agents.filter fun a => !a.hasIds contextId agentId }

theorem Sound.without (hs : h.Sound) (hf : Follows s h.scene) (contextId agentId : Nat) :
    (h.without s contextId agentId).Sound :=
  hs.follows hf ⟨hs.nodup.sublist (List.filter_sublist.map _),
    fun a ha => hs.le_key a (List.mem_of_mem_filter ha)⟩

theorem conserved_without_iff (hs : h.Sound) (hc : h.Conserved) (hf : Follows s h.scene)
    (hrec : s.recorded = h.scene.recorded) (contextId agentId : Nat) :
    (h.without s contextId agentId).Conserved ↔
      ∀ e ∈ h.scene.recorded, e.2 ≠ (contextId, agentId) := by
  constructor
  · intro hc' e he hids
    rw [← hrec] at he
    obtain ⟨a, ha, rfl⟩ := List.mem_map.mp ((hc'.recorded e).mpr he)
    have hmem := mem_agents_of_mem_live ha
    have hnot := (List.mem_filter.mp hmem).2
    rw [Bool.not_eq_true', Bool.eq_false_iff] at hnot
    exact hnot (SceneAgent.hasIds_iff.mpr
      ⟨congrArg Prod.fst hids, congrArg Prod.snd hids⟩)
  · intro hother
    have hlive : (h.without s contextId agentId).live = h.live := by
      refine List.filter_filter.trans (List.filter_congr fun a ha => ?_)
      by_cases hasked : a.asked
      · simp [hasked]
      · have hentry := (hc.recorded a.entry).mp (List.mem_map_of_mem
          (SceneAgent.mem_live.mpr ⟨ha, by simpa using hasked⟩))
        have hids : a.hasIds contextId agentId = false :=
          Bool.eq_false_iff.mpr fun hyes => hother a.entry hentry
            (Prod.ext (SceneAgent.hasIds_iff.mp hyes).1 (SceneAgent.hasIds_iff.mp hyes).2)
        simp [hids]
    refine Conserved.of_recorded (hs.without hf contextId agentId).toRegistered ?_ hc.destroyedOnce
    rw [hlive]
    change ∀ e, e ∈ h.live.map SceneAgent.entry ↔ e ∈ s.recorded
    rw [hrec]
    exact hc.recorded

theorem Sound.agentDestroyed (hs : h.Sound) (hc : h.Conserved) (contextId agentId : Nat) :
    (h.step (.agentDestroyed contextId agentId)).Sound ∧
      (h.Kept (.agentDestroyed contextId agentId) ↔
        h.Undisturbed (.agentDestroyed contextId agentId)) := by
  have hstep : ∃ s, h.step (.agentDestroyed contextId agentId) = h.without s contextId agentId ∧
      Follows s h.scene ∧ s.recorded = h.scene.recorded := by
    rw [step]
    unfold WfdSourceScene.onInnerDestroy
    split
    · exact ⟨h.scene, rfl, Follows.refl, rfl⟩
    · rename_i dev hdev
      split
      · exact ⟨_, after_of_isIdle (isIdle_ipc rfl), follows_setState hdev .disconnected⟩
      · exact ⟨h.scene, rfl, Follows.refl, rfl⟩
  obtain ⟨s, hstep, hf, hrec⟩ := hstep
  have hiff := conserved_without_iff hs hc hf hrec contextId agentId
  rw [← hstep] at hiff
  exact ⟨hstep ▸ hs.without hf contextId agentId, fun hk => hiff.mp hk.conserved,
    fun hu => ⟨hiff.mpr hu, by rintro _ ⟨⟩⟩⟩

theorem Sound.step (hs : h.Sound) (hc : h.Conserved) (hp : h.Possible call) :
    (h.step call).Sound ∧ (h.Kept call ↔ h.Undisturbed call) := by
  cases call with
  | startDiscovery status =>
    obtain ⟨hsound, hk⟩ := hs.startDiscovery hc status
    exact ⟨hsound, iff_of_true hk trivial⟩
  | addDevice deviceId screenId displayIds =>
    obtain ⟨hsound, hk⟩ := hs.addDevice hc deviceId screenId displayIds
    exact ⟨hsound, iff_of_true hk trivial⟩
  | rtspPlayed mac =>
    obtain ⟨hsound, hk⟩ := hs.rtspPlayed hc mac
    exact ⟨hsound, iff_of_true hk trivial⟩
  | removeDevice mac => exact hs.removeDevice hc mac
  | destroyScreenCapture => exact hs.destroyScreenCapture hc
  | p2pStateChanged state => exact hs.p2pStateChanged hc state
  | p2pConnectionChanged connected owner answers =>
    obtain ⟨hsound, hiff⟩ := hs.joins hc hp
    exact ⟨hsound, fun hk => hiff.mp hk.conserved, fun hu => ⟨hiff.mpr hu, by rintro _ ⟨⟩⟩⟩
  | p2pThisDeviceChanged disconnected => exact hs.p2pThisDeviceChanged hc disconnected
  | rtspTeardown mac => exact hs.rtspTeardown hc mac
  | agentDestroyed contextId agentId => exact hs.agentDestroyed hc contextId agentId

/-- The agents are conserved in every state of a run, and gone with their device, exactly when
no step of it touches them. -/
theorem run_kept_iff (calls : List SourceCall) (hp : AllMeet step Possible {} calls) :
    AllMeet step Kept {} calls ↔ AllMeet step Undisturbed {} calls := by
  refine AllMeet.congr (I := fun h => h.Sound ∧ h.Conserved) (fun h call hinv hp => ?_)
    ⟨Sound.init, Conserved.init⟩ hp
  obtain ⟨hsound, hiff⟩ := hinv.1.step hinv.2 hp
  exact ⟨hiff, fun hk => ⟨hsound, hk.conserved⟩⟩

/-- A device is cast to and plays; it joins again, and an agent of another scene is gone. -/
theorem run_kept_playing : AllMeet step Kept {} [.startDiscovery .started,
    .p2pConnectionChanged true { ip := ['1'], mac := ['A'] } ⟨.created 2 3, 5004, .created 2 7⟩,
    .rtspPlayed ['A'],
    .p2pConnectionChanged true { ip := ['1'], mac := ['A'] } ⟨.refused 0, 5006, .refused 0⟩,
    .removeDevice ['B'], .agentDestroyed 2 5] :=
  (run_kept_iff _ (by decide)).mpr (by decide)

/-- A second device joins while the first is cast to; a device that plays is removed; the screen
capture is destroyed behind the device. -/
theorem castingTwo_not_kept :
    ¬ AllMeet step Kept {} [.startDiscovery .started,
      .p2pConnectionChanged true { ip := ['1'], mac := ['A'] } ⟨.created 2 3, 5004, .created 2 7⟩,
      .p2pConnectionChanged true { ip := ['2'], mac := ['B'] } ⟨.created 2 9, 5006, .created 2 11⟩] ∧
    ¬ AllMeet step Kept {} [.startDiscovery .started,
      .p2pConnectionChanged true { ip := ['1'], mac := ['A'] } ⟨.created 2 3, 5004, .created 2 7⟩,
      .rtspPlayed ['A'], .removeDevice ['A']] ∧
    ¬ AllMeet step Kept {} [.startDiscovery .started,
      .p2pConnectionChanged true { ip := ['1'], mac := ['A'] } ⟨.created 2 3, 5004, .created 2 7⟩,
      .rtspTeardown ['A'], .destroyScreenCapture] := by
  refine ⟨fun h => ?_, fun h => ?_, fun h => ?_⟩
  · have hsame := h.2.2.1.conserved.oneDevice ⟨.src, 2, 7, 3, some ['A'], false⟩ (by decide)
      ⟨.src, 2, 11, 9, some ['B'], false⟩ (by decide) rfl rfl
    exact absurd hsame (by decide)
  · exact absurd (h.2.2.2.1.lost ['A'] rfl).2 (by decide)
  · exact absurd (h.2.2.2.1.conserved.destroyedOnce 3 (by decide)) (by decide)

end SourceHistory

end WifiDisplay
