import WifiDisplay.WfdSinkScene

/-! What the handlers of `WfdSinkScene` can do to it, apart from the second section of
`OnInnerDestroy`: every handler makes a change
of the surfaces and an effect on the connections. -/

namespace WifiDisplay

def ConnectionInfo.agent (info : ConnectionInfo) : Nat × Nat := (info.contextId, info.agentId)

def ConnectionInfo.HasAgent (info : ConnectionInfo) : Prop :=
  info.contextId ≠ invalidId ∧ info.agentId ≠ invalidId

def InnerDestroyGap.agent (gap : InnerDestroyGap) : Nat × Nat := (gap.contextId, gap.agentId)

def SceneAction.isAgentAction : SceneAction → Bool
  | createAgent _ _ | destroyAgent _ _ | agentDestroyed _ _ | innerDestroyErased _ _ _ => true
  | _ => false

def agentActions (actions : List SceneAction) : List SceneAction :=
  actions.filter SceneAction.isAgentAction

@[simp] theorem agentActions_append (l l' : List SceneAction) :
    agentActions (l ++ l') = agentActions l ++ agentActions l' := List.filter_append _ _

namespace WfdSinkScene

/-- What a handler may do to the surfaces, before it goes on with the connections. -/
inductive SurfaceChange (limits : SinkLimits) (s : WfdSinkScene) :
    OrderedMap (BitVec 64) DevSurfaceItem → Prop where
  | unchanged : SurfaceChange limits s s.devSurfaceItemMap
  | appended {deviceId : Text} {itemDev : ConnectionInfo} {surfaceId : BitVec 64}
      {item : DevSurfaceItem} (hdev : s.devConnectionMap.lookup deviceId = some itemDev)
      (hroom : (s.countSurfaces isLive : Int) < limits.surfaceMaximum.toInt)
      (halone : s.countSurfaces (isLiveOf deviceId) = 0) (hitem : item.deviceId = itemDev.mac)
      (hforeground : isForeground item → (s.countSurfaces isForeground : Int) <
        limits.foregroundMaximum.toInt) :
      SurfaceChange limits s (s.devSurfaceItemMap.emplace surfaceId item)
  | sceneTypeSet {surfaceId : BitVec 64} {item : DevSurfaceItem} (sceneType : SceneType)
      (hitem : s.devSurfaceItemMap.find? surfaceId = some item)
      (hforeground : sceneType = .foreground →
        1 + (s.devSurfaceItemMap.erase surfaceId).toList.countP (fun e => isForeground e.2) ≤
          limits.foregroundMaximum.toNat) :
      SurfaceChange limits s
        (s.devSurfaceItemMap.assign surfaceId { item with sceneType := sceneType })
  | removed (p : BitVec 64 × DevSurfaceItem → Bool) :
      SurfaceChange limits s (s.devSurfaceItemMap.filter p)

/-- What a handler may do to the connections, with the calls about agents that go with it.
`created` holds the ids that a `CreateAgent` would return. -/
inductive Effect (limits : SinkLimits) (created : Nat × Nat) (s : WfdSinkScene) :
    List SceneAction → WfdSinkScene → Prop where
  | unchanged : Effect limits created s [] s
  | flagsSet (running adapter : Bool) :
      Effect limits created s [] { s with isSinkRunning := running, sharingAdapter := adapter }
  | entryUpdated {mac : Text} {info : ConnectionInfo} (info' : ConnectionInfo)
      (hinfo : s.devConnectionMap.lookup mac = some info) (hmac : info'.mac = info.mac)
      (hagent : info'.agent = info.agent) : Effect limits created s [] (s.updateConnection mac info')
  | deviceConnected (info : ConnectionInfo) (hagent : info.HasAgent) (hcreated : info.agent = created)
      (hroom : s.devConnectionMap.keys.length < limits.accessDevMaximum.toNat)
      (hnew : info.mac ∉ s.devConnectionMap) :
      Effect limits created s [.createAgent info.contextId info.agentId] (s.updateConnection info.mac info)
  | deviceReleased {mac : Text} {info : ConnectionInfo} {actions : List SceneAction}
      (hinfo : s.devConnectionMap.lookup mac = some info)
      (hactions : actions = [.destroyAgent info.contextId info.agentId] ∨
        actions = [] ∧ (s.sharingAdapter = false ∨ ¬ info.HasAgent)) :
      Effect limits created s actions (s.releaseDevice mac)
  | stopped : Effect limits created s (agentActions s.wfdP2pStop.actions) s.wfdP2pStop.scene
  | agentReported (contextId agentId : Nat) (gaps : List InnerDestroyGap)
      (hgaps : ∀ gap ∈ gaps, gap ∈ s.gaps ∨ gap.agent = (contextId, agentId) ∧
        ∃ info, s.devConnectionMap.lookup gap.item = some info ∧ info.agent = gap.agent) :
      Effect limits created s [.agentDestroyed contextId agentId] { s with gaps := gaps }

/-- A handler changes the surfaces and then the connections. -/
def Handles (limits : SinkLimits) (created : Nat × Nat) (s : WfdSinkScene) (actions : List SceneAction)
    (s' : WfdSinkScene) : Prop :=
  ∃ items, SurfaceChange limits s items ∧
    Effect limits created { s with devSurfaceItemMap := items } actions s'

variable {limits : SinkLimits} {created : Nat × Nat} {s s' : WfdSinkScene}
  {actions : List SceneAction}

theorem Handles.same : Handles limits created s [] s := ⟨_, .unchanged, .unchanged⟩

theorem SurfaceChange.handles {items : OrderedMap (BitVec 64) DevSurfaceItem}
    (h : SurfaceChange limits s items) :
    Handles limits created s [] { s with devSurfaceItemMap := items } := ⟨items, h, .unchanged⟩

theorem Effect.handles (h : Effect limits created s actions s') : Handles limits created s actions s' :=
  ⟨_, .unchanged, h⟩

theorem lookup_of_find?_entries {p : (Σ _ : Text, ConnectionInfo) → Bool}
    {item : Σ _ : Text, ConnectionInfo} (h : s.devConnectionMap.entries.find? p = some item) :
    s.devConnectionMap.lookup item.1 = some item.2 :=
  AList.mem_lookup_iff.mpr (List.mem_of_find?_eq_some h)

theorem foreground_of_newSurfaceItem {itemDev : ConnectionInfo}
    (h : isForeground (s.newSurfaceItem limits itemDev)) :
    (s.countSurfaces isForeground : Int) < limits.foregroundMaximum.toInt := by
  by_contra hfull
  rw [isForeground, newSurfaceItem, if_pos (by omega)] at h
  cases h

theorem handleAppendSurface_handles (deviceId : Text) (surface : Option (BitVec 64)) :
    Handles limits created s (agentActions (s.handleAppendSurface limits deviceId surface).actions)
      (s.handleAppendSurface limits deviceId surface).scene := by
  unfold handleAppendSurface
  split
  · exact .same
  split
  · exact .same
  rename_i itemDev hdev
  split
  · exact .same
  rename_i hroom
  split
  · exact .same
  split
  · exact .same
  split
  · exact .same
  rename_i surfaceId _ halone
  have happended : SurfaceChange limits s
      (s.devSurfaceItemMap.emplace surfaceId (s.newSurfaceItem limits itemDev)) := by
    apply SurfaceChange.appended hdev (by omega) _ rfl
    · intro hforeground
      exact foreground_of_newSurfaceItem hforeground
    · rw [countSurfaces, List.countP_eq_zero]
      simpa using halone
  split
  · exact ⟨_, happended, .entryUpdated { itemDev with state := .playing } hdev rfl rfl⟩
  · exact happended.handles

theorem handleRemoveSurface_handles (deviceId : Text) (surfaceId : BitVec 64) :
    Handles limits created s (agentActions (s.handleRemoveSurface deviceId surfaceId).actions)
      (s.handleRemoveSurface deviceId surfaceId).scene := by
  unfold handleRemoveSurface
  split
  · exact .same
  split
  · exact .same
  split
  · exact .same
  split <;> exact .same

theorem updateSurfaceSceneType_handles (deviceId : Text) (surfaceId : BitVec 64)
    (sceneType : SceneType) :
    Handles limits created s []
      (s.updateSurfaceSceneType limits deviceId surfaceId sceneType).scene ∧
    agentActions (s.updateSurfaceSceneType limits deviceId surfaceId sceneType).actions = [] := by
  unfold updateSurfaceSceneType
  split
  · exact ⟨.same, rfl⟩
  split
  · exact ⟨.same, rfl⟩
  rename_i item hitem
  split
  · exact ⟨.same, rfl⟩
  rename_i hlive
  split
  · exact ⟨.same, rfl⟩
  cases sceneType with
  | background =>
    exact ⟨(SurfaceChange.sceneTypeSet .background hitem fun h => nomatch h).handles, rfl⟩
  | foreground =>
    -- a surface that is not marked deleting leaves the others with another id to be counted
    have hothers : (s.devSurfaceItemMap.erase surfaceId).toList.countP (fun e => isForeground e.2) =
        s.devSurfaceItemMap.toList.countP fun e =>
          !(e.1 = surfaceId && !e.2.deleting) && isForeground e.2 := by
      rw [OrderedMap.erase, List.countP_filter]
      apply List.countP_congr
      intro e he
      by_cases hkey : e.1 = surfaceId
      · have heq : e.2 = item := s.devSurfaceItemMap.value_unique (hkey ▸ he) (OrderedMap.mem_of_find? hitem)
        simp [hkey, heq, hlive]
      · simp [hkey]
    dsimp only
    split
    · exact ⟨.same, rfl⟩
    · rename_i hroom
      exact ⟨(SurfaceChange.sceneTypeSet .foreground hitem fun _ => by omega).handles, rfl⟩

theorem handleSetSceneType_handles (deviceId : Text) (surfaceId : BitVec 64)
    (sceneType : SceneType) :
    Handles limits created s
      (agentActions (s.handleSetSceneType limits deviceId surfaceId sceneType).actions)
      (s.handleSetSceneType limits deviceId surfaceId sceneType).scene := by
  obtain ⟨hhandles, hactions⟩ :=
    @updateSurfaceSceneType_handles limits created s deviceId surfaceId sceneType
  unfold handleSetSceneType
  split
  · exact .same
  dsimp only
  split
  · simpa only [hactions] using hhandles
  · split
    · exact hhandles
    · cases sceneType with
      | background => exact hhandles
      | foreground => exact hhandles

theorem handlePlay_handles (deviceId : Text) :
    Handles limits created s (agentActions (s.handlePlay deviceId).actions) (s.handlePlay deviceId).scene := by
  unfold handlePlay
  split
  · exact .same
  split
  · exact .same
  rename_i itemDev hdev
  split
  · exact .same
  split
  · exact .same
  · exact (Effect.entryUpdated { itemDev with isRunning := true } hdev rfl rfl).handles

theorem handleClose_handles (deviceId : Text) :
    Handles limits created s (agentActions (s.handleClose deviceId).actions)
      (s.handleClose deviceId).scene := by
  unfold handleClose
  split
  · exact .same
  split
  · exact .same
  rename_i itemDev hdev
  dsimp only
  split
  · rename_i hagent
    have hnone : ¬ itemDev.HasAgent := fun h => absurd hagent (not_or.mpr h)
    exact (Effect.deviceReleased hdev (Or.inr ⟨rfl, Or.inr hnone⟩)).handles
  · exact (Effect.deviceReleased hdev (Or.inl rfl)).handles

theorem onP2pPeerConnected_handles (info : ConnectionInfo) :
    Handles limits created s (agentActions (s.onP2pPeerConnected limits info created).actions)
      (s.onP2pPeerConnected limits info created).scene := by
  unfold onP2pPeerConnected
  split
  · exact .same
  split
  · exact .same
  split
  · exact .same
  split
  · exact .same
  rename_i hroom
  split
  · exact .same
  rename_i hnew
  rw [createSinkAgentLocked]
  split
  · exact .same
  · rename_i hagent
    exact (Effect.deviceConnected { info with contextId := created.1, agentId := created.2 }
      (not_or.mp hagent) rfl (Nat.not_le.mp hroom) hnew).handles

theorem onP2pPeerDisconnected_handles (info : ConnectionInfo) :
    Handles limits created s (agentActions (s.onP2pPeerDisconnected info).actions)
      (s.onP2pPeerDisconnected info).scene := by
  unfold onP2pPeerDisconnected
  split
  · exact .same
  split
  · exact .same
  rename_i itemDev hdev
  dsimp only
  split
  · rename_i hagent
    have hnone : ¬ itemDev.HasAgent := fun h => absurd hagent (not_or.mpr h)
    exact (Effect.deviceReleased hdev (Or.inr ⟨rfl, Or.inr hnone⟩)).handles
  · exact (Effect.deviceReleased hdev (Or.inl rfl)).handles

theorem onP2pPeerDisconnectedMac_handles (mac : Text) :
    Handles limits created s (agentActions (s.onP2pPeerDisconnectedMac mac).actions)
      (s.onP2pPeerDisconnectedMac mac).scene := by
  unfold onP2pPeerDisconnectedMac
  split
  · exact .same
  rename_i itemDev hdev
  dsimp only
  split
  · rename_i hagent
    have hnone : ¬ itemDev.HasAgent := fun h => absurd hagent (not_or.mpr h)
    exact (Effect.deviceReleased hdev (Or.inr ⟨rfl, Or.inr hnone⟩)).handles
  · apply Effect.handles
    apply Effect.deviceReleased hdev
    cases hadapter : s.sharingAdapter with
    | false => exact Or.inr ⟨rfl, Or.inl rfl⟩
    | true => exact Or.inl rfl

theorem onInnerDestroy_handles (contextId agentId : Nat) :
    Handles limits created s (agentActions (s.onInnerDestroy contextId agentId).actions)
      (s.onInnerDestroy contextId agentId).scene := by
  have hremoved : SurfaceChange limits s
      (s.devSurfaceItemMap.filter fun e => !isSurfaceOf contextId agentId e.2) := .removed _
  unfold onInnerDestroy
  dsimp only
  split
  · exact ⟨_, hremoved, .agentReported contextId agentId s.gaps fun _ hgap => Or.inl hgap⟩
  · rename_i item hitem
    have hentry := lookup_of_find?_entries hitem
    have hof : isEntryOf contextId agentId item.2 = true := by simpa using List.find?_some hitem
    refine ⟨_, hremoved, .agentReported contextId agentId _ ?_⟩
    intro gap hgap
    rcases List.mem_append.mp hgap with hgap | hgap
    · exact Or.inl hgap
    rw [List.mem_singleton] at hgap
    subst hgap
    refine Or.inr ⟨rfl, item.2, hentry, ?_⟩
    simp only [isEntryOf, Bool.and_eq_true, decide_eq_true_eq] at hof
    rw [ConnectionInfo.agent, ← hof.1, ← hof.2]
    rfl

theorem onRtspPlayed_handles (mac : Text) :
    Handles limits created s (agentActions (s.onRtspPlayed mac).actions) (s.onRtspPlayed mac).scene := by
  unfold onRtspPlayed
  split
  · exact .same
  · rename_i itemDev hdev
    exact (Effect.entryUpdated { itemDev with state := .playing } hdev rfl rfl).handles

theorem onAccelerationDone_handles (contextId agentId : Nat) (surfaceId : BitVec 64) :
    Handles limits created s (agentActions (s.onAccelerationDone contextId agentId surfaceId).actions)
      (s.onAccelerationDone contextId agentId surfaceId).scene := by
  unfold onAccelerationDone
  split
  · exact .same
  · rename_i item hitem
    exact (Effect.entryUpdated { item.2 with surfaceId := surfaceId }
      (lookup_of_find?_entries hitem) rfl rfl).handles

theorem onStateRemoveSurface_handles (surfaceId : BitVec 64) :
    Handles limits created s (agentActions (s.onStateRemoveSurface surfaceId).actions)
      (s.onStateRemoveSurface surfaceId).scene :=
  (SurfaceChange.removed fun e => e.1 ≠ surfaceId).handles

/-- Every entry is under the address that it holds. -/
def Keyed (s : WfdSinkScene) : Prop :=
  ∀ mac info, s.devConnectionMap.lookup mac = some info → info.mac = mac

theorem Keyed.update (hs : s.Keyed) {mac : Text} {info : ConnectionInfo} (hmac : info.mac = mac) :
    (s.updateConnection mac info).Keyed := by
  intro mac' info' h
  by_cases heq : mac' = mac
  · subst heq
    have hself : some info = some info' := (AList.lookup_insert s.devConnectionMap).symm.trans h
    cases hself
    exact hmac
  · exact hs mac' info' ((AList.lookup_insert_ne heq).symm.trans h)

theorem Keyed.erase (hs : s.Keyed) (mac : Text) : (s.eraseConnection mac).Keyed := by
  intro mac' info h
  by_cases heq : mac' = mac
  · subst heq
    exact absurd ((AList.lookup_erase mac' s.devConnectionMap).symm.trans h) (by simp)
  · exact hs mac' info ((AList.lookup_erase_ne heq).symm.trans h)

theorem Effect.keyed (h : Effect limits created s actions s') (hs : s.Keyed) : s'.Keyed := by
  cases h with
  | unchanged => exact hs
  | flagsSet => exact hs
  | entryUpdated info' hinfo hmac _ => exact hs.update (hmac.trans (hs _ _ hinfo))
  | deviceConnected info => exact hs.update rfl
  | @deviceReleased mac => exact Keyed.erase (s := s.markDeleting mac) hs mac
  | stopped =>
    intro mac info h
    exact absurd ((AList.lookup_empty mac).symm.trans h) (by simp)
  | agentReported => exact hs

theorem Handles.keyed (h : Handles limits created s actions s') (hs : s.Keyed) : s'.Keyed := by
  obtain ⟨items, -, heffect⟩ := h
  exact heffect.keyed hs

/-- The second section of `OnInnerDestroy` whose reference is good erases the entry it found. -/
theorem onInnerDestroyLocked_cases {n : Nat} {freed : Option Text} {result : SceneResult Unit}
    (h : s.onInnerDestroyLocked n freed = .ok result) (hkeyed : s.Keyed)
    (hgood : ∀ gap ∈ s.gaps[n]?, gap.dangling = false) :
    result = ⟨s, [], ()⟩ ∨ ∃ gap info, s.gaps[n]? = some gap ∧
      s.devConnectionMap.lookup gap.item = some info ∧
      result.scene = eraseConnection { s with gaps := s.gaps.eraseIdx n } gap.item ∧
      agentActions result.actions =
        [.innerDestroyErased gap.contextId gap.agentId (some info)] := by
  unfold onInnerDestroyLocked at h
  split at h
  · cases h
    exact Or.inl rfl
  · rename_i gap hgap
    rw [if_neg (by simp [hgood gap hgap])] at h
    cases hinfo : s.devConnectionMap.lookup gap.item with
    | none =>
      rw [hinfo] at h
      cases h
    | some info =>
      rw [hinfo] at h
      cases h
      refine Or.inr ⟨gap, info, hgap, hinfo, ?_, ?_⟩
      · rw [hkeyed _ _ hinfo]
      · rw [hkeyed _ _ hinfo, hinfo]
        rfl

end WfdSinkScene

namespace SceneState

open WfdSinkScene

variable {limits : SinkLimits} {s s' : SceneState} {call : SceneCall}

theorem step_cases (h : s.step limits call = .ok s') :
    s'.key = s.nextKey call.created ∧
    ((∃ n freed result, call = .innerDestroyLocked n freed ∧
      s.scene.onInnerDestroyLocked n freed = .ok result ∧ s' = s.after result) ∨
    (∀ n freed, call ≠ .innerDestroyLocked n freed) ∧
      ∃ actions, Handles limits (s.createdIds call.created) s.scene actions s'.scene ∧
        agentActions s'.trace = agentActions s.trace ++ actions) := by
  have hafter : ∀ {ρ : Type} {result : SceneResult ρ},
      Handles limits (s.createdIds call.created) s.scene (agentActions result.actions) result.scene →
      ∃ actions, Handles limits (s.createdIds call.created) s.scene actions (s.after result).scene ∧
        agentActions (s.after result).trace = agentActions s.trace ++ actions := by
    intro ρ result hhandles
    exact ⟨_, hhandles, agentActions_append _ _⟩
  cases call with
  | innerDestroyLocked n freed =>
    cases hresult : s.scene.onInnerDestroyLocked n freed with
    | error e =>
      rw [step, hresult] at h
      cases h
    | ok result =>
      rw [step, hresult] at h
      cases h
      exact ⟨rfl, Or.inl ⟨n, freed, result, rfl, hresult, rfl⟩⟩
  | setSinkRunning running =>
    cases h
    exact ⟨rfl, Or.inr ⟨nofun, [], (Effect.flagsSet _ _).handles, (List.append_nil _).symm⟩⟩
  | adapterExpired =>
    cases h
    exact ⟨rfl, Or.inr ⟨nofun, [], (Effect.flagsSet _ _).handles, (List.append_nil _).symm⟩⟩
  | appendSurface deviceId surface =>
    cases h
    exact ⟨rfl, Or.inr ⟨nofun, hafter ((handleAppendSurface_handles deviceId surface))⟩⟩
  | removeSurface deviceId surfaceId =>
    cases h
    exact ⟨rfl, Or.inr ⟨nofun, hafter ((handleRemoveSurface_handles deviceId surfaceId))⟩⟩
  | setSceneType deviceId surfaceId sceneType =>
    cases h
    exact ⟨rfl, Or.inr ⟨nofun, hafter ((handleSetSceneType_handles deviceId surfaceId sceneType))⟩⟩
  | play deviceId =>
    cases h
    exact ⟨rfl, Or.inr ⟨nofun, hafter ((handlePlay_handles deviceId))⟩⟩
  | close deviceId =>
    cases h
    exact ⟨rfl, Or.inr ⟨nofun, hafter ((handleClose_handles deviceId))⟩⟩
  | peerConnected info created =>
    cases h
    exact ⟨rfl, Or.inr ⟨nofun, hafter ((onP2pPeerConnected_handles info))⟩⟩
  | peerDisconnected info =>
    cases h
    exact ⟨rfl, Or.inr ⟨nofun, hafter ((onP2pPeerDisconnected_handles info))⟩⟩
  | peerDisconnectedMac mac =>
    cases h
    exact ⟨rfl, Or.inr ⟨nofun, hafter ((onP2pPeerDisconnectedMac_handles mac))⟩⟩
  | p2pStop =>
    cases h
    exact ⟨rfl, Or.inr ⟨nofun, hafter (Effect.stopped.handles)⟩⟩
  | rtspPlayed mac =>
    cases h
    exact ⟨rfl, Or.inr ⟨nofun, hafter ((onRtspPlayed_handles mac))⟩⟩
  | accelerationDone contextId agentId surfaceId =>
    cases h
    exact ⟨rfl, Or.inr ⟨nofun, hafter ((onAccelerationDone_handles contextId agentId surfaceId))⟩⟩
  | stateRemoveSurface surfaceId =>
    cases h
    exact ⟨rfl, Or.inr ⟨nofun, hafter ((onStateRemoveSurface_handles surfaceId))⟩⟩
  | innerDestroy contextId agentId =>
    cases h
    exact ⟨rfl, Or.inr ⟨nofun, hafter ((onInnerDestroy_handles contextId agentId))⟩⟩

/-- A peer of which only the address is known. -/
def peer (mac : String) : ConnectionInfo := { mac := mac.toList, state := .connected }

end SceneState

end WifiDisplay
