import WifiDisplay.GuardedRuns
import WifiDisplay.WfdSinkSceneEffects

/-! The limits of a sink on devices, surfaces and foreground surfaces, in every run of its
handlers in which `OnInnerDestroy` does not erase the entry of a device that has a surface. -/

namespace WifiDisplay

def SinkLimits.Nonneg (limits : SinkLimits) : Prop :=
  0 ≤ limits.surfaceMaximum.toInt ∧ 0 ≤ limits.accessDevMaximum.toInt ∧
    0 ≤ limits.foregroundMaximum.toInt

instance (limits : SinkLimits) : Decidable limits.Nonneg := inferInstanceAs (Decidable (_ ∧ _))

theorem toInt_eq_toNat {x : BitVec 32} (h : 0 ≤ x.toInt) : x.toInt = x.toNat := by
  rw [BitVec.toInt_eq_toNat_cond] at h ⊢
  have := x.isLt
  split at h
  · rw [if_pos (by assumption)]
  · omega

section Keys

variable {α β : Type*} [DecidableEq α] (m : AList fun _ : α => β) {a : α} (b : β)

theorem length_keys_erase_le (a : α) : (m.erase a).keys.length ≤ m.keys.length := by
  rw [AList.keys_erase]
  exact List.length_erase_le

theorem length_keys_insert_le : (m.insert a b).keys.length ≤ m.keys.length + 1 := by
  rw [AList.keys_insert, List.length_cons]
  exact Nat.succ_le_succ List.length_erase_le

theorem length_keys_insert_of_mem (h : a ∈ m) : (m.insert a b).keys.length = m.keys.length := by
  have hpos := List.length_pos_of_mem (AList.mem_keys.mp h)
  rw [AList.keys_insert, List.length_cons, List.length_erase_of_mem (AList.mem_keys.mp h)]
  omega

end Keys

namespace WfdSinkScene

structure WithinLimits (limits : SinkLimits) (s : WfdSinkScene) : Prop where
  devices : (s.devConnectionMap.keys.length : Int) ≤ limits.accessDevMaximum.toInt
  surfaces : (s.countSurfaces isLive : Int) ≤ limits.surfaceMaximum.toInt
  perDevice : ∀ deviceId, s.countSurfaces (isLiveOf deviceId) ≤ 1
  connected : ∀ e ∈ s.devSurfaceItemMap, isLive e.2 → e.2.deviceId ∈ s.devConnectionMap
  foreground : (s.countSurfaces isForeground : Int) ≤ limits.foregroundMaximum.toInt

variable {limits : SinkLimits} {created : Nat × Nat} {s s' : WfdSinkScene}
  {actions : List SceneAction}

/-- Counts of surfaces only go down, and no surface comes to life. -/
structure SurfacesFewer (s s' : WfdSinkScene) : Prop where
  live : s'.countSurfaces isLive ≤ s.countSurfaces isLive
  liveOf : ∀ deviceId, s'.countSurfaces (isLiveOf deviceId) ≤ s.countSurfaces (isLiveOf deviceId)
  foreground : s'.countSurfaces isForeground ≤ s.countSurfaces isForeground

theorem WithinLimits.fewer (hs : s.WithinLimits limits) (h : SurfacesFewer s s')
    (hdevices : s'.devConnectionMap.keys.length ≤ s.devConnectionMap.keys.length)
    (hconnected : ∀ e ∈ s'.devSurfaceItemMap, isLive e.2 → e.2.deviceId ∈ s'.devConnectionMap) :
    s'.WithinLimits limits := by
  have h₁ := hs.devices
  have h₂ := hs.surfaces
  have h₃ := hs.foreground
  have h₄ := h.live
  have h₅ := h.foreground
  constructor
  case devices => omega
  case surfaces => omega
  case perDevice => exact fun deviceId => (h.liveOf deviceId).trans (hs.perDevice deviceId)
  case connected => exact hconnected
  case foreground => omega

theorem surfacesFewer_filter (p : BitVec 64 × DevSurfaceItem → Bool) :
    SurfacesFewer s { s with devSurfaceItemMap := s.devSurfaceItemMap.filter p } := by
  have hsub : (s.devSurfaceItemMap.toList.filter p).Sublist s.devSurfaceItemMap.toList :=
    List.filter_sublist
  exact ⟨hsub.countP_le, fun _ => hsub.countP_le, hsub.countP_le⟩

theorem mem_markDeleting {mac : Text} {e : BitVec 64 × DevSurfaceItem}
    (he : e ∈ (s.markDeleting mac).devSurfaceItemMap) (hlive : isLive e.2) :
    e ∈ s.devSurfaceItemMap ∧ e.2.deviceId ≠ mac := by
  obtain ⟨item, hitem, hmark⟩ := OrderedMap.mem_mapValues.mp he
  by_cases hmac : item.deviceId = mac
  · rw [if_pos hmac] at hmark
    rw [← hmark] at hlive
    cases hlive
  · rw [if_neg hmac] at hmark
    subst hmark
    exact ⟨hitem, hmac⟩

theorem countSurfaces_markDeleting {mac : Text} {p : DevSurfaceItem → Bool}
    (hp : ∀ item, p { item with deleting := true } → p item) :
    (s.markDeleting mac).countSurfaces p ≤ s.countSurfaces p := by
  rw [countSurfaces, markDeleting, OrderedMap.mapValues, List.countP_map]
  apply List.countP_mono_left
  intro e _ he
  dsimp only [Function.comp_apply] at he
  split at he
  · exact hp _ he
  · exact he

theorem surfacesFewer_markDeleting (mac : Text) : SurfacesFewer s (s.markDeleting mac) := by
  constructor
  case live => exact countSurfaces_markDeleting fun _ h => nomatch h
  case liveOf =>
    intro deviceId
    apply countSurfaces_markDeleting
    intro item h
    simp [isLiveOf] at h
  case foreground => exact countSurfaces_markDeleting fun _ h => h

theorem WithinLimits.eraseConnection (hs : s.WithinLimits limits) {mac : Text}
    (hnone : ∀ e ∈ s.devSurfaceItemMap, isLive e.2 → e.2.deviceId ≠ mac) :
    (s.eraseConnection mac).WithinLimits limits := by
  have hfewer : SurfacesFewer s (s.eraseConnection mac) := ⟨le_rfl, fun _ => le_rfl, le_rfl⟩
  apply hs.fewer hfewer (length_keys_erase_le _ mac)
  intro e he hlive
  exact AList.mem_erase.mpr ⟨hnone e he hlive, hs.connected e he hlive⟩

theorem WithinLimits.releaseDevice (hs : s.WithinLimits limits) (mac : Text) :
    (s.releaseDevice mac).WithinLimits limits := by
  have hmarked : (s.markDeleting mac).WithinLimits limits := by
    apply hs.fewer (surfacesFewer_markDeleting mac) le_rfl
    intro e he hlive
    exact hs.connected e (mem_markDeleting he hlive).1 hlive
  exact hmarked.eraseConnection fun e he hlive => (mem_markDeleting he hlive).2

theorem WithinLimits.update (hs : s.WithinLimits limits) {mac : Text} {info : ConnectionInfo}
    (hroom : mac ∈ s.devConnectionMap ∨
      (s.devConnectionMap.keys.length : Int) < limits.accessDevMaximum.toInt) :
    (s.updateConnection mac info).WithinLimits limits := by
  constructor
  case devices =>
    have hle := hs.devices
    show ((s.devConnectionMap.insert mac info).keys.length : Int) ≤ _
    rcases hroom with hmem | hlt
    · rwa [length_keys_insert_of_mem _ _ hmem]
    · have hlength := length_keys_insert_le s.devConnectionMap (a := mac) info
      omega
  case surfaces => exact hs.surfaces
  case perDevice => exact hs.perDevice
  case connected =>
    intro e he hlive
    exact (AList.mem_insert _).mpr (Or.inr (hs.connected e he hlive))
  case foreground => exact hs.foreground

theorem WithinLimits.surfaceAppended (hs : s.WithinLimits limits) {deviceId : Text}
    {surfaceId : BitVec 64} {item : DevSurfaceItem} (hdev : deviceId ∈ s.devConnectionMap)
    (hroom : (s.countSurfaces isLive : Int) < limits.surfaceMaximum.toInt)
    (halone : s.countSurfaces (isLiveOf deviceId) = 0) (hitem : item.deviceId = deviceId)
    (hforeground : isForeground item → (s.countSurfaces isForeground : Int) <
      limits.foregroundMaximum.toInt) :
    WithinLimits limits
      { s with devSurfaceItemMap := s.devSurfaceItemMap.emplace surfaceId item } := by
  have hcount := fun p : DevSurfaceItem → Bool =>
    s.devSurfaceItemMap.countP_emplace_le surfaceId item fun e => p e.2
  constructor
  case devices => exact hs.devices
  case surfaces =>
    have hlive := hcount isLive
    simp only [countSurfaces] at hroom ⊢
    split at hlive <;> omega
  case perDevice =>
    intro deviceId'
    have hlive := hcount (isLiveOf deviceId')
    have hold := hs.perDevice deviceId'
    simp only [countSurfaces] at halone hold ⊢
    by_cases hof : deviceId' = deviceId
    · subst hof
      split at hlive <;> omega
    · have hnot : isLiveOf deviceId' item = false := by
        simp [isLiveOf, hitem, Ne.symm hof]
      rw [hnot] at hlive
      simpa using hlive.trans hold
  case connected =>
    intro e he hlive
    rcases OrderedMap.mem_of_mem_emplace he with rfl | he
    · exact hitem ▸ hdev
    · exact hs.connected e he hlive
  case foreground =>
    have hfg := hcount isForeground
    have hold := hs.foreground
    simp only [countSurfaces] at hforeground hold ⊢
    split at hfg
    · have := hforeground (by assumption)
      omega
    · omega

theorem WithinLimits.sceneTypeSet (hs : s.WithinLimits limits) {surfaceId : BitVec 64}
    {item : DevSurfaceItem} {sceneType : SceneType} (hlimits : limits.Nonneg)
    (hitem : s.devSurfaceItemMap.find? surfaceId = some item)
    (hforeground : sceneType = .foreground →
      1 + (s.devSurfaceItemMap.erase surfaceId).toList.countP (fun e => isForeground e.2) ≤
        limits.foregroundMaximum.toNat) :
    WithinLimits limits { s with
      devSurfaceItemMap :=
        s.devSurfaceItemMap.assign surfaceId { item with sceneType := sceneType } } := by
  have hmem := OrderedMap.mem_of_find? hitem
  have hcount := fun p : DevSurfaceItem → Bool =>
    s.devSurfaceItemMap.countP_assign_le surfaceId { item with sceneType := sceneType } fun e => p e.2
  have hold : ∀ p : DevSurfaceItem → Bool, s.devSurfaceItemMap.toList.countP (fun e => p e.2) =
      (s.devSurfaceItemMap.erase surfaceId).toList.countP (fun e => p e.2) +
        if p item then 1 else 0 :=
    fun p => OrderedMap.countP_erase hmem fun e => p e.2
  constructor
  case devices => exact hs.devices
  case surfaces =>
    have hsame : isLive { item with sceneType := sceneType } = isLive item := rfl
    have hle := hs.surfaces
    have hnew := hcount isLive
    have heq := hold isLive
    rw [hsame] at hnew
    simp only [countSurfaces] at hle ⊢
    omega
  case perDevice =>
    intro deviceId
    have hsame : isLiveOf deviceId { item with sceneType := sceneType } = isLiveOf deviceId item :=
      rfl
    have hle := hs.perDevice deviceId
    have hnew := hcount (isLiveOf deviceId)
    have heq := hold (isLiveOf deviceId)
    rw [hsame] at hnew
    simp only [countSurfaces] at hle ⊢
    omega
  case connected =>
    intro e he hlive
    rcases OrderedMap.mem_of_mem_emplace he with rfl | he
    · exact hs.connected (surfaceId, item) hmem hlive
    · exact hs.connected e (OrderedMap.mem_erase.mp he).1 hlive
  case foreground =>
    have hle := hs.foreground
    have hnew := hcount isForeground
    have heq := hold isForeground
    have hmax := toInt_eq_toNat hlimits.2.2
    simp only [countSurfaces] at hle ⊢
    cases sceneType with
    | foreground =>
      have hroom := hforeground rfl
      split at hnew <;> omega
    | background =>
      have hnot : isForeground { item with sceneType := .background } = false := rfl
      rw [hnot] at hnew
      simp only [Bool.false_eq_true, if_false] at hnew
      omega

theorem SurfaceChange.withinLimits {items : OrderedMap (BitVec 64) DevSurfaceItem}
    (h : SurfaceChange limits s items) (hlimits : limits.Nonneg) (hkeyed : s.Keyed)
    (hs : s.WithinLimits limits) : WithinLimits limits { s with devSurfaceItemMap := items } := by
  cases h with
  | unchanged => exact hs
  | appended hdev hroom halone hitem hforeground =>
    exact hs.surfaceAppended (AList.lookup_isSome.mp (Option.isSome_of_eq_some hdev)) hroom halone
      (hitem.trans (hkeyed _ _ hdev)) hforeground
  | sceneTypeSet sceneType hitem hforeground => exact hs.sceneTypeSet hlimits hitem hforeground
  | removed p =>
    apply hs.fewer (surfacesFewer_filter p) le_rfl
    intro e he hlive
    exact hs.connected e (OrderedMap.mem_filter.mp he).1 hlive

theorem Effect.withinLimits (h : Effect limits created s actions s') (hlimits : limits.Nonneg)
    (hs : s.WithinLimits limits) : s'.WithinLimits limits := by
  cases h with
  | unchanged => exact hs
  | flagsSet => exact ⟨hs.devices, hs.surfaces, hs.perDevice, hs.connected, hs.foreground⟩
  | entryUpdated info' hinfo _ _ =>
    exact hs.update (Or.inl (AList.lookup_isSome.mp (Option.isSome_of_eq_some hinfo)))
  | deviceConnected info hagent hroom hnew =>
    refine hs.update (Or.inr ?_)
    have := toInt_eq_toNat hlimits.2.1
    omega
  | deviceReleased => exact hs.releaseDevice _
  | stopped =>
    obtain ⟨h₁, h₂, h₃⟩ := hlimits
    exact ⟨h₂, h₁, fun _ => Nat.zero_le _, fun e he => (List.not_mem_nil he).elim, h₃⟩
  | agentReported => exact ⟨hs.devices, hs.surfaces, hs.perDevice, hs.connected, hs.foreground⟩

theorem Handles.withinLimits (h : Handles limits created s actions s') (hlimits : limits.Nonneg)
    (hkeyed : s.Keyed) (hs : s.WithinLimits limits) : s'.WithinLimits limits := by
  obtain ⟨items, hsurfaces, heffect⟩ := h
  exact heffect.withinLimits hlimits (hsurfaces.withinLimits hlimits hkeyed hs)

end WfdSinkScene

namespace SceneState

open WfdSinkScene

variable {limits : SinkLimits} {s s' : SceneState} {call : SceneCall} {calls : List SceneCall}

/-- `OnInnerDestroy` goes on with the entry that it found still in the map, and no surface
appended to that device while it had released `mutex_`. -/
def ErasesUnused (s : SceneState) : SceneCall → Prop
  | .innerDestroyLocked n _ => ∀ gap ∈ s.scene.gaps[n]?,
      gap.dangling = false ∧ s.scene.countSurfaces (isLiveOf gap.item) = 0
  | _ => True

instance (s : SceneState) : DecidablePred s.ErasesUnused
  | .appendSurface .. | .removeSurface .. | .setSceneType .. | .play .. | .close .. | .peerConnected ..
  | .peerDisconnected .. | .peerDisconnectedMac .. | .setSinkRunning .. | .p2pStop | .rtspPlayed ..
  | .accelerationDone .. | .stateRemoveSurface .. | .innerDestroy .. | .innerDestroyLocked ..
  | .adapterExpired => by unfold ErasesUnused; infer_instance

theorem step_withinLimits (hlimits : limits.Nonneg) (hok : s.ErasesUnused call)
    (h : s.step limits call = .ok s')
    (hs : s.scene.Keyed ∧ s.scene.WithinLimits limits) :
    s'.scene.Keyed ∧ s'.scene.WithinLimits limits := by
  obtain ⟨hkeyed, hwithin⟩ := hs
  rcases (step_cases h).2 with ⟨n, freed, result, rfl, hresult, rfl⟩ | ⟨-, actions, hhandles, -⟩
  · rcases onInnerDestroyLocked_cases hresult hkeyed fun gap hgap => (hok gap hgap).1 with
      rfl | ⟨gap, info, hgap, hinfo, hscene, -⟩
    · exact ⟨hkeyed, hwithin⟩
    · rw [after, hscene]
      have hopen : WithinLimits limits { s.scene with gaps := s.scene.gaps.eraseIdx n } :=
        ⟨hwithin.devices, hwithin.surfaces, hwithin.perDevice, hwithin.connected,
          hwithin.foreground⟩
      refine ⟨Keyed.erase hkeyed gap.item, hopen.eraseConnection ?_⟩
      intro e he hlive hmac
      have hnone := List.countP_eq_zero.mp (hok gap hgap).2 e he
      rw [isLive] at hlive
      simp [isLiveOf, hmac, hlive] at hnone
  · exact ⟨hhandles.keyed hkeyed, hhandles.withinLimits hlimits hkeyed hwithin⟩

/-- The limits hold after every call of a run in which `OnInnerDestroy` erases unused entries. -/
theorem run_withinLimits (hlimits : limits.Nonneg)
    (run : GuardedRun (step limits) ErasesUnused {} calls s) : s.scene.WithinLimits limits := by
  have hinit : Keyed {} ∧ WithinLimits limits {} := by
    constructor
    · intro mac info h
      exact absurd ((AList.lookup_empty mac).symm.trans h) (by simp)
    · obtain ⟨h₁, h₂, h₃⟩ := hlimits
      exact ⟨h₂, h₁, fun _ => Nat.zero_le _, fun e he => (List.not_mem_nil he).elim, h₃⟩
  have hboth : s.scene.Keyed ∧ s.scene.WithinLimits limits := by
    apply GuardedRun.invariant (I := fun s => s.scene.Keyed ∧ s.scene.WithinLimits limits) hinit _ run
    exact fun _ _ _ hi hok hstep => step_withinLimits hlimits hok hstep hi
  exact hboth.2

/-- The agent of a device is destroyed, and before its entry goes the device gets a surface. -/
def appendInGapCalls : List SceneCall :=
  [.setSinkRunning true, .peerConnected (peer "a") (some (2, 2)), .innerDestroy 2 3,
    .appendSurface "a".toList (some 7), .innerDestroyLocked 0 none]

/-- The surface stays in use while its device is not connected any more. -/
theorem appendInGap_not_withinLimits :
    ¬ ∀ limits : SinkLimits, limits.Nonneg → ∀ calls s,
      GuardedRun (step limits) (fun _ _ => True) {} calls s → s.scene.gaps = [] →
        s.scene.WithinLimits limits := by
  intro hall
  obtain ⟨s, hrun⟩ := Option.isSome_iff_exists.mp
    (show (GuardedRun.check (step {}) (fun _ _ => True) {} appendInGapCalls).isSome by
      decide +kernel)
  have hlost : (GuardedRun.check (step {}) (fun _ _ => True) {} appendInGapCalls).all fun s =>
      s.scene.gaps = [] ∧ s.scene.devConnectionMap.keys = [] ∧
        s.scene.devSurfaceItemMap.toList.any fun e => isLive e.2 := by decide +kernel
  rw [hrun] at hlost
  obtain ⟨hgaps, hkeys, hany⟩ : s.scene.gaps = [] ∧ s.scene.devConnectionMap.keys = [] ∧
      (s.scene.devSurfaceItemMap.toList.any fun e => isLive e.2) = true := by
    simpa using hlost
  obtain ⟨e, he, hlive⟩ := List.any_eq_true.mp hany
  have hwithin := hall {} (by decide) _ s (GuardedRun.of_check hrun) hgaps
  have hmem := AList.mem_keys.mp (hwithin.connected e he hlive)
  rw [hkeys] at hmem
  cases hmem

/-- One device loses its agent while another one gets a surface. -/
theorem run_appendElsewhere_withinLimits :
    ∃ s, GuardedRun (step {}) ErasesUnused {}
        [.setSinkRunning true, .peerConnected (peer "a") (some (2, 2)),
          .peerConnected (peer "b") (some (2, 3)), .innerDestroy 2 3,
          .appendSurface "b".toList (some 7), .innerDestroyLocked 0 none] s ∧
      s.scene.countSurfaces isLive = 1 ∧ s.scene.WithinLimits {} := by
  obtain ⟨s, hrun⟩ := Option.isSome_iff_exists.mp
    (show (GuardedRun.check (step {}) ErasesUnused {}
      [.setSinkRunning true, .peerConnected (peer "a") (some (2, 2)),
        .peerConnected (peer "b") (some (2, 3)), .innerDestroy 2 3,
        .appendSurface "b".toList (some 7), .innerDestroyLocked 0 none]).isSome by decide +kernel)
  have hone : (GuardedRun.check (step {}) ErasesUnused {}
      [.setSinkRunning true, .peerConnected (peer "a") (some (2, 2)),
        .peerConnected (peer "b") (some (2, 3)), .innerDestroy 2 3,
        .appendSurface "b".toList (some 7), .innerDestroyLocked 0 none]).all fun s =>
      s.scene.countSurfaces isLive = 1 := by decide +kernel
  rw [hrun] at hone
  exact ⟨s, GuardedRun.of_check hrun, by simpa using hone,
    run_withinLimits (by decide) (GuardedRun.of_check hrun)⟩

end SceneState

end WifiDisplay
