import WifiDisplay.GuardedRuns
import WifiDisplay.WfdSinkSceneEffects

/-! A connected callback for a device that is connected already. The scene compares the number
of devices with the limit before it looks for the device, so that at the limit it rejects a
device of its own. -/

namespace WifiDisplay

namespace WfdSinkScene

variable {limits : SinkLimits} {created : Nat × Nat} {s s' : WfdSinkScene}
  {actions : List SceneAction} {info : ConnectionInfo}

/-- What `OnP2pPeerConnected` does leaves the connections, the agents and the group as they are. -/
structure Harmless (s : WfdSinkScene) (result : SceneResult Bool) : Prop where
  connections : result.scene.devConnectionMap = s.devConnectionMap
  agents : agentActions result.actions = []
  group : ∀ info, .p2pRemoveClient info ∉ result.actions

/-- The scene does not look at its devices, or has fewer of them than the limit. -/
def HasRoom (limits : SinkLimits) (s : WfdSinkScene) : Prop :=
  s.isSinkRunning = true → s.sharingAdapter = true →
    s.devConnectionMap.keys.length < limits.accessDevMaximum.toNat

instance : Decidable (s.HasRoom limits) := inferInstanceAs (Decidable (_ → _ → _))

theorem harmless_nothing : Harmless s ⟨s, [], false⟩ := ⟨rfl, rfl, fun _ => List.not_mem_nil⟩

theorem harmless_of_hasRoom (hmem : info.mac ∈ s.devConnectionMap) (hroom : s.HasRoom limits) :
    Harmless s (s.onP2pPeerConnected limits info created) := by
  unfold onP2pPeerConnected
  split
  · exact harmless_nothing
  rename_i hrunning
  split
  · exact harmless_nothing
  rename_i hadapter
  split
  · exact harmless_nothing
  have hlt := hroom (by simpa using hrunning) (by simpa using hadapter)
  rw [if_neg (Nat.not_le.mpr hlt)]
  exact harmless_nothing

/-- At the limit the callback goes to `NotifyPeerRejected`, whatever the device. -/
theorem onP2pPeerConnected_full (hmac : info.mac ≠ []) (hroom : ¬ s.HasRoom limits) :
    s.onP2pPeerConnected limits info created = ⟨s, notifyPeerRejected info, false⟩ := by
  obtain ⟨hrunning, hadapter, hfull⟩ : s.isSinkRunning = true ∧ s.sharingAdapter = true ∧
      limits.accessDevMaximum.toNat ≤ s.devConnectionMap.keys.length := by
    simpa only [HasRoom, Classical.not_imp, Nat.not_lt] using hroom
  unfold onP2pPeerConnected
  rw [hrunning, hadapter, if_neg (by decide), if_neg (by decide), if_neg hmac, if_pos hfull]

theorem harmless_iff_hasRoom (hmem : info.mac ∈ s.devConnectionMap) (hmac : info.mac ≠ []) :
    Harmless s (s.onP2pPeerConnected limits info created) ↔ s.HasRoom limits := by
  refine ⟨fun hharmless => ?_, harmless_of_hasRoom hmem⟩
  by_contra hroom
  have hgroup := hharmless.group info
  rw [onP2pPeerConnected_full hmac hroom] at hgroup
  exact hgroup List.mem_cons_self

/-- No device is connected under an empty address. -/
def Named (s : WfdSinkScene) : Prop := [] ∉ s.devConnectionMap

theorem Named.ne_nil (hs : s.Named) (hmem : info.mac ∈ s.devConnectionMap) : info.mac ≠ [] :=
  fun h => hs (h ▸ hmem)

theorem Named.update (hs : s.Named) {mac : Text} (hmac : mac ≠ []) :
    (s.updateConnection mac info).Named := by
  intro hmem
  rcases (AList.mem_insert s.devConnectionMap).mp hmem with h | h
  · exact hmac h.symm
  · exact hs h

theorem Named.erase (hs : s.Named) (mac : Text) : (s.eraseConnection mac).Named :=
  fun hmem => hs (AList.mem_erase.mp hmem).2

/-- Without the ids of a new agent no device is connected. -/
theorem Effect.named (h : Effect limits (invalidId, invalidId) s actions s') (hs : s.Named) :
    s'.Named := by
  cases h with
  | unchanged => exact hs
  | flagsSet => exact hs
  | entryUpdated info' hinfo _ _ =>
    have hmem := AList.lookup_isSome.mp (Option.isSome_of_eq_some hinfo)
    exact hs.update fun hmac => hs (hmac ▸ hmem)
  | deviceConnected info hagent hcreated =>
    exact absurd (congrArg Prod.fst hcreated) hagent.1
  | @deviceReleased mac => exact Named.erase (s := s.markDeleting mac) hs mac
  | stopped => exact AList.notMem_empty []
  | agentReported => exact hs

theorem onP2pPeerConnected_named (hs : s.Named) :
    (s.onP2pPeerConnected limits info created).scene.Named := by
  unfold onP2pPeerConnected
  split
  · exact hs
  split
  · exact hs
  split
  · exact hs
  rename_i hmac
  split
  · exact hs
  split
  · exact hs
  rw [createSinkAgentLocked]
  split
  · exact hs
  · exact hs.update hmac

theorem onInnerDestroyLocked_named {n : Nat} {freed : Option Text} {result : SceneResult Unit}
    (h : s.onInnerDestroyLocked n freed = .ok result) (hs : s.Named) : result.scene.Named := by
  unfold onInnerDestroyLocked at h
  split at h
  · cases h
    exact hs
  · dsimp only at h
    split at h
    · cases h
    · cases h
      exact Named.erase (s := { s with gaps := s.gaps.eraseIdx n }) hs _

end WfdSinkScene

namespace SceneState

open WfdSinkScene

variable {limits : SinkLimits} {s s' : SceneState} {call : SceneCall} {calls : List SceneCall}

theorem step_named (h : s.step limits call = .ok s') (hs : s.scene.Named) : s'.scene.Named := by
  cases call with
  | peerConnected info created =>
    cases h
    exact onP2pPeerConnected_named hs
  | innerDestroyLocked =>
    rcases (step_cases h).2 with ⟨n, freed, result, -, hresult, rfl⟩ | ⟨hnot, -⟩
    · exact onInnerDestroyLocked_named hresult hs
    · exact absurd rfl (hnot _ _)
  | _ =>
    rcases (step_cases h).2 with ⟨n, freed, result, hcall, -⟩ | ⟨-, actions, ⟨items, -, heffect⟩, -⟩
    · cases hcall
    · exact heffect.named hs

/-- If the call is a connected callback for a connected device, it is harmless. -/
def RepeatHarmless (limits : SinkLimits) (s : SceneState) (call : SceneCall) : Prop :=
  ∀ info created, call = .peerConnected info created → info.mac ∈ s.scene.devConnectionMap →
    Harmless s.scene (s.scene.onP2pPeerConnected limits info (s.createdIds created))

/-- If the call is a connected callback for a connected device, the scene has room. -/
def RepeatHasRoom (limits : SinkLimits) (s : SceneState) : SceneCall → Prop
  | .peerConnected info _ => info.mac ∈ s.scene.devConnectionMap → s.scene.HasRoom limits
  | _ => True

instance : DecidablePred (s.RepeatHasRoom limits)
  | .appendSurface .. | .removeSurface .. | .setSceneType .. | .play .. | .close .. | .peerConnected ..
  | .peerDisconnected .. | .peerDisconnectedMac .. | .setSinkRunning .. | .p2pStop | .rtspPlayed ..
  | .accelerationDone .. | .stateRemoveSurface .. | .innerDestroy .. | .innerDestroyLocked ..
  | .adapterExpired => by unfold RepeatHasRoom; infer_instance

theorem repeatHarmless_iff (hs : s.scene.Named) :
    s.RepeatHarmless limits call ↔ s.RepeatHasRoom limits call := by
  constructor
  · intro h
    cases call with
    | peerConnected info created =>
      exact fun hmem => (harmless_iff_hasRoom hmem (hs.ne_nil hmem)).mp (h info created rfl hmem)
    | _ => exact trivial
  · rintro h info created rfl hmem
    exact harmless_of_hasRoom hmem (h hmem)

theorem run_named {ok : SceneState → SceneCall → Prop}
    (run : GuardedRun (step limits) ok {} calls s) : s.scene.Named :=
  run.invariant (I := fun s => s.scene.Named) (AList.notMem_empty [])
    fun _ _ _ hs _ hstep => step_named hstep hs

theorem run_repeatHarmless_iff : GuardedRun (step limits) (RepeatHarmless limits) {} calls s ↔
    GuardedRun (step limits) (RepeatHasRoom limits) {} calls s := by
  have hinit : Named (SceneState.scene {}) := AList.notMem_empty []
  constructor
  · exact GuardedRun.imp_of_invariant (I := fun s => s.scene.Named) hinit
      (fun _ _ _ hs hstep => step_named hstep hs) fun _ _ hs => (repeatHarmless_iff hs).mp
  · exact GuardedRun.imp_of_invariant (I := fun s => s.scene.Named) hinit
      (fun _ _ _ hs hstep => step_named hstep hs) fun _ _ hs => (repeatHarmless_iff hs).mpr

/-- The repeated callbacks of a run are all harmless exactly when each of them finds room, and
so it is, for every device that the run leaves connected, with the one that comes next. -/
theorem run_repeatsHarmless (run : GuardedRun (step limits) (fun _ _ => True) {} calls s) :
    (GuardedRun (step limits) (RepeatHarmless limits) {} calls s ↔
      GuardedRun (step limits) (RepeatHasRoom limits) {} calls s) ∧
    ∀ info created, info.mac ∈ s.scene.devConnectionMap →
      (Harmless s.scene (s.scene.onP2pPeerConnected limits info (s.createdIds created)) ↔
        s.scene.HasRoom limits) :=
  ⟨run_repeatHarmless_iff, fun _ _ hmem => harmless_iff_hasRoom hmem ((run_named run).ne_nil hmem)⟩

/-- Every device that the limit admits, the first one twice. -/
def fullRepeatCalls : List SceneCall :=
  [.setSinkRunning true, .peerConnected (peer "a") (some (2, 1)),
    .peerConnected (peer "a") none, .peerConnected (peer "b") (some (2, 1)),
    .peerConnected (peer "c") (some (2, 1)), .peerConnected (peer "d") (some (2, 1))]

/-- The repeated callback came while there was room; the next one would not be harmless. -/
theorem fullRepeat_run : ∃ s, GuardedRun (step {}) (RepeatHarmless {}) {} fullRepeatCalls s ∧
    ¬ Harmless s.scene (s.scene.onP2pPeerConnected {} (peer "a") (s.createdIds none)) := by
  have hcheck : (GuardedRun.check (step {}) (RepeatHasRoom {}) {} fullRepeatCalls).any fun s =>
      decide ((peer "a").mac ∈ s.scene.devConnectionMap.keys ∧ ¬ s.scene.HasRoom {}) := by
    decide +kernel
  obtain ⟨s, hs, hstate⟩ := (Option.any_eq_true _ _).mp hcheck
  obtain ⟨hmem, hfull⟩ := of_decide_eq_true hstate
  have hrun := GuardedRun.of_check hs
  obtain ⟨hall, hnext⟩ := run_repeatsHarmless (hrun.imp fun _ _ _ => trivial)
  exact ⟨s, hall.mpr hrun, mt (hnext (peer "a") none (AList.mem_keys.mpr hmem)).mp hfull⟩

/-- A sink with all its devices removes the one that is reported to be connected again. -/
theorem fullRepeat_not_harmless :
    ¬ ∀ limits calls s, GuardedRun (step limits) (fun _ _ => True) {} calls s →
      ∀ info created, info.mac ∈ s.scene.devConnectionMap →
        Harmless s.scene (s.scene.onP2pPeerConnected limits info (s.createdIds created)) := by
  intro hall
  have hcheck : (GuardedRun.check (step {}) (fun _ _ => True) {} fullRepeatCalls).any fun s =>
      decide ((peer "a").mac ∈ s.scene.devConnectionMap.keys ∧
        .p2pRemoveClient (peer "a") ∈
          (s.scene.onP2pPeerConnected {} (peer "a") (s.createdIds none)).actions) := by
    decide +kernel
  obtain ⟨s, hs, hstate⟩ := (Option.any_eq_true _ _).mp hcheck
  obtain ⟨hmem, hremoved⟩ := of_decide_eq_true hstate
  have hharmless := hall {} _ s (GuardedRun.of_check hs) (peer "a") none (AList.mem_keys.mpr hmem)
  exact hharmless.group _ hremoved

end SceneState

end WifiDisplay
