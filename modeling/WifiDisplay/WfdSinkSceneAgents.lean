import WifiDisplay.GuardedRuns
import WifiDisplay.ResourceLedger
import WifiDisplay.WfdSinkSceneEffects

/-! The agents of a sink: every run of its handlers in which no reference of `OnInnerDestroy`
dangles and no entry is dropped without an adapter keeps the agents as a ledger does. -/

namespace WifiDisplay

namespace SceneAction

/-- The agent that a `CreateAgent` returned. -/
def created? : SceneAction → Option (Nat × Nat)
  | createAgent contextId agentId => some (contextId, agentId)
  | _ => none

def asked? : SceneAction → Option (Nat × Nat)
  | destroyAgent contextId agentId => some (contextId, agentId)
  | _ => none

def reported? : SceneAction → Option (Nat × Nat)
  | agentDestroyed contextId agentId => some (contextId, agentId)
  | _ => none

end SceneAction

open SceneAction

theorem filterMap_agentActions {α : Type} {f : SceneAction → Option α}
    (hf : ∀ a, a.isAgentAction = false → f a = none) (l : List SceneAction) :
    (agentActions l).filterMap f = l.filterMap f := by
  induction l with
  | nil => rfl
  | cons a l ih =>
    rw [agentActions] at ih ⊢
    cases ha : a.isAgentAction with
    | false => rw [List.filter_cons_of_neg (by simp [ha]), ih, List.filterMap_cons_none (hf a ha)]
    | true => rw [List.filter_cons_of_pos ha, List.filterMap_cons, List.filterMap_cons, ih]

theorem created?_agentActions (l : List SceneAction) :
    (agentActions l).filterMap created? = l.filterMap created? :=
  filterMap_agentActions (fun a ha => by cases a <;> first | rfl | cases ha) l

theorem asked?_agentActions (l : List SceneAction) :
    (agentActions l).filterMap asked? = l.filterMap asked? :=
  filterMap_agentActions (fun a ha => by cases a <;> first | rfl | cases ha) l

theorem reported?_agentActions (l : List SceneAction) :
    (agentActions l).filterMap reported? = l.filterMap reported? :=
  filterMap_agentActions (fun a ha => by cases a <;> first | rfl | cases ha) l

namespace WfdSinkScene

/-- The agent recorded in the entry of a device. -/
def agentOf (s : WfdSinkScene) (mac : Text) : Option (Nat × Nat) :=
  (s.devConnectionMap.lookup mac).map ConnectionInfo.agent

/-- The scene as a ledger of agents, with the calls made so far. -/
def ledger (s : WfdSinkScene) (trace : List SceneAction) : Ledger Text (Nat × Nat) where
  entry := s.agentOf
  created := trace.filterMap created?
  asked := trace.filterMap asked?
  reported := trace.filterMap reported?

variable {limits : SinkLimits} {created : Nat × Nat} {s s' : WfdSinkScene}
  {actions trace : List SceneAction}

theorem ledger_agentActions : s.ledger (agentActions trace) = s.ledger trace := by
  simp only [ledger, created?_agentActions, asked?_agentActions, reported?_agentActions]

theorem agentOf_update (mac : Text) (info : ConnectionInfo) :
    (s.updateConnection mac info).agentOf = Function.update s.agentOf mac (some info.agent) := by
  funext mac'
  by_cases hmac : mac' = mac
  · subst hmac
    rw [Function.update_self, agentOf, updateConnection]
    exact congrArg (Option.map ConnectionInfo.agent) (AList.lookup_insert s.devConnectionMap)
  · rw [Function.update_of_ne hmac, agentOf, updateConnection]
    exact congrArg (Option.map ConnectionInfo.agent) (AList.lookup_insert_ne hmac)

theorem agentOf_erase (mac : Text) :
    (s.eraseConnection mac).agentOf = Function.update s.agentOf mac none := by
  funext mac'
  by_cases hmac : mac' = mac
  · subst hmac
    rw [Function.update_self, agentOf, eraseConnection]
    exact congrArg (Option.map ConnectionInfo.agent) (AList.lookup_erase mac' s.devConnectionMap)
  · rw [Function.update_of_ne hmac, agentOf, eraseConnection]
    exact congrArg (Option.map ConnectionInfo.agent) (AList.lookup_erase_ne hmac)

theorem agentOf_some {mac : Text} {info : ConnectionInfo}
    (h : s.devConnectionMap.lookup mac = some info) : s.agentOf mac = some info.agent := by
  rw [agentOf, h]
  rfl

theorem agentOf_release (mac : Text) :
    (s.releaseDevice mac).agentOf = Function.update s.agentOf mac none :=
  @agentOf_erase (s.markDeleting mac) mac

theorem agentOf_update_same {mac : Text} {info info' : ConnectionInfo}
    (hinfo : s.devConnectionMap.lookup mac = some info) (hagent : info'.agent = info.agent) :
    (s.updateConnection mac info').agentOf = s.agentOf := by
  rw [agentOf_update, hagent, ← agentOf_some hinfo]
  exact Function.update_eq_self mac s.agentOf

/-- What the ledger needs to know of the scene beside its entries. -/
structure Accountable (s : WfdSinkScene) (trace : List SceneAction) : Prop where
  keyed : s.Keyed
  agents : ∀ mac info, s.devConnectionMap.lookup mac = some info → info.HasAgent
  gaps : ∀ gap ∈ s.gaps, gap.dangling = false →
    s.agentOf gap.item = some gap.agent ∧ gap.agent ∈ trace.filterMap reported?

theorem Effect.created_actions (h : Effect limits created s actions s') :
    actions.filterMap created? = [] ∨
      actions.filterMap created? = [created] ∧ created.2 ≠ invalidId := by
  cases h with
  | unchanged => exact Or.inl rfl
  | flagsSet => exact Or.inl rfl
  | entryUpdated => exact Or.inl rfl
  | deviceConnected info hagent hcreated =>
    right
    subst hcreated
    exact ⟨rfl, hagent.2⟩
  | deviceReleased _ hactions =>
    left
    rcases hactions with rfl | ⟨rfl, -⟩ <;> rfl
  | stopped =>
    left
    rw [created?_agentActions, List.filterMap_eq_nil_iff]
    intro a ha
    simp only [wfdP2pStop] at ha
    split at ha
    · obtain ⟨e, -, ha⟩ := List.mem_flatMap.mp ha
      rw [stopEntry] at ha
      split at ha
      · simp only [List.mem_cons, List.not_mem_nil, or_false] at ha
        rcases ha with rfl | rfl | rfl <;> rfl
      · cases ha
    · cases ha
  | agentReported => exact Or.inl rfl

theorem Effect.not_erased (h : Effect limits created s actions s') (contextId agentId : Nat)
    (entry : Option ConnectionInfo) : .innerDestroyErased contextId agentId entry ∉ actions := by
  cases h with
  | unchanged => simp
  | flagsSet => simp
  | entryUpdated => simp
  | deviceConnected => simp
  | deviceReleased _ hactions =>
    rcases hactions with rfl | ⟨rfl, -⟩ <;> simp
  | stopped =>
    intro hin
    have ha := (List.mem_filter.mp hin).1
    simp only [wfdP2pStop] at ha
    split at ha
    · obtain ⟨e, -, ha⟩ := List.mem_flatMap.mp ha
      rw [stopEntry] at ha
      split at ha <;> simp at ha
    · cases ha
  | agentReported => simp

/-- With every entry holding an agent and an adapter at hand, stopping asks for all of them. -/
theorem agentActions_wfdP2pStop
    (hagents : ∀ mac info, s.devConnectionMap.lookup mac = some info → info.HasAgent)
    (hasks : s.sharingAdapter = true ∨ s.devConnectionMap.entries = []) :
    agentActions s.wfdP2pStop.actions =
      s.devConnectionMap.entries.map fun e => .destroyAgent e.2.contextId e.2.agentId := by
  have hentries : ∀ es : List (Σ _ : Text, ConnectionInfo), (∀ e ∈ es, e.2.HasAgent) →
      agentActions (es.flatMap fun e => stopEntry e.2) =
        es.map fun e => .destroyAgent e.2.contextId e.2.agentId := by
    intro es hes
    induction es with
    | nil => rfl
    | cons e es ih =>
      have hagent : e.2.contextId ≠ invalidId ∧ e.2.agentId ≠ invalidId := hes e List.mem_cons_self
      have htail := ih fun e' he' => hes e' (List.mem_cons_of_mem e he')
      rw [List.flatMap_cons, agentActions_append, htail, stopEntry, if_pos hagent]
      rfl
  rw [wfdP2pStop]
  rcases hasks with hadapter | hempty
  · rw [if_pos hadapter]
    exact hentries _ fun e he => hagents e.1 e.2 (AList.mem_lookup_iff.mpr he)
  · rw [hempty]
    split <;> rfl

theorem ledger_congr (h : s'.agentOf = s.agentOf) : s'.ledger trace = s.ledger trace := by
  rw [ledger, ledger, h]

theorem Effect.steps (h : Effect limits created s actions s') (hs : s.Accountable trace)
    (hfresh : ((trace ++ actions).filterMap created?).Nodup)
    (hasks : s.sharingAdapter = true ∨ ∀ mac ∈ s.devConnectionMap, mac ∈ s'.devConnectionMap) :
    Ledger.Steps (s.ledger trace) (s'.ledger (trace ++ actions)) := by
  cases h with
  | unchanged => rw [List.append_nil]
  | flagsSet =>
    rw [List.append_nil]
    exact Relation.ReflTransGen.refl
  | @entryUpdated mac info info' hinfo _ hagent =>
    have hsame := agentOf_update_same hinfo hagent
    rw [List.append_nil, ledger_congr hsame]
  | deviceConnected info hagent hcreated hroom hnew =>
    have hacquired : (s.updateConnection info.mac info).ledger
        (trace ++ [.createAgent info.contextId info.agentId]) =
        (s.ledger trace).acquire info.mac info.agent := by
      simp only [ledger, agentOf_update, Ledger.acquire, List.filterMap_append]
      simp [created?, asked?, reported?, ConnectionInfo.agent]
    rw [hacquired]
    apply Relation.ReflTransGen.single
    apply Ledger.Step.acquire
    · show s.agentOf info.mac = none
      rw [agentOf, AList.lookup_eq_none.mpr hnew]
      rfl
    · rw [List.filterMap_append, List.nodup_append] at hfresh
      intro hin
      exact hfresh.2.2 _ hin _ List.mem_cons_self rfl
  | @deviceReleased mac info actions hinfo hactions =>
    have hmem : mac ∈ s.devConnectionMap := AList.lookup_isSome.mp (Option.isSome_of_eq_some hinfo)
    have hgone : mac ∉ (s.releaseDevice mac).devConnectionMap := fun h => (AList.mem_erase.mp h).1 rfl
    have hadapter : s.sharingAdapter = true := hasks.resolve_right fun h => hgone (h mac hmem)
    have hdestroy : actions = [.destroyAgent info.contextId info.agentId] := by
      rcases hactions with h | ⟨-, h | h⟩
      · exact h
      · rw [hadapter] at h
        cases h
      · exact absurd (hs.agents mac info hinfo) h
    have hreleased : (s.releaseDevice mac).ledger (trace ++ actions) =
        (s.ledger trace).release mac info.agent := by
      simp only [ledger, agentOf_release, Ledger.release, List.filterMap_append, hdestroy]
      simp [created?, asked?, reported?, ConnectionInfo.agent]
    rw [hreleased]
    exact Relation.ReflTransGen.single (Ledger.Step.release (agentOf_some hinfo))
  | stopped =>
    have hempty : s.sharingAdapter = true ∨ s.devConnectionMap.entries = [] := by
      refine hasks.imp_right fun h => ?_
      rw [List.eq_nil_iff_forall_not_mem]
      intro e he
      have hmem := h e.1 (AList.lookup_isSome.mp (Option.isSome_of_eq_some (AList.mem_lookup_iff.mpr he)))
      exact AList.notMem_empty _ hmem
    let held := s.devConnectionMap.entries.map fun e => (e.1, e.2.agent)
    have hkeys : held.map Prod.fst = s.devConnectionMap.keys := by
      rw [List.map_map]
      rfl
    have hstopped : s.wfdP2pStop.scene.ledger (trace ++ agentActions s.wfdP2pStop.actions) =
        (s.ledger trace).releaseAll held := by
      rw [Ledger.releaseAll_eq, agentActions_wfdP2pStop hs.agents hempty, hkeys]
      simp only [ledger, List.filterMap_append, held]
      simp [created?, asked?, reported?, ConnectionInfo.agent, List.filterMap_map, Function.comp_def]
      -- the entries asked for are all there are
      funext mac
      by_cases hmac : mac ∈ s.devConnectionMap.keys
      · rw [if_pos hmac]
        rfl
      · rw [if_neg hmac, agentOf, agentOf,
          AList.lookup_eq_none.mpr fun h => hmac (AList.mem_keys.mp h)]
        rfl
    rw [hstopped]
    apply Ledger.steps_releaseAll
    · rw [hkeys]
      exact s.devConnectionMap.keys_nodup
    · intro e he
      obtain ⟨item, hitem, rfl⟩ := List.mem_map.mp he
      exact agentOf_some (AList.mem_lookup_iff.mpr hitem)
  | agentReported contextId agentId gaps hgaps =>
    have hreported : WfdSinkScene.ledger { s with gaps := gaps }
        (trace ++ [.agentDestroyed contextId agentId]) =
        (s.ledger trace).report (contextId, agentId) := by
      have hsame : WfdSinkScene.agentOf { s with gaps := gaps } = s.agentOf := rfl
      simp only [ledger, hsame, Ledger.report, List.filterMap_append]
      simp [created?, asked?, reported?]
    rw [hreported]
    exact Relation.ReflTransGen.single (Ledger.Step.report _)

theorem Effect.accountable (h : Effect limits created s actions s') (hs : s.Accountable trace) :
    s'.Accountable (trace ++ actions) := by
  have hlater : ∀ {agent : Nat × Nat}, agent ∈ trace.filterMap reported? →
      agent ∈ (trace ++ actions).filterMap reported? := by
    intro agent hin
    rw [List.filterMap_append]
    exact List.mem_append_left _ hin
  have hkeyed := h.keyed hs.keyed
  cases h with
  | unchanged => exact ⟨hkeyed, hs.agents, fun gap hgap hd => (hs.gaps gap hgap hd).imp_right hlater⟩
  | flagsSet => exact ⟨hkeyed, hs.agents, fun gap hgap hd => (hs.gaps gap hgap hd).imp_right hlater⟩
  | @entryUpdated mac info info' hinfo _ hagent =>
    have hsame := agentOf_update_same hinfo hagent
    refine ⟨hkeyed, ?_, ?_⟩
    · intro mac' info'' h
      have hold : s.agentOf mac' = some info''.agent := hsame ▸ agentOf_some h
      obtain ⟨old, hlookup, heq⟩ := Option.map_eq_some_iff.mp hold
      have hhas := hs.agents mac' old hlookup
      rw [ConnectionInfo.agent, ConnectionInfo.agent, Prod.mk.injEq] at heq
      rwa [ConnectionInfo.HasAgent, heq.1, heq.2] at hhas
    · intro gap hgap hd
      rw [hsame]
      exact (hs.gaps gap hgap hd).imp_right hlater
  | deviceConnected info hagent hcreated hroom hnew =>
    refine ⟨hkeyed, ?_, ?_⟩
    · intro mac' info' h
      by_cases heq : mac' = info.mac
      · subst heq
        cases (AList.lookup_insert s.devConnectionMap).symm.trans h
        exact hagent
      · exact hs.agents mac' info' ((AList.lookup_insert_ne heq).symm.trans h)
    · intro gap hgap hd
      obtain ⟨hentry, hreported⟩ := hs.gaps gap hgap hd
      have hne : gap.item ≠ info.mac := by
        intro heq
        rw [heq, agentOf, AList.lookup_eq_none.mpr hnew] at hentry
        cases hentry
      rw [agentOf_update, Function.update_of_ne hne]
      exact ⟨hentry, hlater hreported⟩
  | @deviceReleased mac info actions hinfo hactions =>
    refine ⟨hkeyed, ?_, ?_⟩
    · intro mac' info' h
      by_cases heq : mac' = mac
      · subst heq
        cases (AList.lookup_erase mac' s.devConnectionMap).symm.trans h
      · exact hs.agents mac' info' ((AList.lookup_erase_ne heq).symm.trans h)
    · intro gap hgap hd
      obtain ⟨old, hold, rfl⟩ := List.mem_map.mp hgap
      have hnot : old.dangling = false ∧ old.item ≠ mac := by
        simpa [InnerDestroyGap.entryErased] using hd
      obtain ⟨hentry, hreported⟩ := hs.gaps old hold hnot.1
      rw [agentOf_release]
      exact ⟨(Function.update_of_ne hnot.2 _ _).trans hentry, hlater hreported⟩
  | stopped =>
    refine ⟨hkeyed, ?_, ?_⟩
    · intro mac info h
      cases (AList.lookup_empty mac).symm.trans h
    · intro gap hgap hd
      obtain ⟨old, -, rfl⟩ := List.mem_map.mp hgap
      cases hd
  | agentReported contextId agentId gaps hgaps =>
    refine ⟨hkeyed, hs.agents, ?_⟩
    intro gap hgap hd
    rcases hgaps gap hgap with hold | ⟨heq, info, hinfo, hagent⟩
    · exact (hs.gaps gap hold hd).imp_right hlater
    · refine ⟨(agentOf_some hinfo).trans (congrArg some hagent), ?_⟩
      rw [heq, List.filterMap_append]
      exact List.mem_append_right _ List.mem_cons_self

/-- The second section of `OnInnerDestroy` drops an agent that has been reported. -/
theorem Accountable.erase (hs : s.Accountable trace) (gap : InnerDestroyGap)
    (gaps : List InnerDestroyGap) (hgaps : ∀ g ∈ gaps, g ∈ s.gaps) :
    (eraseConnection { s with gaps := gaps } gap.item).Accountable trace := by
  refine ⟨Keyed.erase (s := { s with gaps := gaps }) hs.keyed gap.item, ?_, ?_⟩
  · intro mac info h
    by_cases heq : mac = gap.item
    · subst heq
      cases (AList.lookup_erase gap.item s.devConnectionMap).symm.trans h
    · exact hs.agents mac info ((AList.lookup_erase_ne heq).symm.trans h)
  · intro gap' hgap' hd
    obtain ⟨old, hold, rfl⟩ := List.mem_map.mp hgap'
    have hnot : old.dangling = false ∧ old.item ≠ gap.item := by
      simpa [InnerDestroyGap.entryErased] using hd
    obtain ⟨hentry, hreported⟩ := hs.gaps old (hgaps old hold) hnot.1
    rw [agentOf_erase]
    exact ⟨(Function.update_of_ne hnot.2 _ _).trans hentry, hreported⟩

/-- One section of a handler as the ledger sees it. -/
structure Tracks (created : Nat × Nat) (s : WfdSinkScene) (trace actions : List SceneAction)
    (s' : WfdSinkScene) : Prop where
  accountable : s'.Accountable (trace ++ actions)
  steps : ((trace ++ actions).filterMap created?).Nodup →
    Ledger.Steps (s.ledger trace) (s'.ledger (trace ++ actions))
  created : actions.filterMap created? = [] ∨
    actions.filterMap created? = [created] ∧ created.2 ≠ invalidId
  erasedOwn : ∀ contextId agentId info,
    .innerDestroyErased contextId agentId (some info) ∈ actions → info.agent = (contextId, agentId)

theorem Effect.tracks (h : Effect limits created s actions s') (hs : s.Accountable trace)
    (hasks : s.sharingAdapter = true ∨ ∀ mac ∈ s.devConnectionMap, mac ∈ s'.devConnectionMap) :
    Tracks created s trace actions s' := by
  refine ⟨h.accountable hs, fun hfresh => h.steps hs hfresh hasks, h.created_actions, ?_⟩
  intro contextId agentId info hin
  exact absurd hin (h.not_erased contextId agentId (some info))

theorem onInnerDestroyLocked_tracks {n : Nat} {freed : Option Text} {result : SceneResult Unit}
    (h : s.onInnerDestroyLocked n freed = .ok result) (hs : s.Accountable trace)
    (hgood : ∀ gap ∈ s.gaps[n]?, gap.dangling = false) :
    Tracks created s trace (agentActions result.actions) result.scene := by
  rcases onInnerDestroyLocked_cases h hs.keyed hgood with
    rfl | ⟨gap, info, hgap, hinfo, hscene, hactions⟩
  · exact (@Effect.unchanged {} created s).tracks hs (Or.inr fun _ => id)
  · obtain ⟨hentry, hreported⟩ := hs.gaps gap (List.mem_of_getElem? hgap) (hgood gap hgap)
    have hown : info.agent = gap.agent := by
      rw [agentOf_some hinfo] at hentry
      exact Option.some.inj hentry
    have hsame : (trace ++ agentActions result.actions).filterMap reported? =
        trace.filterMap reported? := by
      rw [hactions, List.filterMap_append]
      exact List.append_nil _
    rw [hscene]
    constructor
    case accountable =>
      have hkept := hs.erase gap (s.gaps.eraseIdx n) fun g hg => List.mem_of_mem_eraseIdx hg
      exact ⟨hkept.keyed, hkept.agents, by rw [hsame]; exact hkept.gaps⟩
    case steps =>
      intro _
      have hdropped : (eraseConnection { s with gaps := s.gaps.eraseIdx n } gap.item).ledger
          (trace ++ agentActions result.actions) = (s.ledger trace).drop gap.item := by
        rw [ledger, agentOf_erase, hsame, hactions, List.filterMap_append, List.filterMap_append]
        simp only [ledger, Ledger.drop]
        simp [created?, asked?]
        rfl
      rw [hdropped]
      exact Relation.ReflTransGen.single (Ledger.Step.drop hentry hreported)
    case created => exact Or.inl (by rw [hactions]; rfl)
    case erasedOwn =>
      intro contextId agentId info' hin
      rw [hactions, List.mem_singleton] at hin
      cases hin
      exact hown

end WfdSinkScene

namespace SceneState

open WfdSinkScene

variable {limits : SinkLimits} {s s' : SceneState} {call : SceneCall} {calls : List SceneCall}

/-- No reference dangles, entries are dropped with an adapter at hand, and the counter of
identifiers does not come round. -/
def KeepsAgents (s : SceneState) : SceneCall → Prop
  | .peerConnected _ created => s.nextKey created < 2 ^ 32
  | .p2pStop => s.scene.sharingAdapter = true ∨ s.scene.devConnectionMap.keys = []
  | .peerDisconnectedMac mac => s.scene.sharingAdapter = true ∨ mac ∉ s.scene.devConnectionMap
  | .innerDestroyLocked n _ => ∀ gap ∈ s.scene.gaps[n]?, gap.dangling = false
  | _ => True

instance (s : SceneState) (call : SceneCall) : Decidable (s.KeepsAgents call) := by
  unfold KeepsAgents
  cases call <;> infer_instance

/-- The agents that `CreateAgent` returned, in order. -/
def created (s : SceneState) : List (Nat × Nat) := s.trace.filterMap created?

/-- The agents that `DestroyAgent` was called for, in order. -/
def asked (s : SceneState) : List (Nat × Nat) := s.trace.filterMap asked?

/-- The agents that `OnInnerDestroy` was told of, in order. -/
def reported (s : SceneState) : List (Nat × Nat) := s.trace.filterMap reported?

structure AgentsConserved (s : SceneState) : Prop where
  recorded : ∀ agent ∈ s.created, agent ∉ s.asked → agent ∉ s.reported →
    ∃! mac, s.scene.agentOf mac = some agent
  askedOnce : s.asked.Nodup
  erasedOwn : ∀ contextId agentId info,
    .innerDestroyErased contextId agentId (some info) ∈ s.trace → info.agent = (contextId, agentId)

/-- What a run keeps. -/
structure AgentsTracked (s : SceneState) : Prop where
  accountable : s.scene.Accountable s.trace
  sound : (s.scene.ledger s.trace).Sound
  counted : ∀ agent ∈ s.created, agent.2 ≤ s.key
  fresh : s.created.Nodup
  erasedOwn : ∀ contextId agentId info,
    .innerDestroyErased contextId agentId (some info) ∈ s.trace → info.agent = (contextId, agentId)

theorem AgentsTracked.conserved (hs : s.AgentsTracked) : s.AgentsConserved where
  recorded _ hcreated hasked hreported := hs.sound.existsUnique hcreated hasked hreported
  askedOnce := hs.sound.asked_nodup
  erasedOwn := hs.erasedOwn

/-- Without an adapter no handler drops an entry, unless the condition is broken. -/
theorem step_keepsEntries (hadapter : s.scene.sharingAdapter = false) (hok : s.KeepsAgents call)
    (hcall : ∀ n freed, call ≠ .innerDestroyLocked n freed) (h : s.step limits call = .ok s') :
    ∀ mac ∈ s.scene.devConnectionMap, mac ∈ s'.scene.devConnectionMap := by
  intro mac hmac
  have hupdate : ∀ mac' info, mac ∈ (s.scene.updateConnection mac' info).devConnectionMap :=
    fun _ _ => (AList.mem_insert _).mpr (Or.inr hmac)
  cases call with
  | innerDestroyLocked n freed => exact absurd rfl (hcall n freed)
  | setSinkRunning => cases h; exact hmac
  | adapterExpired => cases h; exact hmac
  | appendSurface =>
    cases h
    simpa [after, handleAppendSurface, hadapter] using hmac
  | removeSurface =>
    cases h
    simpa [after, handleRemoveSurface, hadapter] using hmac
  | setSceneType =>
    cases h
    simpa [after, handleSetSceneType, hadapter] using hmac
  | play =>
    cases h
    simpa [after, handlePlay, hadapter] using hmac
  | close =>
    cases h
    simpa [after, handleClose, hadapter] using hmac
  | peerConnected =>
    cases h
    simp only [after, onP2pPeerConnected, hadapter]
    split <;> exact hmac
  | peerDisconnected =>
    cases h
    simpa [after, onP2pPeerDisconnected, hadapter] using hmac
  | peerDisconnectedMac mac' =>
    cases h
    have hnot : mac' ∉ s.scene.devConnectionMap := by
      rcases hok with hok | hok
      · rw [hadapter] at hok
        cases hok
      · exact hok
    simpa [after, onP2pPeerDisconnectedMac, AList.lookup_eq_none.mpr hnot] using hmac
  | p2pStop =>
    rcases hok with hok | hok
    · rw [hadapter] at hok
      cases hok
    · rw [AList.mem_keys, hok] at hmac
      cases hmac
  | rtspPlayed =>
    cases h
    simp only [after, onRtspPlayed]
    split
    · exact hmac
    · exact hupdate _ _
  | accelerationDone =>
    cases h
    simp only [after, onAccelerationDone]
    split
    · exact hmac
    · exact hupdate _ _
  | stateRemoveSurface =>
    cases h
    exact hmac
  | innerDestroy =>
    cases h
    simp only [after, onInnerDestroy]
    split <;> exact hmac

theorem created_eq (s : SceneState) : s.created = (agentActions s.trace).filterMap created? :=
  (created?_agentActions s.trace).symm

theorem step_tracks (hok : s.KeepsAgents call) (h : s.step limits call = .ok s')
    (hs : s.scene.Accountable (agentActions s.trace)) :
    ∃ actions, agentActions s'.trace = agentActions s.trace ++ actions ∧
      Tracks (s.createdIds call.created) s.scene (agentActions s.trace) actions s'.scene := by
  rcases (step_cases h).2 with
    ⟨n, freed, result, rfl, hresult, rfl⟩ | ⟨hcall, actions, ⟨items, -, heffect⟩, hactions⟩
  · exact ⟨_, agentActions_append _ _, onInnerDestroyLocked_tracks hresult hs hok⟩
  · have hasks : s.scene.sharingAdapter = true ∨
        ∀ mac ∈ s.scene.devConnectionMap, mac ∈ s'.scene.devConnectionMap := by
      cases hadapter : s.scene.sharingAdapter with
      | true => exact Or.inl rfl
      | false => exact Or.inr (step_keepsEntries hadapter hok hcall h)
    have hitems : Accountable { s.scene with devSurfaceItemMap := items } (agentActions s.trace) :=
      ⟨hs.keyed, hs.agents, hs.gaps⟩
    have htracks := heffect.tracks hitems hasks
    exact ⟨actions, hactions, htracks.accountable, htracks.steps, htracks.created,
      htracks.erasedOwn⟩

theorem step_counted (hok : s.KeepsAgents call) (h : s.step limits call = .ok s')
    (hs : s.AgentsTracked) {actions : List SceneAction}
    (htracks : Tracks (s.createdIds call.created) s.scene (agentActions s.trace) actions s'.scene) :
    (∀ agent ∈ s.created ++ actions.filterMap created?, agent.2 ≤ s'.key) ∧
      (s.created ++ actions.filterMap created?).Nodup := by
  have hkey := (step_cases h).1
  have hle : s.key ≤ s'.key := by
    rw [hkey]
    cases call.created with
    | none => exact le_rfl
    | some made =>
      simp only [nextKey]
      omega
  rcases htracks.created with hnone | ⟨hone, hvalid⟩
  · rw [hnone, List.append_nil]
    exact ⟨fun agent hin => (hs.counted agent hin).trans hle, hs.fresh⟩
  · rw [hone]
    obtain ⟨info, made, rfl⟩ : ∃ info made, call = .peerConnected info (some made) := by
      cases call with
      | peerConnected info created =>
        cases created with
        | none => exact absurd rfl hvalid
        | some made => exact ⟨info, made, rfl⟩
      | _ => exact absurd rfl hvalid
    have hid : (s.createdIds (some made)).2 = s.key + made.2 + 1 := Nat.mod_eq_of_lt hok
    have hnext : s'.key = s.key + made.2 + 1 := hkey
    constructor
    · intro agent hin
      rcases List.mem_append.mp hin with hin | hin
      · exact (hs.counted agent hin).trans hle
      · rw [List.mem_singleton] at hin
        rw [hin, hnext]
        exact hid.le
    · refine List.nodup_append.mpr ⟨hs.fresh, List.nodup_singleton _, ?_⟩
      intro agent hin new hnew heq
      rw [List.mem_singleton] at hnew
      have hold := hs.counted agent hin
      rw [heq, hnew] at hold
      have : (s.createdIds (some made)).2 ≤ s.key := hold
      omega

theorem step_tracked (hok : s.KeepsAgents call) (h : s.step limits call = .ok s')
    (hs : s.AgentsTracked) : s'.AgentsTracked := by
  have hacc : s.scene.Accountable (agentActions s.trace) :=
    ⟨hs.accountable.keyed, hs.accountable.agents,
      by rw [reported?_agentActions]; exact hs.accountable.gaps⟩
  obtain ⟨actions, hactions, htracks⟩ := step_tracks hok h hacc
  obtain ⟨hcounted, hfresh⟩ := step_counted hok h hs htracks
  have hcreated : s'.created = s.created ++ actions.filterMap created? := by
    rw [created_eq, hactions, List.filterMap_append, ← created_eq]
  constructor
  case accountable =>
    have hnew := htracks.accountable
    rw [← hactions] at hnew
    exact ⟨hnew.keyed, hnew.agents, by rw [← reported?_agentActions]; exact hnew.gaps⟩
  case sound =>
    have hsteps := htracks.steps (by rw [List.filterMap_append, ← created_eq]; exact hfresh)
    rw [← hactions, ledger_agentActions, ledger_agentActions] at hsteps
    exact hsteps.sound hs.sound
  case counted =>
    rw [hcreated]
    exact hcounted
  case fresh =>
    rw [hcreated]
    exact hfresh
  case erasedOwn =>
    intro contextId agentId info hin
    have hagent : .innerDestroyErased contextId agentId (some info) ∈ agentActions s'.trace :=
      List.mem_filter.mpr ⟨hin, rfl⟩
    rw [hactions] at hagent
    rcases List.mem_append.mp hagent with hold | hnew
    · exact hs.erasedOwn _ _ _ (List.mem_filter.mp hold).1
    · exact htracks.erasedOwn _ _ _ hnew

theorem tracked_init : AgentsTracked {} := by
  constructor
  case accountable =>
    refine ⟨?_, ?_, fun gap hgap => (List.not_mem_nil hgap).elim⟩
    · intro mac info h
      cases (AList.lookup_empty mac).symm.trans h
    · intro mac info h
      cases (AList.lookup_empty mac).symm.trans h
  case sound =>
    have hentry : ∀ mac, agentOf {} mac = none := fun _ => rfl
    constructor
    case once =>
      intro mac mac' agent h
      cases (hentry mac).symm.trans h
    case entry_created =>
      intro mac agent h
      cases (hentry mac).symm.trans h
    case entry_not_asked =>
      intro mac agent h
      cases (hentry mac).symm.trans h
    case asked_created => exact fun agent h => (List.not_mem_nil h).elim
    case asked_nodup => exact List.nodup_nil
    case conserved => exact fun agent h => (List.not_mem_nil h).elim
  case counted => exact fun agent h => (List.not_mem_nil h).elim
  case fresh => exact List.nodup_nil
  case erasedOwn => exact fun _ _ _ h => (List.not_mem_nil h).elim

/-- Agents are conserved after every call of a run that keeps to the condition. -/
theorem run_agentsConserved (run : GuardedRun (step limits) KeepsAgents {} calls s) :
    s.AgentsConserved := by
  have htracked : s.AgentsTracked := by
    apply GuardedRun.invariant (I := AgentsTracked) tracked_init _ run
    exact fun _ _ _ hi hok hstep => step_tracked hok hstep hi
  exact htracked.conserved

/-- A device leaves and comes back while the destruction of its agent is being reported. -/
def reconnectInGapCalls : List SceneCall :=
  [.setSinkRunning true, .peerConnected (peer "a") (some (2, 2)), .innerDestroy 2 3,
    .peerDisconnected (peer "a"), .peerConnected (peer "a") (some (2, 0)),
    .innerDestroyLocked 0 (some "a".toList)]

/-- The entry of the new agent is erased, and nobody knows the agent any more. -/
theorem reconnectInGap_not_agentsConserved :
    ¬ ∀ limits calls s, GuardedRun (step limits) (fun _ _ => True) {} calls s →
      s.AgentsConserved := by
  intro hall
  obtain ⟨s, hrun⟩ := Option.isSome_iff_exists.mp
    (show (GuardedRun.check (step {}) (fun _ _ => True) {} reconnectInGapCalls).isSome by
      decide +kernel)
  have hlost : (GuardedRun.check (step {}) (fun _ _ => True) {} reconnectInGapCalls).all fun s =>
      (2, 4) ∈ s.created ∧ (2, 4) ∉ s.asked ∧ (2, 4) ∉ s.reported ∧
        s.scene.devConnectionMap.entries.isEmpty := by decide +kernel
  rw [hrun] at hlost
  obtain ⟨hcreated, hasked, hreported, hempty⟩ : (2, 4) ∈ s.created ∧ (2, 4) ∉ s.asked ∧
      (2, 4) ∉ s.reported ∧ s.scene.devConnectionMap.entries = [] := by simpa using hlost
  have hconserved := hall {} _ s (GuardedRun.of_check hrun)
  obtain ⟨mac, hmac, -⟩ := hconserved.recorded (2, 4) hcreated hasked hreported
  obtain ⟨info, hinfo, -⟩ := Option.map_eq_some_iff.mp hmac
  have hmem := AList.mem_lookup_iff.mp hinfo
  rw [hempty] at hmem
  cases hmem

/-- The same device comes back after its entry is gone. -/
theorem run_reconnectAfter_agentsConserved :
    ∃ s, GuardedRun (step {}) KeepsAgents {}
        [.setSinkRunning true, .peerConnected (peer "a") (some (2, 2)), .innerDestroy 2 3,
          .innerDestroyLocked 0 none, .peerConnected (peer "a") (some (2, 0))] s ∧
      s.created = [(2, 3), (2, 4)] ∧ s.AgentsConserved := by
  obtain ⟨s, hrun⟩ := Option.isSome_iff_exists.mp
    (show (GuardedRun.check (step {}) KeepsAgents {}
      [.setSinkRunning true, .peerConnected (peer "a") (some (2, 2)), .innerDestroy 2 3,
        .innerDestroyLocked 0 none, .peerConnected (peer "a") (some (2, 0))]).isSome by
      decide +kernel)
  have hmade : (GuardedRun.check (step {}) KeepsAgents {}
      [.setSinkRunning true, .peerConnected (peer "a") (some (2, 2)), .innerDestroy 2 3,
        .innerDestroyLocked 0 none, .peerConnected (peer "a") (some (2, 0))]).all fun s =>
      s.created = [(2, 3), (2, 4)] := by decide +kernel
  rw [hrun] at hmade
  exact ⟨s, GuardedRun.of_check hrun, by simpa using hmade,
    run_agentsConserved (GuardedRun.of_check hrun)⟩

end SceneState

end WifiDisplay
