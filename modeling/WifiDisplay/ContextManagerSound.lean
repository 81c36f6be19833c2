import WifiDisplay.ContextManager
import Mathlib.Algebra.Order.BigOperators.Group.Finset

/-! The limits of the manager, and what an event that creates an agent leaves behind. -/

namespace WifiDisplay

namespace Context

variable {c : Context} {a : ContextAgent} {task : Task}

/-- The sections of `HandleStateDestroyAgent`. -/
def removing : Task → Bool
  | .handleStateDestroyAgent _ | .removeAgent _ | .checkNeedDestroySink _ | .getDestroy _
  | .checkEmptySrcAgent _ => true
  | _ => false

/-- A section that removes leaves the context as it is, but for the agent that it removes. -/
theorem advance_removing (h : removing task = true) :
    ((c.advance task).2.1 = .idle ∨ removing (c.advance task).2.1 = true) ∧
      ((c.advance task).1 = c ∧ (∀ a, task ≠ .removeAgent a) ∨
        ∃ a, task = .removeAgent a ∧ (c.advance task).1 = c.removeAgent a.agentId) := by
  cases task with
  | handleStateDestroyAgent agentId =>
    simp only [advance]
    split
    · exact ⟨Or.inl rfl, Or.inl ⟨rfl, nofun⟩⟩
    · exact ⟨Or.inr rfl, Or.inl ⟨rfl, nofun⟩⟩
  | removeAgent a =>
    cases a with
    | sink agentId => exact ⟨Or.inl rfl, Or.inr ⟨_, rfl, rfl⟩⟩
    | src agentId sinkAgentId => exact ⟨Or.inr rfl, Or.inr ⟨_, rfl, rfl⟩⟩
  | checkNeedDestroySink sinkAgentId =>
    simp only [advance]
    split
    · exact ⟨Or.inl rfl, Or.inl ⟨rfl, nofun⟩⟩
    · exact ⟨Or.inr rfl, Or.inl ⟨rfl, nofun⟩⟩
  | getDestroy sinkAgentId =>
    simp only [advance]
    split
    · exact ⟨Or.inr rfl, Or.inl ⟨rfl, nofun⟩⟩
    · exact ⟨Or.inl rfl, Or.inl ⟨rfl, nofun⟩⟩
  | checkEmptySrcAgent sinkAgentId =>
    simp only [advance]
    split <;> exact ⟨Or.inl rfl, Or.inl ⟨rfl, nofun⟩⟩
  | _ => cases h

theorem agentSize_eq (c : Context) (agentType : AgentType) :
    c.agentSize agentType = c.agents.countP fun a => a.agentType = agentType := by
  cases agentType <;> rfl

theorem agentSize_removeAgent (c : Context) (agentId : BitVec 32) (agentType : AgentType) :
    (c.removeAgent agentId).agentSize agentType ≤ c.agentSize agentType := by
  rw [agentSize_eq, agentSize_eq]
  exact List.Sublist.countP_le List.filter_sublist

theorem agentSize_emplace (c : Context) (a : ContextAgent) (agentType : AgentType) :
    (c.emplace a).agentSize agentType ≤ c.agentSize agentType + if a.agentType = agentType then 1 else 0 := by
  rw [emplace]
  split
  · exact Nat.le_add_right _ _
  · rw [agentSize_eq, agentSize_eq, List.countP_append]
    simp [List.countP_singleton]

end Context

namespace ContextManager

variable {m : ContextManager} {dstId : BitVec 32} {c : Context} {agentType : AgentType}

theorem agentSize_update {n : Nat} (h : c.agentSize agentType ≤ (m.objects dstId).agentSize agentType + n) :
    ({ m with objects := Function.update m.objects dstId c } : ContextManager).agentSize agentType ≤
      m.agentSize agentType + n := by
  have hone : ∀ id, (Function.update m.objects dstId c id).agentSize agentType ≤
      (m.objects id).agentSize agentType + if id = dstId then n else 0 := by
    intro id
    by_cases hid : id = dstId
    · subst hid
      rw [Function.update_self, if_pos rfl]
      exact h
    · rw [Function.update_of_ne hid]
      exact Nat.le_add_right _ _
  calc ∑ id ∈ m.contexts, (Function.update m.objects dstId c id).agentSize agentType
      ≤ ∑ id ∈ m.contexts, ((m.objects id).agentSize agentType + if id = dstId then n else 0) :=
        Finset.sum_le_sum fun id _ => hone id
    _ = m.agentSize agentType + ∑ id ∈ m.contexts, if id = dstId then n else 0 := Finset.sum_add_distrib
    _ ≤ m.agentSize agentType + n := by
        rw [Finset.sum_ite_eq']
        split <;> omega

end ContextManager

namespace ManagerThreads

open ContextManager Tally

variable {ι : Type*}

/-- The thread has removed an agent of the context, or is to remove one, and is still to ask
whether it is empty. -/
def empties (dstId : BitVec 32) : Task → Bool
  | .inContext id _ .destroy | .isEmptyAgent id | .destroyContext id => id = dstId
  | _ => false

/-- The thread is still to create the agent that the context was made for. -/
def makes (dstId : BitVec 32) : Task → Bool
  | .handleContextEvent id _ made | .handleEvent id _ (.create made)
  | .inContext id _ (.create made) => made && id = dstId
  | _ => false

/-- The limits hold. An event that fails has changed nothing: contexts and agents are there
for events that created an agent, or are still to create one. An agent that was reported
created is in one of the contexts until it is removed, and a context that has become empty
is removed. -/
structure Sound (limits : ContextLimits) (s : ManagerThreads ι) : Prop where
  contexts : s.manager.contexts.card ≤ limits.maxContext.toNat
  agents : ∀ agentType, s.manager.agentSize agentType ≤ (limits.agentLimit agentType).toNat
  failed : .failed true ∉ s.reports
  contextsMade : ∀ dstId ∈ s.manager.contexts,
    (∃ agentId, .created dstId agentId ∈ s.reports) ∨ ∃ i, makes dstId (s.tasks i) = true
  agentsMade : ∀ dstId, ∀ a ∈ (s.manager.objects dstId).agents, .created dstId a.agentId ∈ s.reports
  created : ∀ dstId agentId, .created dstId agentId ∈ s.reports → .removed dstId agentId ∈ s.reports ∨
    dstId ∈ s.manager.contexts ∧ ∃ a ∈ (s.manager.objects dstId).agents, a.agentId = agentId
  emptied : ∀ dstId ∈ s.manager.contexts, (∃ agentId, .created dstId agentId ∈ s.reports) →
    (∀ i, empties dstId (s.tasks i) = false) → (s.manager.objects dstId).isEmptyAgent = false

/-- The creation in a context does not fail where the context was made for it, and what was
checked still holds when the agent is inserted. -/
def UndisturbedIn (limits : ContextLimits) (s : ManagerThreads ι) (dstId : BitVec 32) (made : Bool) :
    Context.Task → Prop
  | .makeAgent r => made = true → ((s.manager.objects dstId).makeAgent r).isSome = true
  | .insert a => dstId ∈ s.manager.contexts ∧
      (s.manager.objects dstId).getAgentById a.agentId = none ∧
      s.manager.agentSize a.agentType < (limits.agentLimit a.agentType).toNat
  | _ => True

/-- The identifiers that are made are new, a context that was made for an event is there until
its agent is inserted, and a context that is destroyed is still empty. -/
def Undisturbed (limits : ContextLimits) (s : ManagerThreads ι) : Task → Prop
  | .handleContextCreate r => s.manager.contexts.card < limits.maxContext.toNat →
      r.contextId ≠ ContextManager.invalidId ∧ r.contextId ∉ s.manager.contexts ∧
        s.manager.objects r.contextId = {}
  | .handleContextEvent dstId _ made => made = true → dstId ∈ s.manager.contexts
  | .handleEvent dstId _ (.create made) => made = true → (s.manager.objects dstId).destroying = false
  | .inContext dstId task (.create made) => s.UndisturbedIn limits dstId made task
  | .destroyContext dstId => dstId ∈ s.manager.contexts → (s.manager.objects dstId).agents = []
  | _ => True

def Move.Undisturbed (limits : ContextLimits) (s : ManagerThreads ι) : Move ι → Prop
  | .event _ _ => True
  | .run i => s.Undisturbed limits (s.tasks i)

def Placed : Task → Prop
  | .handleEvent _ e (.create _) => ∃ r, e = .agentCreate r
  | .handleEvent _ e .destroy => ∃ agentId, e = .stateAgentDestroy agentId
  | .inContext _ task (.create _) => (∃ r, task = .makeAgent r) ∨ ∃ a, task = .insert a
  | .inContext _ task .destroy => Context.removing task = true
  | _ => True

structure Kept (limits : ContextLimits) (s : ManagerThreads ι) : Prop where
  contexts : s.manager.contexts.card ≤ limits.maxContext.toNat
  agents : ∀ agentType, s.manager.agentSize agentType ≤ (limits.agentLimit agentType).toNat
  failed : .failed true ∉ s.reports
  contextsMade : ∀ dstId ∈ s.manager.contexts,
    (∃ agentId, .created dstId agentId ∈ s.reports) ∨ ∃ i, makes dstId (s.tasks i) = true
  agentsMade : ∀ dstId, ∀ a ∈ (s.manager.objects dstId).agents, .created dstId a.agentId ∈ s.reports
  created : ∀ dstId agentId, .created dstId agentId ∈ s.reports → .removed dstId agentId ∈ s.reports ∨
    dstId ∈ s.manager.contexts ∧ ∃ a ∈ (s.manager.objects dstId).agents, a.agentId = agentId
  known : ∀ dstId agentId, .created dstId agentId ∈ s.reports →
    dstId ∈ s.manager.contexts ∨ (s.manager.objects dstId).destroying = true
  emptied : ∀ dstId ∈ s.manager.contexts, (∃ agentId, .created dstId agentId ∈ s.reports) →
    (s.manager.objects dstId).agents = [] → ∃ i, empties dstId (s.tasks i) = true
  placed : ∀ i, Placed (s.tasks i)

variable {limits : ContextLimits} {s s' : ManagerThreads ι} {i : ι} {dstId : BitVec 32}

theorem Kept.sound (hs : s.Kept limits) : s.Sound limits where
  contexts := hs.contexts
  agents := hs.agents
  failed := hs.failed
  contextsMade := hs.contextsMade
  agentsMade := hs.agentsMade
  created := hs.created
  emptied dstId hdst hcreated hidle := by
    refine Bool.eq_false_iff.mpr fun hempty => ?_
    obtain ⟨i, hi⟩ := hs.emptied dstId hdst hcreated (List.isEmpty_iff.mp hempty)
    rw [hidle i] at hi
    cases hi

variable [DecidableEq ι]

theorem placed_update (hs : s.Kept limits) {task : Task} (h : Placed task) :
    ∀ j, Placed (Function.update s.tasks i task j) := by
  intro j
  by_cases hji : j = i
  · rw [hji, Function.update_self]
    exact h
  · rw [Function.update_of_ne hji]
    exact hs.placed j

/-- Contexts may change in the agents that the reports name. -/
theorem Kept.changes (hs : s.Kept limits) {objects : BitVec 32 → Context} {task : Task}
    {new : List Report} (hplaced : Placed task) (hfailed : .failed true ∉ new)
    (hsize : ∀ agentType, ({ s.manager with objects } : ContextManager).agentSize agentType ≤
      (limits.agentLimit agentType).toNat)
    (hadded : ∀ id, ∀ a ∈ (objects id).agents,
      a ∈ (s.manager.objects id).agents ∨ .created id a.agentId ∈ new)
    (hlost : ∀ id, ∀ a ∈ (s.manager.objects id).agents,
      a ∈ (objects id).agents ∨ .removed id a.agentId ∈ new)
    (hcreated : ∀ id agentId, .created id agentId ∈ new →
      id ∈ s.manager.contexts ∧ ∃ a ∈ (objects id).agents, a.agentId = agentId)
    (hdestroying : ∀ id, (objects id).destroying = (s.manager.objects id).destroying)
    (hempties : ∀ id ∈ s.manager.contexts, (objects id).agents = [] → empties id task = true ∨
      (s.manager.objects id).agents = [] ∧ empties id (s.tasks i) = false)
    (hmakes : ∀ id, makes id (s.tasks i) = true →
      makes id task = true ∨ ∃ agentId, .created id agentId ∈ new) :
    Kept limits {
      manager := { s.manager with objects }
      tasks := Function.update s.tasks i task, reports := s.reports ++ new } := by
  refine ⟨hs.contexts, hsize, ?_, ?_, ?_, ?_, ?_, ?_, placed_update hs hplaced⟩
  · exact fun h => (List.mem_append.mp h).elim hs.failed hfailed
  · intro id hid
    rcases hs.contextsMade id hid with ⟨agentId, h⟩ | hmade
    · exact Or.inl ⟨agentId, List.mem_append_left _ h⟩
    · by_cases hi : makes id (s.tasks i) = true
      · rcases hmakes id hi with htask | ⟨agentId, h⟩
        · exact Or.inr (exists_update hmade fun _ => htask)
        · exact Or.inl ⟨agentId, List.mem_append_right _ h⟩
      · exact Or.inr (exists_update hmade fun h => absurd h hi)
  · intro id a ha
    rcases hadded id a ha with ha | h
    · exact List.mem_append_left _ (hs.agentsMade id a ha)
    · exact List.mem_append_right _ h
  · intro id agentId h
    rcases List.mem_append.mp h with h | h
    · rcases hs.created id agentId h with hremoved | ⟨hid, a, ha, rfl⟩
      · exact Or.inl (List.mem_append_left _ hremoved)
      · rcases hlost id a ha with ha | hremoved
        · exact Or.inr ⟨hid, a, ha, rfl⟩
        · exact Or.inl (List.mem_append_right _ hremoved)
    · exact Or.inr (hcreated id agentId h)
  · intro id agentId h
    simp only [hdestroying]
    rcases List.mem_append.mp h with h | h
    · exact hs.known id agentId h
    · exact Or.inl (hcreated id agentId h).1
  · rintro id hid ⟨agentId, h⟩ hnone
    rcases List.mem_append.mp h with h | h
    · rcases hempties id hid hnone with htask | ⟨hbefore, hi⟩
      · exact ⟨i, by simp only [Function.update_self]; exact htask⟩
      · refine exists_update (hs.emptied id hid ⟨agentId, h⟩ hbefore) fun hasks => ?_
        rw [hi] at hasks
        cases hasks
    · obtain ⟨-, a, ha, -⟩ := hcreated id agentId h
      have hnone : (objects id).agents = [] := hnone
      rw [hnone] at ha
      cases ha

theorem Kept.proceeds (hs : s.Kept limits) {task : Task} {new : List Report} (hplaced : Placed task)
    (hnew : ∀ r ∈ new, r = .failed false)
    (hempties : ∀ dstId ∈ s.manager.contexts, (s.manager.objects dstId).agents = [] →
      empties dstId (s.tasks i) = true → empties dstId task = true)
    (hmakes : ∀ dstId, makes dstId (s.tasks i) = true → makes dstId task = true) :
    Kept limits { s with tasks := Function.update s.tasks i task, reports := s.reports ++ new } := by
  have hcreated : ∀ id agentId, .created id agentId ∉ new := fun id agentId h => by cases hnew _ h
  refine hs.changes hplaced (fun h => by cases hnew _ h) hs.agents (fun _ _ ha => Or.inl ha)
    (fun _ _ ha => Or.inl ha) (fun id agentId h => absurd h (hcreated id agentId)) (fun _ => rfl) ?_
    fun id h => Or.inl (hmakes id h)
  intro id hid hnone
  cases hi : empties id (s.tasks i) with
  | false => exact Or.inr ⟨hnone, rfl⟩
  | true => exact Or.inl (hempties id hid hnone hi)

/-- A context is made, with an identifier that is new, and its agent is still to be created. -/
theorem Kept.createContext {contextId : BitVec 32} {r : Context.Creation} (hs : s.Kept limits)
    (hi : ∀ id, empties id (s.tasks i) = false ∧ makes id (s.tasks i) = false)
    (hroom : s.manager.contexts.card < limits.maxContext.toNat)
    (hnew : contextId ∉ s.manager.contexts) (hfresh : s.manager.objects contextId = {}) :
    Kept limits { s with
      manager := s.manager.createContext contextId
      tasks := Function.update s.tasks i (.handleContextEvent contextId r true) } := by
  have hcreate : s.manager.createContext contextId =
      { contexts := insert contextId s.manager.contexts, objects := s.manager.objects } := by
    rw [ContextManager.createContext, if_neg hnew, ← hfresh, Function.update_eq_self]
  rw [hcreate]
  refine ⟨?_, ?_, hs.failed, ?_, hs.agentsMade, ?_, ?_, ?_, placed_update hs trivial⟩
  · rw [Finset.card_insert_of_notMem hnew]
    exact hroom
  · intro agentType
    have hzero : (s.manager.objects contextId).agentSize agentType = 0 := by
      rw [hfresh, Context.agentSize_eq]
      rfl
    show ∑ id ∈ insert contextId s.manager.contexts, _ ≤ _
    rw [Finset.sum_insert hnew, hzero, Nat.zero_add]
    exact hs.agents agentType
  · intro dstId hdst
    rcases Finset.mem_insert.mp hdst with rfl | hdst
    · refine Or.inr ⟨i, ?_⟩
      simp [makes]
    · refine (hs.contextsMade dstId hdst).imp_right fun hmade => exists_update hmade fun h => ?_
      rw [(hi dstId).2] at h
      cases h
  · intro dstId agentId h
    exact (hs.created dstId agentId h).imp_right fun ⟨hdst, hthere⟩ =>
      ⟨Finset.mem_insert_of_mem hdst, hthere⟩
  · intro dstId agentId h
    exact (hs.known dstId agentId h).imp_left Finset.mem_insert_of_mem
  · rintro dstId hdst ⟨agentId, h⟩ hempty
    rcases Finset.mem_insert.mp hdst with rfl | hdst
    · rcases hs.known dstId agentId h with hin | hdestroying
      · exact absurd hin hnew
      · rw [hfresh] at hdestroying
        cases hdestroying
    · refine exists_update (hs.emptied dstId hdst ⟨agentId, h⟩ hempty) fun hasks => ?_
      rw [(hi dstId).1] at hasks
      cases hasks

omit [DecidableEq ι] in
theorem Kept.releaseContext (hs : s.Kept limits)
    (hempty : dstId ∈ s.manager.contexts → (s.manager.objects dstId).agents = []) :
    Kept limits { s with manager := s.manager.releaseContext dstId } := by
  rw [ContextManager.releaseContext]
  split
  · rename_i hin
    have hother : ∀ id, id ≠ dstId →
        Function.update s.manager.objects dstId (s.manager.objects dstId).release id = s.manager.objects id :=
      fun id hid => Function.update_of_ne hid _ _
    refine ⟨?_, ?_, hs.failed, ?_, ?_, ?_, ?_, ?_, hs.placed⟩
    · exact Nat.le_trans Finset.card_erase_le hs.contexts
    · intro agentType
      refine Nat.le_trans ?_ (hs.agents agentType)
      show ∑ id ∈ s.manager.contexts.erase dstId, _ ≤ ∑ id ∈ s.manager.contexts, _
      calc ∑ id ∈ s.manager.contexts.erase dstId,
            (Function.update s.manager.objects dstId (s.manager.objects dstId).release id).agentSize agentType
          = ∑ id ∈ s.manager.contexts.erase dstId, (s.manager.objects id).agentSize agentType :=
            Finset.sum_congr rfl fun id hid => by rw [hother id (Finset.ne_of_mem_erase hid)]
        _ ≤ ∑ id ∈ s.manager.contexts, (s.manager.objects id).agentSize agentType :=
            Finset.sum_le_sum_of_subset (Finset.erase_subset _ _)
    · exact fun id hid => hs.contextsMade id (Finset.mem_of_mem_erase hid)
    · intro id a ha
      by_cases hid : id = dstId
      · subst hid
        simp only [Function.update_self] at ha
        cases ha
      · simp only [hother id hid] at ha
        exact hs.agentsMade id a ha
    · intro id agentId h
      rcases hs.created id agentId h with hremoved | ⟨hid, a, ha, haid⟩
      · exact Or.inl hremoved
      · have hne : id ≠ dstId := by
          rintro rfl
          rw [hempty hin] at ha
          cases ha
        refine Or.inr ⟨Finset.mem_erase_of_ne_of_mem hne hid, a, ?_, haid⟩
        simp only [hother id hne]
        exact ha
    · intro id agentId h
      by_cases hid : id = dstId
      · subst hid
        right
        simp only [Function.update_self]
        rfl
      · rcases hs.known id agentId h with hin | hdestroying
        · exact Or.inl (Finset.mem_erase_of_ne_of_mem hid hin)
        · right
          simp only [hother id hid]
          exact hdestroying
    · intro id hid hcreated hnone
      have hne := Finset.ne_of_mem_erase hid
      simp only [hother id hne] at hnone
      exact hs.emptied id (Finset.mem_of_mem_erase hid) hcreated hnone
  · exact hs

/-- An agent is inserted below the limit into a context of the manager. -/
theorem Kept.insert {a : ContextAgent} {made : Bool} (hs : s.Kept limits)
    (hi : s.tasks i = .inContext dstId (.insert a) (.create made))
    (hok : s.Undisturbed limits (.inContext dstId (.insert a) (.create made))) :
    Kept limits {
      manager := { s.manager with
        objects := Function.update s.manager.objects dstId ((s.manager.objects dstId).emplace a) }
      tasks := Function.update s.tasks i .idle
      reports := s.reports ++ [.created dstId a.agentId] } := by
  obtain ⟨hdst, hnew, hroom⟩ := hok
  have hemplace : (s.manager.objects dstId).emplace a =
      { s.manager.objects dstId with agents := (s.manager.objects dstId).agents ++ [a] } := by
    rw [Context.emplace, hnew]
    rfl
  have hsize := fun agentType => agentSize_update (m := s.manager)
    (Context.agentSize_emplace (s.manager.objects dstId) a agentType)
  rw [hemplace] at hsize ⊢
  refine hs.changes trivial (by simp) ?_ ?_ ?_ ?_ ?_ ?_ ?_
  · intro agentType
    refine Nat.le_trans (hsize agentType) ?_
    by_cases htype : a.agentType = agentType
    · subst htype
      rw [if_pos rfl]
      exact hroom
    · rw [if_neg htype]
      exact hs.agents agentType
  · intro id b hb
    rcases eq_or_ne id dstId with rfl | hid
    · rw [Function.update_self] at hb
      rcases List.mem_append.mp hb with hb | hb
      · exact Or.inl hb
      · obtain rfl : b = a := List.mem_singleton.mp hb
        exact Or.inr (List.mem_singleton_self _)
    · rw [Function.update_of_ne hid] at hb
      exact Or.inl hb
  · intro id b hb
    rcases eq_or_ne id dstId with rfl | hid
    · rw [Function.update_self]
      exact Or.inl (List.mem_append_left _ hb)
    · rw [Function.update_of_ne hid]
      exact Or.inl hb
  · intro id agentId h
    obtain ⟨rfl, rfl⟩ := Report.created.inj (List.mem_singleton.mp h)
    refine ⟨hdst, a, ?_, rfl⟩
    rw [Function.update_self]
    exact List.mem_append_right _ (List.mem_singleton_self a)
  · intro id
    rcases eq_or_ne id dstId with rfl | hid
    · rw [Function.update_self]
    · rw [Function.update_of_ne hid]
  · intro id _ hnone
    rw [hi]
    by_cases hid : id = dstId
    · subst hid
      rw [Function.update_self] at hnone
      exact absurd hnone (List.append_ne_nil_of_right_ne_nil _ (List.cons_ne_nil a []))
    · rw [Function.update_of_ne hid] at hnone
      exact Or.inr ⟨hnone, rfl⟩
  · intro id h
    rw [hi] at h
    obtain rfl : dstId = id := of_decide_eq_true (Bool.and_eq_true_iff.mp h).2
    exact Or.inr ⟨a.agentId, List.mem_singleton_self _⟩

/-- An agent is removed, and its thread is still to ask whether the context is empty. -/
theorem Kept.removeAgent {agentId : BitVec 32} {task : Task} (hs : s.Kept limits)
    (hi : ∀ id, empties id (s.tasks i) = true → dstId = id)
    (hmakes : ∀ id, makes id (s.tasks i) = false) (hplaced : Placed task)
    (hempties : empties dstId task = true) :
    Kept limits {
      manager := { s.manager with
        objects := Function.update s.manager.objects dstId ((s.manager.objects dstId).removeAgent agentId) }
      tasks := Function.update s.tasks i task
      reports := s.reports ++ [.removed dstId agentId] } := by
  refine hs.changes hplaced (by simp) ?_ ?_ ?_ (by simp) ?_ ?_ ?_
  · intro agentType
    have hsize := agentSize_update (m := s.manager) (n := 0)
      (Context.agentSize_removeAgent (s.manager.objects dstId) agentId agentType)
    exact Nat.le_trans hsize (hs.agents agentType)
  · intro id b hb
    rcases eq_or_ne id dstId with rfl | hid
    · rw [Function.update_self] at hb
      exact Or.inl (List.mem_of_mem_filter hb)
    · rw [Function.update_of_ne hid] at hb
      exact Or.inl hb
  · intro id b hb
    rcases eq_or_ne id dstId with rfl | hid
    · by_cases hgone : b.agentId = agentId
      · right
        rw [hgone]
        exact List.mem_singleton_self _
      · rw [Function.update_self]
        exact Or.inl (List.mem_filter.mpr ⟨hb, decide_eq_true hgone⟩)
    · rw [Function.update_of_ne hid]
      exact Or.inl hb
  · intro id
    rcases eq_or_ne id dstId with rfl | hid
    · rw [Function.update_self]
      rfl
    · rw [Function.update_of_ne hid]
  · intro id _ hnone
    by_cases hid : id = dstId
    · exact Or.inl (hid ▸ hempties)
    · rw [Function.update_of_ne hid] at hnone
      exact Or.inr ⟨hnone, Bool.eq_false_iff.mpr fun h => hid (hi id h).symm⟩
  · intro id h
    rw [hmakes id] at h
    cases h

end ManagerThreads

end WifiDisplay
