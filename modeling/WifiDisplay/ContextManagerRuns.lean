import WifiDisplay.ContextManagerSound

/-! Runs of the threads of the manager whose sections do not disturb one another. -/

namespace WifiDisplay

namespace ManagerThreads

open ContextManager Tally

variable {ι : Type*} [DecidableEq ι] {limits : ContextLimits} {s s' : ManagerThreads ι} {i : ι}
  {dstId : BitVec 32}

/-- What the section of thread `i` leaves. -/
def advanced (s : ManagerThreads ι) (limits : ContextLimits) (i : ι) (task : Task) : ManagerThreads ι where
  manager := (s.manager.advance limits task).1
  tasks := Function.update s.tasks i (s.manager.advance limits task).2.1
  reports := s.reports ++ (s.manager.advance limits task).2.2

/-- The section changes nothing, and the thread goes on elsewhere. -/
theorem Kept.quiet {old task : Task} {new : List Report} (hs : s.Kept limits) (hi : s.tasks i = old)
    (hold : ∀ id, empties id old = false) (htask : Placed task) (hnew : ∀ r ∈ new, r = .failed false)
    (hmakes : ∀ id, makes id old = true → makes id task = true) :
    Kept limits { s with tasks := Function.update s.tasks i task, reports := s.reports ++ new } := by
  rw [← hi] at hmakes
  refine hs.proceeds htask hnew (fun id _ _ h => ?_) hmakes
  rw [hi, hold id] at h
  cases h

/-- A section of `HandleStateDestroyAgent`. -/
theorem Kept.removing {task : Context.Task} (hs : s.Kept limits)
    (hi : s.tasks i = .inContext dstId task .destroy) :
    (s.advanced limits i (.inContext dstId task .destroy)).Kept limits := by
  have hremoving : Context.removing task = true := by
    have hplaced := hs.placed i
    rw [hi] at hplaced
    exact hplaced
  have hasks : ∀ id, empties id (s.tasks i) = true → dstId = id := by
    intro id h
    rw [hi] at h
    exact of_decide_eq_true h
  have hmakes : ∀ id, makes id (s.tasks i) = false := by
    intro id
    rw [hi]
    rfl
  obtain ⟨hnext, hcontext⟩ := Context.advance_removing (c := s.manager.objects dstId) hremoving
  let objects := Function.update s.manager.objects dstId ((s.manager.objects dstId).advance task).1
  -- the thread goes on in the context, or asks whether it is empty
  obtain ⟨next, hadvance, hplaced, hempties⟩ : ∃ next,
      s.manager.advance limits (.inContext dstId task .destroy) =
        ({ s.manager with objects }, next, removedBy dstId task) ∧ Placed next ∧
          empties dstId next = true := by
    by_cases hidle : ((s.manager.objects dstId).advance task).2.1 = .idle
    · refine ⟨.isEmptyAgent dstId, ?_, trivial, decide_eq_true rfl⟩
      simp only [ContextManager.advance, hidle, if_true, leave, List.append_nil]
      rfl
    · refine ⟨.inContext dstId ((s.manager.objects dstId).advance task).2.1 .destroy, ?_,
        hnext.resolve_left hidle, decide_eq_true rfl⟩
      simp only [ContextManager.advance, hidle, if_false]
      rfl
  simp only [advanced, hadvance, objects]
  rcases hcontext with ⟨hsame, hno⟩ | ⟨a, rfl, hremoved⟩
  · have hnone : removedBy dstId task = [] := by
      cases task <;> first | rfl | exact absurd rfl (hno _)
    rw [hsame, Function.update_eq_self, hnone]
    refine hs.proceeds hplaced nofun ?_ ?_
    · intro id _ _ h
      obtain rfl := hasks id h
      exact hempties
    · intro id h
      rw [hmakes id] at h
      cases h
  · rw [hremoved]
    exact hs.removeAgent hasks hmakes hplaced hempties

omit [DecidableEq ι] in
theorem advance_makeAgent {m : ContextManager} {r : Context.Creation} {made : Bool} :
    m.advance limits (.inContext dstId (.makeAgent r) (.create made)) =
      match (m.objects dstId).makeAgent r with
      | some a => (m, .inContext dstId (.insert a) (.create made), [])
      | none => (m, .idle, [.failed made]) := by
  rcases Option.eq_none_or_eq_some ((m.objects dstId).makeAgent r) with hmake | ⟨a, hmake⟩
  · simp only [ContextManager.advance, Context.advance, hmake, Function.update_eq_self]
    rfl
  · simp only [ContextManager.advance, Context.advance, hmake, Function.update_eq_self]
    rfl

theorem Kept.handleContextCreate {r : AgentCreate} (hs : s.Kept limits)
    (hi : s.tasks i = .handleContextCreate r) (hok : s.Undisturbed limits (.handleContextCreate r)) :
    (s.advanced limits i (.handleContextCreate r)).Kept limits := by
  simp only [advanced, ContextManager.advance]
  split
  · exact hs.quiet hi (fun _ => rfl) trivial (by simp) nofun
  · rename_i hroom
    obtain ⟨hvalid, hnew, hfresh⟩ := hok (Nat.lt_of_not_le hroom)
    rw [if_neg hvalid]
    simp only [List.append_nil]
    exact hs.createContext (fun id => by rw [hi]; exact ⟨rfl, rfl⟩) (Nat.lt_of_not_le hroom) hnew hfresh

theorem Kept.handleContextEvent {r : Context.Creation} {made : Bool} (hs : s.Kept limits)
    (hi : s.tasks i = .handleContextEvent dstId r made)
    (hok : s.Undisturbed limits (.handleContextEvent dstId r made)) :
    (s.advanced limits i (.handleContextEvent dstId r made)).Kept limits := by
  simp only [advanced, ContextManager.advance]
  split
  · exact hs.quiet hi (fun _ => rfl) ⟨r, rfl⟩ nofun (fun _ h => h)
  · rename_i hgone
    obtain rfl : made = false := Bool.eq_false_iff.mpr fun h => hgone (hok h)
    exact hs.quiet hi (fun _ => rfl) trivial (by simp) nofun

/-- The event enters the context, unless that one is being released. -/
theorem Kept.handleEvent {e : Context.Event} {purpose : Purpose} (hs : s.Kept limits)
    (hi : s.tasks i = .handleEvent dstId e purpose)
    (hok : s.Undisturbed limits (.handleEvent dstId e purpose)) :
    (s.advanced limits i (.handleEvent dstId e purpose)).Kept limits := by
  have hplaced := hs.placed i
  rw [hi] at hplaced
  simp only [advanced, ContextManager.advance]
  cases purpose with
  | create made =>
    obtain ⟨r, rfl⟩ := hplaced
    split
    · rename_i hdestroying
      obtain rfl : made = false := by
        refine Bool.eq_false_iff.mpr fun h => ?_
        rw [hok h] at hdestroying
        cases hdestroying
      exact hs.quiet hi (fun _ => rfl) trivial (by simp [leave]) nofun
    · exact hs.quiet hi (fun _ => rfl) (Or.inl ⟨r, rfl⟩) nofun (fun _ h => h)
  | destroy =>
    obtain ⟨agentId, rfl⟩ := hplaced
    split
    · exact hs.quiet hi (fun _ => rfl) trivial nofun nofun
    · exact hs.quiet hi (fun _ => rfl) rfl nofun nofun

/-- A section of `HandleCreateAgent`. -/
theorem Kept.creating {task : Context.Task} {made : Bool} (hs : s.Kept limits)
    (hi : s.tasks i = .inContext dstId task (.create made))
    (hok : s.Undisturbed limits (.inContext dstId task (.create made))) :
    (s.advanced limits i (.inContext dstId task (.create made))).Kept limits := by
  have hplaced := hs.placed i
  rw [hi] at hplaced
  rcases hplaced with ⟨r, rfl⟩ | ⟨a, rfl⟩
  · rw [advanced, advance_makeAgent]
    split
    · exact hs.quiet hi (fun _ => rfl) (Or.inr ⟨_, rfl⟩) nofun (fun _ h => h)
    · rename_i hnone
      obtain rfl : made = false := by
        refine Bool.eq_false_iff.mpr fun h => ?_
        have hsome := hok h
        rw [hnone] at hsome
        cases hsome
      exact hs.quiet hi (fun _ => rfl) trivial (by simp) nofun
  · exact hs.insert hi hok

theorem Kept.isEmptyAgent (hs : s.Kept limits) (hi : s.tasks i = .isEmptyAgent dstId) :
    (s.advanced limits i (.isEmptyAgent dstId)).Kept limits := by
  simp only [advanced, ContextManager.advance]
  split
  · refine hs.proceeds trivial nofun ?_ ?_
    · intro id _ _ h
      rw [hi] at h
      exact h
    · intro id h
      rw [hi] at h
      cases h
  · rename_i hsome
    refine hs.proceeds trivial nofun ?_ ?_
    · intro id _ hempty h
      rw [hi] at h
      obtain rfl : dstId = id := of_decide_eq_true h
      exact absurd (List.isEmpty_iff.mpr hempty) hsome
    · intro id h
      rw [hi] at h
      cases h

theorem Kept.destroyContext (hs : s.Kept limits) (hi : s.tasks i = .destroyContext dstId)
    (hok : s.Undisturbed limits (.destroyContext dstId)) :
    (s.advanced limits i (.destroyContext dstId)).Kept limits := by
  refine (hs.releaseContext hok).proceeds trivial nofun ?_ ?_
  · intro id hin _ h
    rw [hi] at h
    obtain rfl : dstId = id := of_decide_eq_true h
    rw [ContextManager.releaseContext] at hin
    split at hin
    · exact absurd hin (Finset.notMem_erase dstId _)
    · rename_i hgone
      exact absurd hin hgone
  · intro id h
    rw [hi] at h
    cases h

/-- One section of a thread keeps the invariant. -/
theorem Kept.run (hs : s.Kept limits) (hok : s.Undisturbed limits (s.tasks i))
    (h : s.step limits (.run i) = .ok s') : s'.Kept limits := by
  obtain rfl : s' = s.advanced limits i (s.tasks i) := by
    cases h
    rfl
  cases hi : s.tasks i with
  | idle => exact hs.quiet hi (fun _ => rfl) trivial nofun nofun
  | checkAgentSize r =>
    simp only [advanced, ContextManager.advance]
    split
    · exact hs.quiet hi (fun _ => rfl) trivial nofun nofun
    · exact hs.quiet hi (fun _ => rfl) trivial (by simp) nofun
  | getContextById r =>
    simp only [advanced, ContextManager.advance]
    split <;> exact hs.quiet hi (fun _ => rfl) trivial nofun nofun
  | handleContextCreate r => exact hs.handleContextCreate hi (hi ▸ hok)
  | handleContextEvent dstId r made => exact hs.handleContextEvent hi (hi ▸ hok)
  | handleMediachannelDestroy dstId agentId =>
    simp only [advanced, ContextManager.advance]
    split
    · exact hs.quiet hi (fun _ => rfl) ⟨agentId, rfl⟩ nofun nofun
    · exact hs.quiet hi (fun _ => rfl) trivial nofun nofun
  | handleEvent dstId e purpose => exact hs.handleEvent hi (hi ▸ hok)
  | inContext dstId task purpose =>
    cases purpose with
    | create made => exact hs.creating hi (hi ▸ hok)
    | destroy => exact hs.removing hi
  | isEmptyAgent dstId => exact hs.isEmptyAgent hi
  | destroyContext dstId => exact hs.destroyContext hi (hi ▸ hok)

theorem Kept.event (hs : s.Kept limits) {e : Event} (h : s.step limits (.event i e) = .ok s') :
    s'.Kept limits := by
  simp only [step] at h
  split at h
  · cases h
  · rename_i hidle
    cases h
    have hplaced : Placed (begin e) := by cases e <;> trivial
    rw [← List.append_nil s.reports]
    have hidle := not_not.mp hidle
    refine hs.proceeds hplaced nofun ?_ ?_
    · intro id _ _ h
      rw [hidle] at h
      cases h
    · intro id h
      rw [hidle] at h
      cases h

omit [DecidableEq ι] in
theorem kept_init : Kept limits ({} : ManagerThreads ι) where
  contexts := Nat.zero_le _
  agents _ := Nat.zero_le _
  failed := nofun
  contextsMade _ h := absurd h (Finset.notMem_empty _)
  agentsMade := nofun
  created := nofun
  known := nofun
  emptied _ h := absurd h (Finset.notMem_empty _)
  placed _ := trivial

/-- In a run whose sections do not disturb one another, the limits hold and agents are
created whole. -/
theorem run_sound (limits : ContextLimits) (moves : List (Move ι)) (s : ManagerThreads ι)
    (run : GuardedRun (step limits) (Move.Undisturbed limits) {} moves s) : s.Sound limits := by
  refine (run.invariant (I := Kept limits) kept_init ?_).sound
  intro s move s' hs hok hstep
  cases move with
  | event i e => exact hs.event hstep
  | run i => exact hs.run hok hstep

section Decidable

omit [DecidableEq ι]

instance (limits : ContextLimits) (s : ManagerThreads ι) (dstId : BitVec 32) (made : Bool) :
    ∀ task, Decidable (s.UndisturbedIn limits dstId made task)
  | .makeAgent _ => inferInstanceAs (Decidable (_ → _))
  | .insert _ => inferInstanceAs (Decidable (_ ∧ _))
  | .idle | .handleAgentDestroy _ | .setDestroy _ | .isEmptySrcAgent _ | .destroySrcAgents _
  | .handleStateDestroyAgent _ | .removeAgent _ | .checkNeedDestroySink _ | .getDestroy _
  | .checkEmptySrcAgent _ => .isTrue trivial

instance (limits : ContextLimits) (s : ManagerThreads ι) :
    ∀ task, Decidable (s.Undisturbed limits task)
  | .handleContextCreate _ | .handleContextEvent _ _ _ | .handleEvent _ _ (.create _)
  | .destroyContext _ => inferInstanceAs (Decidable (_ → _))
  | .inContext dstId task (.create made) =>
    inferInstanceAs (Decidable (s.UndisturbedIn limits dstId made task))
  | .idle | .checkAgentSize _ | .getContextById _ | .handleMediachannelDestroy _ _
  | .handleEvent _ _ .destroy | .inContext _ _ .destroy | .isEmptyAgent _ => .isTrue trivial

instance (limits : ContextLimits) (s : ManagerThreads ι) :
    ∀ move, Decidable (Move.Undisturbed limits s move)
  | .event _ _ => .isTrue trivial
  | .run i => inferInstanceAs (Decidable (s.Undisturbed limits (s.tasks i)))

end Decidable

/-- All sections of an event, one after another. -/
def whole (e : Event) (sections : Nat) : List (Move Unit) :=
  .event () e :: List.replicate sections (.run ())

/-- Two threads with an event each, whose sections take turns. -/
def turns (e e' : Event) (sections : Nat) : List (Move Bool) :=
  [.event false e, .event true e'] ++ (List.replicate sections [.run false, .run true]).flatten

/-- Two sinks in contexts of their own. The first one goes while a source of the second one is made. -/
def twoContexts : List (Move Bool) :=
  turns (.agentCreate ⟨0, 1, .sink, 0, 2, true⟩) (.agentCreate ⟨0, 2, .sink, 0, 3, true⟩) 7 ++
    turns (.stateChannelDestroy 1 2) (.agentCreate ⟨2, 0, .src, 3, 4, true⟩) 7

theorem run_sound_two : ∃ s : ManagerThreads Bool,
    GuardedRun (step {}) (Move.Undisturbed {}) {} twoContexts s ∧
      s.reports = [.created 1 2, .created 2 3, .removed 1 2, .created 2 4] ∧ s.manager.contexts = {2} ∧
      s.Sound {} := by
  have run := GuardedRun.of_check
    (show GuardedRun.check (step {}) (Move.Undisturbed {}) {} twoContexts = some _ from rfl)
  exact ⟨_, run, rfl, by decide, run_sound _ _ _ run⟩

/-- A source without a context leaves behind the context that is made for it. -/
theorem srcAlone_not_sound : ¬ ∀ limits moves (s : ManagerThreads Unit),
    GuardedRun (step limits) (fun _ _ => True) {} moves s → s.Sound limits := by
  intro h
  have run := GuardedRun.of_check (show GuardedRun.check (step {}) (fun _ _ => True) {}
    (whole (.agentCreate ⟨0, 1, .src, 0, 2, true⟩) 6) = some _ from rfl)
  rcases (h _ _ _ run).contextsMade 1 (by decide) with ⟨agentId, hcreated⟩ | ⟨i, hmakes⟩
  · cases List.mem_singleton.mp hcreated
  · cases hmakes

end ManagerThreads

end WifiDisplay
