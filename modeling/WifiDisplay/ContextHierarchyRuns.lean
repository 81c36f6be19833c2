import WifiDisplay.ContextHierarchy

/-! Runs of the threads of a context whose sections do not disturb one another. -/

namespace WifiDisplay

namespace ContextThreads

open Context

variable {ι : Type*} [Fintype ι] [DecidableEq ι] {s s' : ContextThreads ι} {i : ι}
  {sink : BitVec 32} {a : ContextAgent}

/-- The thread goes on and is at no place that the sinks depend on. -/
theorem Kept.quiet (hs : s.Kept) {old task : Task} {new : List Sent} (hi : s.tasks i = old)
    (hold : ∀ sink, awaits sink old = false ∧ requests sink old = false)
    (htask : ∀ sink, awaits sink task = false ∧ marks sink task = false)
    (hnew : ∀ e ∈ new, ∃ agentId, e = .direct agentId) :
    Kept { s with tasks := Function.update s.tasks i task, sent := s.sent ++ new } := by
  have hcount : ∀ sink, new.count (.toSink sink) = 0 := by
    intro sink
    refine List.count_eq_zero.mpr fun hmem => ?_
    obtain ⟨agentId, heq⟩ := hnew _ hmem
    cases heq
  refine hs.proceeds ?_ ?_ ?_ ?_ ?_ ?_
  · intro sink a hmem
    obtain ⟨agentId, heq⟩ := hnew _ hmem
    cases heq
  · intro sink h
    rw [hi, (hold sink).2] at h
    cases h
  · intro sink h
    rw [(htask sink).2] at h
    cases h
  · intro sink _ _
    rw [hcount sink, (htask sink).1, hi, (hold sink).1]
    rfl
  · exact fun sink _ => hcount sink
  · intro sink _ h
    have hasks := awaits_of_removes h
    rw [(htask sink).1] at hasks
    cases hasks

/-- A thread that asks whether the sink has sources destroys it when there are none. -/
theorem Kept.asked (hs : s.Kept) {old : Task} (hi : s.tasks i = old)
    (hawaits : ∀ x, awaits x old = decide (sink = x)) (hmarked : marks sink old = true)
    (hrequest : ∀ x, requests x old = true → sink = x)
    (hempty : s.context.isEmptySrcAgent sink = true) :
    Kept { s with
      tasks := Function.update s.tasks i .idle
      sent := s.sent ++ [.toSink sink] } := by
  have hcount : ∀ x, [Sent.toSink sink].count (.toSink x) = (decide (sink = x)).toNat := by
    intro x
    by_cases hx : sink = x <;> simp [hx]
  refine hs.proceeds ?_ ?_ nofun ?_ ?_ nofun
  · simp
  · intro x h
    rw [hi] at h
    obtain rfl := hrequest x h
    right
    intro a ha hattached
    rw [isEmptySrcAgent_iff.mp hempty a ha] at hattached
    cases hattached
  · intro x _ _
    rw [hcount, hi, hawaits]
    rfl
  · intro x hnot
    rw [hcount]
    by_cases hx : sink = x
    · subst hx
      rw [← hi] at hmarked
      exact absurd ⟨hs.marked i sink hmarked, hempty⟩ hnot
    · simp [hx]

/-- A thread that goes on without asking, or that found sources. -/
theorem Kept.passes (hs : s.Kept) {old task : Task} (hi : s.tasks i = old)
    (hawaits : ∀ x, awaits x old = true → sink = x)
    (hnot : ¬ (sink ∈ s.context.destroy ∧ s.context.isEmptySrcAgent sink = true))
    (hrequest : ∀ x, requests x old = true → requests x task = true)
    (htask : ∀ x, awaits x task = false) (hmarked : ∀ x, marks x task = true → x ∈ s.context.destroy) :
    Kept { s with tasks := Function.update s.tasks i task, sent := s.sent ++ [] } := by
  subst hi
  refine hs.proceeds nofun (fun x h => Or.inl (hrequest x h)) hmarked ?_ (fun _ _ => rfl) ?_
  · intro x hx hempty
    have hno : awaits x (s.tasks i) = false := by
      refine Bool.eq_false_iff.mpr fun h => ?_
      obtain rfl := hawaits x h
      exact hnot ⟨hx, hempty⟩
    rw [htask x, hno]
    rfl
  · intro x _ h
    have hasks := awaits_of_removes h
    rw [htask x] at hasks
    cases hasks

/-- A thread that has removed a source goes on to ask. -/
theorem Kept.asks (hs : s.Kept) {old task : Task} (hi : s.tasks i = old)
    (hawaits : ∀ x, awaits x task = awaits x old) (hremoves : ∀ x, removes x task = removes x old)
    (hrequest : ∀ x, requests x old = false)
    (hmarked : ∀ x, marks x task = true → x ∈ s.context.destroy) :
    Kept { s with tasks := Function.update s.tasks i task, sent := s.sent ++ [] } := by
  subst hi
  refine hs.proceeds nofun ?_ hmarked ?_ (fun _ _ => rfl) (fun x _ h => (hremoves x).symm.trans h)
  · intro x h
    rw [hrequest x] at h
    cases h
  · intro x _ _
    rw [hawaits x]
    exact Nat.zero_add _

theorem Kept.insert (hs : s.Kept) (hi : s.tasks i = .insert a) (hok : s.Undisturbed (.insert a)) :
    Kept { s with
      context := s.context.emplace a
      tasks := Function.update s.tasks i .idle, sent := s.sent ++ [] } := by
  rw [emplace]
  split
  · exact hs.quiet hi (fun _ => ⟨rfl, rfl⟩) (fun _ => ⟨rfl, rfl⟩) nofun
  · have hnew : ∀ sink, a.attachedTo sink = true →
        .sink sink ∈ s.context.agents ∧ sink ∉ s.context.destroy := by
      intro sink hattached
      obtain ⟨agentId, rfl⟩ := attachedTo_iff.mp hattached
      exact hok
    exact (hs.inserted hnew).quiet hi (fun _ => ⟨rfl, rfl⟩) (fun _ => ⟨rfl, rfl⟩) nofun

theorem Kept.destroySrcAgents (hs : s.Kept) (hi : s.tasks i = .destroySrcAgents sink)
    (hok : s.Undisturbed (.destroySrcAgents sink)) :
    Kept { s with
      tasks := Function.update s.tasks i .idle
      sent := s.sent ++
        (s.context.agents.filter fun a => a.agentType = .src).map (Sent.toSrc sink) } := by
  have hnone : ∀ x, ((s.context.agents.filter fun a => a.agentType = .src).map
      (Sent.toSrc sink)).count (.toSink x) = 0 := by
    intro x
    refine List.count_eq_zero.mpr fun hmem => ?_
    obtain ⟨a, -, heq⟩ := List.mem_map.mp hmem
    cases heq
  refine hs.proceeds ?_ ?_ nofun ?_ (fun x _ => hnone x) nofun
  · intro x a hmem
    obtain ⟨b, hb, heq⟩ := List.mem_map.mp hmem
    obtain ⟨rfl, rfl⟩ := Sent.toSrc.inj heq
    obtain ⟨hthere, htype⟩ := List.mem_filter.mp hb
    exact hok b hthere (of_decide_eq_true htype)
  · intro x h
    rw [hi] at h
    obtain rfl : sink = x := of_decide_eq_true h
    right
    intro a ha hattached
    refine List.mem_map_of_mem (List.mem_filter.mpr ⟨ha, ?_⟩)
    obtain ⟨agentId, rfl⟩ := attachedTo_iff.mp hattached
    rfl
  · intro x _ _
    rw [hnone x, hi]
    rfl

/-- One section of a thread keeps the invariant. -/
theorem Kept.run (hs : s.Kept) (hok : s.Undisturbed (s.tasks i)) (h : s.step (.run i) = .ok s') :
    s'.Kept := by
  cases h
  cases hi : s.tasks i with
  | idle => exact hs.quiet hi (fun _ => ⟨rfl, rfl⟩) (fun _ => ⟨rfl, rfl⟩) nofun
  | makeAgent r =>
    simp only
    split <;> exact hs.quiet hi (fun _ => ⟨rfl, rfl⟩) (fun _ => ⟨rfl, rfl⟩) nofun
  | insert a =>
    rw [hi] at hok
    exact hs.insert hi hok
  | handleAgentDestroy agentId =>
    simp only
    split
    · exact hs.quiet hi (fun _ => ⟨rfl, rfl⟩) (fun _ => ⟨rfl, rfl⟩) nofun
    · exact hs.quiet hi (fun _ => ⟨rfl, rfl⟩) (fun _ => ⟨rfl, rfl⟩) (by simp)
    · exact hs.quiet hi (fun _ => ⟨rfl, rfl⟩) (fun _ => ⟨rfl, rfl⟩) nofun
  | setDestroy sink =>
    rw [hi] at hok
    simp only [List.append_nil]
    exact hs.setDestroy hi hok
  | isEmptySrcAgent sink =>
    have hmarks : marks sink (.isEmptySrcAgent sink) = true := decide_eq_true rfl
    simp only
    split
    · rename_i hempty
      exact hs.asked hi (fun _ => rfl) hmarks (fun _ => of_decide_eq_true) hempty
    · rename_i hempty
      refine hs.passes hi (fun _ => of_decide_eq_true) (fun h => hempty h.2) (fun _ h => h)
        (fun _ => rfl) ?_
      intro x h
      obtain rfl : sink = x := of_decide_eq_true h
      rw [← hi] at hmarks
      exact hs.marked i sink hmarks
  | destroySrcAgents sink =>
    rw [hi] at hok
    exact hs.destroySrcAgents hi hok
  | handleStateDestroyAgent agentId =>
    simp only
    split <;> exact hs.quiet hi (fun _ => ⟨rfl, rfl⟩) (fun _ => ⟨rfl, rfl⟩) nofun
  | removeAgent a =>
    rw [hi] at hok
    cases a with
    | sink agentId =>
      exact (hs.removedSink hok).quiet hi (fun _ => ⟨rfl, rfl⟩) (fun _ => ⟨rfl, rfl⟩) nofun
    | src agentId sink =>
      simp only [List.append_nil]
      exact hs.removedSrc hi hok
  | checkNeedDestroySink sink =>
    have hremoves : removes sink (.checkNeedDestroySink sink) = true := decide_eq_true rfl
    simp only
    split
    · rename_i hnone
      refine hs.passes hi (fun _ => of_decide_eq_true) ?_ nofun (fun _ => rfl) nofun
      intro h
      rw [← hi] at hremoves
      exact getAgentById_of_mem (hs.sinkThere sink h.1 i hremoves) hnone
    · exact hs.asks hi (fun _ => rfl) (fun _ => rfl) (fun _ => rfl) nofun
  | getDestroy sink =>
    simp only
    split
    · rename_i hsink
      refine hs.asks hi (fun _ => rfl) (fun _ => rfl) (fun _ => rfl) ?_
      intro x h
      obtain rfl : sink = x := of_decide_eq_true h
      exact hsink
    · rename_i hsink
      exact hs.passes hi (fun _ => of_decide_eq_true) (fun h => hsink h.1) nofun (fun _ => rfl) nofun
  | checkEmptySrcAgent sink =>
    simp only
    split
    · rename_i hempty
      exact hs.asked hi (fun _ => rfl) (decide_eq_true rfl) nofun hempty
    · rename_i hempty
      exact hs.passes hi (fun _ => of_decide_eq_true) (fun h => hempty h.2) nofun (fun _ => rfl) nofun

theorem Kept.event (hs : s.Kept) {e : Event} (h : s.step (.event i e) = .ok s') : s'.Kept := by
  simp only [step] at h
  split at h
  · cases h
  · rename_i hidle
    split at h
    · cases h
      exact hs
    · cases h
      have hbegin : ∀ sink, awaits sink (begin e) = false ∧ marks sink (begin e) = false := by
        intro sink
        cases e <;> exact ⟨rfl, rfl⟩
      rw [← List.append_nil s.sent]
      exact hs.quiet (not_not.mp hidle) (fun _ => ⟨rfl, rfl⟩) hbegin nofun

omit [DecidableEq ι] in
theorem kept_init : Kept ({} : ContextThreads ι) where
  sinks := nofun
  srcsOnly := nofun
  srcsAll _ h := absurd h (Finset.notMem_empty _)
  marked := nofun
  balance _ h := absurd h (Finset.notMem_empty _)
  early _ _ := rfl
  sinkThere _ h := absurd h (Finset.notMem_empty _)

/-- In a run whose sections do not disturb one another, the sinks and the sources of the
context belong together. -/
theorem run_hierarchy (moves : List (Move ι)) (s : ContextThreads ι)
    (run : GuardedRun step Move.Undisturbed {} moves s) : s.Hierarchy := by
  refine (run.invariant (I := Kept) kept_init ?_).hierarchy
  intro s move s' hs hok hstep
  cases move with
  | event i e => exact hs.event hstep
  | run i => exact hs.run hok hstep

section Decidable

omit [DecidableEq ι]

instance (s : ContextThreads ι) : ∀ task, Decidable (s.Undisturbed task)
  | .insert (.src _ _) => inferInstanceAs (Decidable (_ ∧ _))
  | .insert (.sink _) => .isTrue trivial
  | .setDestroy _ => inferInstanceAs (Decidable (_ → _))
  | .destroySrcAgents _ => inferInstanceAs (Decidable (∀ _ ∈ _, _))
  | .removeAgent (.sink _) => inferInstanceAs (Decidable (_ ∧ _))
  | .removeAgent (.src _ _) => inferInstanceAs (Decidable (_ ∧ _))
  | .idle | .makeAgent _ | .handleAgentDestroy _ | .isEmptySrcAgent _ | .handleStateDestroyAgent _
  | .checkNeedDestroySink _ | .getDestroy _ | .checkEmptySrcAgent _ => .isTrue trivial

instance (s : ContextThreads ι) : ∀ move, Decidable (Move.Undisturbed s move)
  | .event _ _ => .isTrue trivial
  | .run i => inferInstanceAs (Decidable (s.Undisturbed (s.tasks i)))

end Decidable

/-- All sections of an event, one after another. -/
def whole (e : Event) (sections : Nat) : List (Move Unit) :=
  .event () e :: List.replicate sections (.run ())

/-- Two threads with an event each, whose sections take turns. -/
def turns (e e' : Event) (sections : Nat) : List (Move Bool) :=
  [.event false e, .event true e'] ++ (List.replicate sections [.run false, .run true]).flatten

/-- Two sinks and two sources of the first one. That one is destroyed while a third sink is made, and
then its sources go. -/
def destroyedSink : List (Move Bool) :=
  turns (.agentCreate ⟨.sink, 0, 2, true⟩) (.agentCreate ⟨.sink, 0, 3, true⟩) 2 ++
    turns (.agentCreate ⟨.src, 2, 4, true⟩) (.agentCreate ⟨.src, 2, 5, true⟩) 2 ++
    turns (.agentDestroy 2) (.agentCreate ⟨.sink, 0, 6, true⟩) 4 ++
    [.event false (.stateAgentDestroy 4), .event true (.stateAgentDestroy 5), .run true] ++
    List.replicate 5 (.run false) ++ List.replicate 4 (.run true)

theorem run_hierarchy_two : ∃ s : ContextThreads Bool,
    GuardedRun step Move.Undisturbed {} destroyedSink s ∧
      s.sent = [.toSrc 2 (.src 4 2), .toSrc 2 (.src 5 2), .toSink 2] ∧ s.Hierarchy := by
  have run := GuardedRun.of_check (show GuardedRun.check step Move.Undisturbed {} destroyedSink = some _ from rfl)
  exact ⟨_, run, rfl, run_hierarchy _ _ run⟩

/-- The source of one sink is destroyed with another sink. -/
theorem otherSink_not_hierarchy : ¬ ∀ moves (s : ContextThreads Unit),
    GuardedRun step (fun _ _ => True) {} moves s → s.Hierarchy := by
  intro h
  have run := GuardedRun.of_check (show GuardedRun.check step (fun _ _ => True) {}
    (whole (.agentCreate ⟨.sink, 0, 2, true⟩) 2 ++ whole (.agentCreate ⟨.sink, 0, 3, true⟩) 2 ++
      whole (.agentCreate ⟨.src, 2, 4, true⟩) 2 ++ whole (.agentCreate ⟨.src, 3, 5, true⟩) 2 ++
      whole (.agentDestroy 2) 4) = some _ from rfl)
  exact absurd ((h _ _ run).srcsOnly 2 (.src 5 3) (by decide)) (by decide)

end ContextThreads

end WifiDisplay
