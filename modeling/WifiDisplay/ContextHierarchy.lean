import WifiDisplay.Context

/-! The sources of a context refer to its sinks, and a sink is destroyed behind its sources. -/

namespace WifiDisplay

namespace ContextThreads

open Context Tally

variable {ι : Type*}

/-- The thread has still to ask whether the sink has sources, as a destroyed sink or behind
the removal of a source. -/
def awaits (sink : BitVec 32) : Task → Bool
  | .isEmptySrcAgent sinkAgentId | .checkNeedDestroySink sinkAgentId | .getDestroy sinkAgentId
  | .checkEmptySrcAgent sinkAgentId => sinkAgentId = sink
  | _ => false

/-- The thread has removed a source of the sink. -/
def removes (sink : BitVec 32) : Task → Bool
  | .checkNeedDestroySink sinkAgentId | .getDestroy sinkAgentId
  | .checkEmptySrcAgent sinkAgentId => sinkAgentId = sink
  | _ => false

/-- The thread handles a request to destroy the sink. -/
def requests (sink : BitVec 32) : Task → Bool
  | .isEmptySrcAgent sinkAgentId | .destroySrcAgents sinkAgentId => sinkAgentId = sink
  | _ => false

/-- The sources of a context refer to its sinks. A sink that is to be destroyed has its
sources destroyed and no others, and is destroyed once when they are gone. -/
structure Hierarchy (s : ContextThreads ι) : Prop where
  sinks : ∀ a ∈ s.context.agents, ∀ sink, a.attachedTo sink = true → .sink sink ∈ s.context.agents
  srcsOnly : ∀ sink a, .toSrc sink a ∈ s.sent → a.attachedTo sink = true
  srcsAll : ∀ sink ∈ s.context.destroy, (∀ i, requests sink (s.tasks i) = false) →
    ∀ a ∈ s.context.agents, a.attachedTo sink = true → .toSrc sink a ∈ s.sent
  gone : ∀ sink, .toSink sink ∈ s.sent →
    sink ∈ s.context.destroy ∧ s.context.isEmptySrcAgent sink = true
  once : ∀ sink, s.sent.count (.toSink sink) ≤ 1
  last : ∀ sink ∈ s.context.destroy, s.context.isEmptySrcAgent sink = true →
    (∀ i, awaits sink (s.tasks i) = false) → s.sent.count (.toSink sink) = 1

/-- A source is inserted while its sink is there and not to be destroyed; a sink is removed
while it has no sources; where the last source goes, one thread asks for it; and the sources
of a context that has one destroyed belong to one sink. -/
def Undisturbed (s : ContextThreads ι) : Task → Prop
  | .insert (.src _ sinkAgentId) =>
    .sink sinkAgentId ∈ s.context.agents ∧ sinkAgentId ∉ s.context.destroy
  | .setDestroy sinkAgentId => s.context.isEmptySrcAgent sinkAgentId = true →
      sinkAgentId ∉ s.context.destroy ∧ ∀ i, awaits sinkAgentId (s.tasks i) = false
  | .destroySrcAgents sinkAgentId =>
    ∀ a ∈ s.context.agents, a.agentType = .src → a.attachedTo sinkAgentId = true
  | .removeAgent (.sink agentId) => (∀ a ∈ s.context.agents, a.agentId = agentId → a = .sink agentId) ∧
      s.context.isEmptySrcAgent agentId = true ∧
      (agentId ∈ s.context.destroy → ∀ i, removes agentId (s.tasks i) = false)
  | .removeAgent (.src agentId sinkAgentId) =>
    (∀ a ∈ s.context.agents, a.agentId = agentId → a = .src agentId sinkAgentId) ∧
      (sinkAgentId ∈ s.context.destroy →
        (∀ a ∈ s.context.agents, a.attachedTo sinkAgentId = true → a = .src agentId sinkAgentId) →
        .src agentId sinkAgentId ∈ s.context.agents ∧ ∀ i, awaits sinkAgentId (s.tasks i) = false)
  | _ => True

def Move.Undisturbed (s : ContextThreads ι) : Move ι → Prop
  | .event _ _ => True
  | .run i => s.Undisturbed (s.tasks i)

/-- The thread runs for a sink that is to be destroyed. -/
def marks (sink : BitVec 32) : Task → Bool
  | .isEmptySrcAgent sinkAgentId | .destroySrcAgents sinkAgentId
  | .checkEmptySrcAgent sinkAgentId => sinkAgentId = sink
  | _ => false

/-- The invariant of a run. A sink that is to be destroyed and has no sources was destroyed,
or one thread is still to ask. -/
structure Kept [Fintype ι] (s : ContextThreads ι) : Prop where
  sinks : ∀ a ∈ s.context.agents, ∀ sink, a.attachedTo sink = true → .sink sink ∈ s.context.agents
  srcsOnly : ∀ sink a, .toSrc sink a ∈ s.sent → a.attachedTo sink = true
  srcsAll : ∀ sink ∈ s.context.destroy, (∃ i, requests sink (s.tasks i) = true) ∨
    ∀ a ∈ s.context.agents, a.attachedTo sink = true → .toSrc sink a ∈ s.sent
  marked : ∀ i sink, marks sink (s.tasks i) = true → sink ∈ s.context.destroy
  balance : ∀ sink ∈ s.context.destroy, s.context.isEmptySrcAgent sink = true →
    s.sent.count (.toSink sink) + tally (awaits sink) s.tasks = 1
  early : ∀ sink, ¬ (sink ∈ s.context.destroy ∧ s.context.isEmptySrcAgent sink = true) →
    s.sent.count (.toSink sink) = 0
  sinkThere : ∀ sink ∈ s.context.destroy, ∀ i, removes sink (s.tasks i) = true →
    .sink sink ∈ s.context.agents

variable {s s' : ContextThreads ι} {i : ι} {sink : BitVec 32} {a : ContextAgent}

theorem isEmptySrcAgent_iff {c : Context} :
    c.isEmptySrcAgent sink = true ↔ ∀ a ∈ c.agents, a.attachedTo sink = false := by
  simp [isEmptySrcAgent]

theorem getAgentById_of_mem {c : Context} (h : a ∈ c.agents) : c.getAgentById a.agentId ≠ none := by
  intro hnone
  simpa using List.find?_eq_none.mp hnone a h

theorem attachedTo_iff : a.attachedTo sink = true ↔ ∃ agentId, a = .src agentId sink := by
  cases a with
  | sink agentId => simp [ContextAgent.attachedTo]
  | src agentId sinkAgentId => simp [ContextAgent.attachedTo]

variable [Fintype ι]

theorem Kept.hierarchy (hs : s.Kept) : s.Hierarchy where
  sinks := hs.sinks
  srcsOnly := hs.srcsOnly
  srcsAll sink hsink hidle := by
    rcases hs.srcsAll sink hsink with ⟨i, hi⟩ | hall
    · rw [hidle i] at hi
      cases hi
    · exact hall
  gone sink hmem := by
    by_contra hearly
    exact List.count_eq_zero.mp (hs.early sink hearly) hmem
  once sink := by
    by_cases hempty : sink ∈ s.context.destroy ∧ s.context.isEmptySrcAgent sink = true
    · have hbalance := hs.balance sink hempty.1 hempty.2
      omega
    · rw [hs.early sink hempty]
      exact Nat.zero_le 1
  last sink hsink hempty hidle := by
    have hbalance := hs.balance sink hsink hempty
    rw [tally_eq_zero.mpr hidle] at hbalance
    exact hbalance

variable [DecidableEq ι]

theorem Kept.proceeds (hs : s.Kept) {task : Task} {new : List Sent}
    (hsrcs : ∀ sink a, .toSrc sink a ∈ new → a.attachedTo sink = true)
    (hrequest : ∀ sink, requests sink (s.tasks i) = true → requests sink task = true ∨
      ∀ a ∈ s.context.agents, a.attachedTo sink = true → .toSrc sink a ∈ new)
    (hmarked : ∀ sink, marks sink task = true → sink ∈ s.context.destroy)
    (hbalance : ∀ sink ∈ s.context.destroy, s.context.isEmptySrcAgent sink = true →
      new.count (.toSink sink) + (awaits sink task).toNat = (awaits sink (s.tasks i)).toNat)
    (hearly : ∀ sink, ¬ (sink ∈ s.context.destroy ∧ s.context.isEmptySrcAgent sink = true) →
      new.count (.toSink sink) = 0)
    (hremoves : ∀ sink ∈ s.context.destroy, removes sink task = true →
      removes sink (s.tasks i) = true) :
    Kept { s with tasks := Function.update s.tasks i task, sent := s.sent ++ new } where
  sinks := hs.sinks
  srcsOnly sink a hmem := by
    rcases List.mem_append.mp hmem with hmem | hmem
    · exact hs.srcsOnly sink a hmem
    · exact hsrcs sink a hmem
  srcsAll sink hsink := by
    rcases hs.srcsAll sink hsink with hasks | hall
    · by_cases hi : requests sink (s.tasks i) = true ∧ requests sink task = false
      · right
        intro a ha hattached
        rcases hrequest sink hi.1 with htask | hnew
        · rw [hi.2] at htask
          cases htask
        · exact List.mem_append_right _ (hnew a ha hattached)
      · exact Or.inl (exists_update hasks fun h => by simpa [h] using hi)
    · exact Or.inr fun a ha hattached => List.mem_append_left _ (hall a ha hattached)
  marked j sink hj := (of_update hj).elim (hmarked sink) (hs.marked j sink)
  balance sink hsink hempty := by
    have hbefore := hs.balance sink hsink hempty
    have hmoved := tally_update (p := awaits sink) (f := s.tasks) i task
    have hnew := hbalance sink hsink hempty
    simp only [List.count_append]
    omega
  early sink hnot := by
    rw [List.count_append, hs.early sink hnot, hearly sink hnot]
  sinkThere sink hsink j hj := (of_update hj).elim
    (fun h => hs.sinkThere sink hsink i (hremoves sink hsink h)) (hs.sinkThere sink hsink j)

omit [Fintype ι] [DecidableEq ι] in
theorem awaits_of_removes {task : Task} (h : removes sink task = true) : awaits sink task = true := by
  cases task <;> first | exact h | cases h

omit [DecidableEq ι] in
theorem Kept.inserted (hs : s.Kept) (hnew : ∀ sink, a.attachedTo sink = true →
    .sink sink ∈ s.context.agents ∧ sink ∉ s.context.destroy) :
    Kept { s with context := { s.context with agents := s.context.agents ++ [a] } } where
  sinks b hb sink hattached := by
    rcases List.mem_append.mp hb with hb | hb
    · exact List.mem_append_left _ (hs.sinks b hb sink hattached)
    · obtain rfl : b = a := List.mem_singleton.mp hb
      exact List.mem_append_left _ (hnew sink hattached).1
  srcsOnly := hs.srcsOnly
  srcsAll sink hsink := by
    refine (hs.srcsAll sink hsink).imp_right fun hall b hb hattached => ?_
    rcases List.mem_append.mp hb with hb | hb
    · exact hall b hb hattached
    · obtain rfl : b = a := List.mem_singleton.mp hb
      exact absurd hsink (hnew sink hattached).2
  marked := hs.marked
  balance sink hsink hempty := by
    refine hs.balance sink hsink (isEmptySrcAgent_iff.mpr fun b hb => ?_)
    exact isEmptySrcAgent_iff.mp hempty b (List.mem_append_left _ hb)
  early sink hnot := by
    refine hs.early sink fun hempty => hnot ⟨hempty.1, isEmptySrcAgent_iff.mpr fun b hb => ?_⟩
    rcases List.mem_append.mp hb with hb | hb
    · exact isEmptySrcAgent_iff.mp hempty.2 b hb
    · obtain rfl : b = a := List.mem_singleton.mp hb
      exact Bool.eq_false_iff.mpr fun hattached => (hnew sink hattached).2 hempty.1
  sinkThere sink hsink j hj := List.mem_append_left _ (hs.sinkThere sink hsink j hj)

/-- The mark is set: this thread asks for the sources, and no other if there are none. -/
theorem Kept.setDestroy (hs : s.Kept) (hi : s.tasks i = .setDestroy sink)
    (hok : s.Undisturbed (.setDestroy sink)) :
    Kept { s with
      context := s.context.setDestroy sink
      tasks := Function.update s.tasks i (.isEmptySrcAgent sink) } where
  sinks := hs.sinks
  srcsOnly := hs.srcsOnly
  srcsAll x hx := by
    rcases Finset.mem_insert.mp hx with rfl | hx
    · left
      refine ⟨i, ?_⟩
      simp [requests]
    · refine (hs.srcsAll x hx).imp_left fun hasks => exists_update hasks fun h => ?_
      rw [hi] at h
      cases h
  marked j x hj := by
    rcases of_update hj with h | h
    · obtain rfl : sink = x := by simpa [marks] using h
      exact Finset.mem_insert_self sink _
    · exact Finset.mem_insert_of_mem (hs.marked j x h)
  balance x hx hempty := by
    by_cases hsink : x = sink
    · subst hsink
      obtain ⟨hnew, hidle⟩ := hok hempty
      have hcount := hs.early x fun h => hnew h.1
      have hmoved := tally_update (p := awaits x) (f := s.tasks) i (.isEmptySrcAgent x)
      rw [tally_eq_zero.mpr hidle, hi] at hmoved
      simp only [awaits, decide_true, Bool.toNat_true, Bool.toNat_false] at hmoved
      show s.sent.count _ + tally (awaits x) (Function.update s.tasks i (.isEmptySrcAgent x)) = 1
      omega
    · have hx : x ∈ s.context.destroy := (Finset.mem_insert.mp hx).resolve_left hsink
      have hmoved : tally (awaits x) (Function.update s.tasks i (.isEmptySrcAgent sink)) =
          tally (awaits x) s.tasks := by
        apply tally_update_of_eq
        rw [hi]
        exact decide_eq_false (Ne.symm hsink)
      show s.sent.count _ + tally (awaits x) (Function.update s.tasks i (.isEmptySrcAgent sink)) = 1
      rw [hmoved]
      exact hs.balance x hx hempty
  early x hnot := hs.early x fun h => hnot ⟨Finset.mem_insert_of_mem h.1, h.2⟩
  sinkThere x hx j hj := by
    have hremoves : removes x (s.tasks j) = true := (of_update hj).resolve_left Bool.false_ne_true
    by_cases hx' : x ∈ s.context.destroy
    · exact hs.sinkThere x hx' j hremoves
    · obtain rfl : x = sink := (Finset.mem_insert.mp hx).resolve_right hx'
      by_cases hempty : s.context.isEmptySrcAgent x = true
      · have hasks : awaits x (s.tasks j) = true := awaits_of_removes hremoves
        rw [(hok hempty).2 j] at hasks
        cases hasks
      · rw [isEmptySrcAgent_iff] at hempty
        push Not at hempty
        obtain ⟨b, hb, hattached⟩ := hempty
        exact hs.sinks b hb x (Bool.eq_true_of_not_eq_false hattached)

omit [Fintype ι] [DecidableEq ι] in
theorem mem_removeAgent {c : Context} (hunique : ∀ b ∈ c.agents, b.agentId = a.agentId → b = a)
    {b : ContextAgent} : b ∈ (c.removeAgent a.agentId).agents ↔ b ∈ c.agents ∧ b ≠ a := by
  rw [removeAgent, List.mem_filter, decide_eq_true_eq]
  constructor
  · rintro ⟨hb, hne⟩
    exact ⟨hb, fun heq => hne (congrArg _ heq)⟩
  · rintro ⟨hb, hne⟩
    exact ⟨hb, fun heq => hne (hunique b hb heq)⟩

omit [DecidableEq ι] in
/-- A sink goes while it has no sources and no thread that removed one is to ask. -/
theorem Kept.removedSink {agentId : BitVec 32} (hs : s.Kept)
    (hok : s.Undisturbed (.removeAgent (.sink agentId))) :
    Kept { s with context := s.context.removeAgent agentId } := by
  obtain ⟨hunique, hempty, hidle⟩ := hok
  have hmem : ∀ b, b ∈ (s.context.removeAgent agentId).agents ↔ b ∈ s.context.agents ∧ b ≠ .sink agentId :=
    fun _ => mem_removeAgent (a := .sink agentId) hunique
  have hfree := isEmptySrcAgent_iff.mp hempty
  have hsame : ∀ sink, (s.context.removeAgent agentId).isEmptySrcAgent sink = true ↔
      s.context.isEmptySrcAgent sink = true := by
    intro sink
    rw [isEmptySrcAgent_iff, isEmptySrcAgent_iff]
    constructor
    · intro h b hb
      by_cases hb' : b = .sink agentId
      · rw [hb']
        rfl
      · exact h b ((hmem b).mpr ⟨hb, hb'⟩)
    · exact fun h b hb => h b ((hmem b).mp hb).1
  refine ⟨?_, hs.srcsOnly, ?_, hs.marked, ?_, ?_, ?_⟩
  · intro b hb sink hattached
    have hstays : b ∈ s.context.agents := ((hmem b).mp hb).1
    refine (hmem _).mpr ⟨hs.sinks b hstays sink hattached, fun heq => ?_⟩
    obtain rfl : sink = agentId := ContextAgent.sink.inj heq
    rw [hfree b hstays] at hattached
    cases hattached
  · intro sink hsink
    exact (hs.srcsAll sink hsink).imp_right fun hall b hb => hall b ((hmem b).mp hb).1
  · exact fun sink hsink h => hs.balance sink hsink ((hsame sink).mp h)
  · exact fun sink hnot => hs.early sink fun h => hnot ⟨h.1, (hsame sink).mpr h.2⟩
  · intro sink hsink j hj
    refine (hmem _).mpr ⟨hs.sinkThere sink hsink j hj, fun heq => ?_⟩
    obtain rfl : sink = agentId := ContextAgent.sink.inj heq
    have hidle : removes sink (s.tasks j) = false := hidle hsink j
    have hj : removes sink (s.tasks j) = true := hj
    rw [hidle] at hj
    cases hj

/-- A source goes: where it is the last one of a sink that is to be destroyed, its thread
alone is to ask. -/
theorem Kept.removedSrc {agentId : BitVec 32} (hs : s.Kept)
    (hi : s.tasks i = .removeAgent (.src agentId sink))
    (hok : s.Undisturbed (.removeAgent (.src agentId sink))) :
    Kept { s with
      context := s.context.removeAgent agentId
      tasks := Function.update s.tasks i (.checkNeedDestroySink sink) } := by
  obtain ⟨hunique, hlast⟩ := hok
  have hmem : ∀ b, b ∈ (s.context.removeAgent agentId).agents ↔
      b ∈ s.context.agents ∧ b ≠ .src agentId sink := fun _ =>
    mem_removeAgent (a := .src agentId sink) hunique
  have hempty : ∀ x, s.context.isEmptySrcAgent x = true →
      (s.context.removeAgent agentId).isEmptySrcAgent x = true := by
    intro x h
    exact isEmptySrcAgent_iff.mpr fun b hb => isEmptySrcAgent_iff.mp h b ((hmem b).mp hb).1
  -- the sources that are left are those of the other sinks, or there is another one
  have hothers : ∀ x, (s.context.removeAgent agentId).isEmptySrcAgent x = true →
      ∀ b ∈ s.context.agents, b.attachedTo x = true → b = .src agentId sink := by
    intro x h b hb hattached
    by_contra hne
    rw [isEmptySrcAgent_iff.mp h b ((hmem b).mpr ⟨hb, hne⟩)] at hattached
    cases hattached
  refine ⟨?_, hs.srcsOnly, ?_, ?_, ?_, ?_, ?_⟩
  · intro b hb x hattached
    exact (hmem _).mpr ⟨hs.sinks b ((hmem b).mp hb).1 x hattached, ContextAgent.noConfusion⟩
  · intro x hx
    rcases hs.srcsAll x hx with hasks | hall
    · left
      refine exists_update hasks fun h => ?_
      rw [hi] at h
      cases h
    · exact Or.inr fun b hb => hall b ((hmem b).mp hb).1
  · exact fun j x hj => hs.marked j x ((of_update hj).resolve_left Bool.false_ne_true)
  · intro x hx h
    have hmoved := tally_update (p := awaits x) (f := s.tasks) i (.checkNeedDestroySink sink)
    rw [hi] at hmoved
    show s.sent.count _ + tally (awaits x) (Function.update s.tasks i (.checkNeedDestroySink sink)) = 1
    by_cases hsink : sink = x
    · subst hsink
      obtain ⟨hthere, hidle⟩ := hlast hx (hothers sink h)
      have hbefore : s.context.isEmptySrcAgent sink ≠ true := by
        intro hno
        have hattached := isEmptySrcAgent_iff.mp hno _ hthere
        simp [ContextAgent.attachedTo] at hattached
      have hcount := hs.early sink fun h => hbefore h.2
      rw [tally_eq_zero.mpr hidle] at hmoved
      simp only [awaits, decide_true, Bool.toNat_true, Bool.toNat_false] at hmoved
      omega
    · have hsame : s.context.isEmptySrcAgent x = true := by
        refine isEmptySrcAgent_iff.mpr fun b hb => Bool.eq_false_iff.mpr fun hattached => ?_
        obtain rfl := hothers x h b hb hattached
        exact hsink (of_decide_eq_true hattached)
      have hbalance := hs.balance x hx hsame
      simp only [awaits, hsink, decide_false, Bool.toNat_false] at hmoved
      omega
  · exact fun x hnot => hs.early x fun h => hnot ⟨h.1, hempty x h.2⟩
  · intro x hx j hj
    refine (hmem _).mpr ⟨?_, ContextAgent.noConfusion⟩
    rcases of_update hj with h | h
    · obtain rfl : sink = x := of_decide_eq_true h
      by_cases hmore : ∀ b ∈ s.context.agents, b.attachedTo sink = true → b = .src agentId sink
      · exact hs.sinks _ (hlast hx hmore).1 sink (decide_eq_true rfl)
      · push Not at hmore
        obtain ⟨b, hb, hattached, -⟩ := hmore
        exact hs.sinks b hb sink hattached
    · exact hs.sinkThere x hx j h

end ContextThreads

end WifiDisplay
