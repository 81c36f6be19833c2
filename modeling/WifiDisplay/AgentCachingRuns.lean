import WifiDisplay.AgentCaching

/-! The requests that arrive at an agent in turn: what is forwarded and what is kept go on to
do what the requests do one after another. -/

namespace WifiDisplay

namespace Agent

namespace Dialogue

variable {d d' : Dialogue} {e : Event}

open Channel in
theorem executeAll_append (events later : List Event) :
    executeAll (events ++ later) = later.foldl execute (executeAll events) := List.foldl_append

/-- What is kept is in the order of its steps. -/
theorem value_le_behind (hd : d.Kept) {before after : List (AgentRunStepKey × StepEvent)}
    {p q : AgentRunStepKey × StepEvent} (hsplit : d.agent.runEvents.toList = before ++ p :: after)
    (hq : q ∈ after) : (getRunStep p.2.1.type).value ≤ (getRunStep q.2.1.type).value := by
  have hsorted := d.agent.runEvents.sorted
  rw [hsplit] at hsorted
  have hp : p ∈ d.agent.runEvents := by
    rw [← OrderedMap.mem_toList, hsplit]
    exact List.mem_append_right _ List.mem_cons_self
  have hq' : q ∈ d.agent.runEvents := by
    rw [← OrderedMap.mem_toList, hsplit]
    exact List.mem_append_right _ (List.mem_cons_of_mem p hq)
  have hlt := (List.pairwise_cons.mp (List.pairwise_append.mp hsorted).2.1).1 q hq
  rw [hd.created.keys p hp, hd.created.keys q hq'] at hlt
  exact value_le_of_lt (hd.kinds p hp) (hd.kinds q hq') hlt

/-- A request that is kept already does nothing more. -/
theorem Kept.redundant_key (hd : d.Kept) (he : isChannelRequest e.type = true)
    (hfresh : d.Fresh e) (hturn : d.agent.InTurn e.type) {p : AgentRunStepKey × StepEvent}
    (hp : p ∈ d.agent.runEvents) (hkey : p.1 = runStepKey e) :
    isSurfaceRequest e.type = false ∧
      (Channel.executeAll (d.forwarded ++ d.kept)).execute e = Channel.executeAll (d.forwarded ++ d.kept) := by
  have hkeys : runStepKey p.2.1 = runStepKey e := (hd.created.keys p hp).symm.trans hkey
  have hid : p.2.1.requestId = e.requestId := congrArg AgentRunStepKey.requestId hkeys
  have hstep : getRunStep p.2.1.type = getRunStep e.type := congrArg AgentRunStepKey.stepType hkeys
  have hsurface : isSurfaceRequest e.type = false := by
    apply Bool.eq_false_iff.mpr
    intro hs
    have hs' : isSurfaceRequest p.2.1.type = true := (isSurfaceRequest_congr hstep).trans hs
    exact hfresh hs p.2.1 (hd.known hp hs') hs' hid
  refine ⟨hsurface, ?_⟩
  rw [executeAll_append]
  cases htype : e.type with
  | playStart =>
    rw [htype] at hstep hturn
    apply Channel.execute_playStart htype
    apply Channel.foldl_playing
    · intro e' he'
      obtain ⟨q, hq, rfl⟩ := mem_of_mem_kept he'
      exact hturn q hq
    · exact Or.inr ⟨p.2.1, mem_kept hp, type_of_step.1 hstep⟩
  | playStop =>
    rw [htype] at hstep
    apply Channel.execute_playStop htype
    have hstop := type_of_step.2 hstep
    obtain ⟨before, after, hsplit⟩ := List.append_of_mem (OrderedMap.mem_toList.mpr hp)
    have hkept : d.kept = before.map (fun q => q.2.1) ++ p.2.1 :: after.map (fun q => q.2.1) := by
      simp [kept, hsplit]
    rw [hkept, List.foldl_append, List.foldl_cons]
    apply Channel.foldl_stopped
    · intro e' he' hplay
      obtain ⟨q, hq, rfl⟩ := List.mem_map.mp he'
      have hle := value_le_behind hd hsplit hq
      rw [hstep, hplay] at hle
      exact absurd (show 8 ≤ 7 from hle) (by decide)
    · rw [Channel.execute, hstop]
  | channelAppendSurface => rw [htype] at hsurface; cases hsurface
  | channelRemoveSurface => rw [htype] at hsurface; cases hsurface
  | _ => rw [htype] at he; cases he

/-- A request of the kind that runs is to play or to stop, and does nothing more. -/
theorem Kept.redundant_step (hd : d.Kept) (he : isChannelRequest e.type = true)
    (hturn : d.agent.InTurn e.type) (hstatus : d.agent.runningStatus = .running)
    (hstep : getRunStep e.type = d.agent.runStep) : isSurfaceRequest e.type = false ∧
      (Channel.executeAll (d.forwarded ++ d.kept)).execute e = Channel.executeAll (d.forwarded ++ d.kept) := by
  obtain ⟨before, e₀, hforwarded, hstep₀⟩ : ∃ before e₀, d.forwarded = before ++ [e₀] ∧
      getRunStep e₀.type = getRunStep e.type := by
    cases hd.phase with
    | fresh _ _ _ hs =>
      rw [hs] at hstatus
      cases hstatus
    | starting _ _ _ _ hs =>
      rw [hs] at hstep
      exact absurd hstep (getRunStep_of_channelRequest he).2.1
    | running before e₀ _ _ _ hforwarded hs => exact ⟨before, e₀, hforwarded, (hstep.trans hs).symm⟩
    | settled _ _ _ hs =>
      rw [hs] at hstatus
      cases hstatus
  rw [executeAll_append, hforwarded, executeAll_append]
  cases htype : e.type with
  | playStart =>
    rw [htype] at hturn hstep₀
    refine ⟨rfl, Channel.execute_playStart htype (Channel.foldl_playing ?_ (Or.inl ?_))⟩
    · intro e' he'
      obtain ⟨q, hq, rfl⟩ := mem_of_mem_kept he'
      exact hturn q hq
    · simp [Channel.execute, type_of_step.1 hstep₀]
  | playStop =>
    rw [htype] at hturn hstep₀ hstep
    refine ⟨rfl, Channel.execute_playStop htype (Channel.foldl_stopped ?_ ?_)⟩
    · intro e' he'
      obtain ⟨q, hq, rfl⟩ := mem_of_mem_kept he'
      exact hturn ⟨hstatus, hstep.symm⟩ q hq
    · simp [Channel.execute, type_of_step.2 hstep₀]
  | channelAppendSurface =>
    rw [htype] at hturn hstep
    exact absurd ⟨hstatus, hstep.symm⟩ hturn.1
  | channelRemoveSurface =>
    rw [htype] at hturn hstep
    exact absurd ⟨hstatus, hstep.symm⟩ hturn
  | _ => rw [htype] at he; cases he

theorem Kept.cached (hd : d.Kept) {e : StepEvent} (he : isChannelRequest e.1.type = true)
    (hturn : d.agent.InTurn e.1.type) (hnew : ∀ p ∈ d.agent.runEvents, p.1 ≠ runStepKey e.1) :
    ∃ before after, d.kept = before ++ after ∧
      ((d.agent.cache e).runEvents.toList.map fun p => p.2.1) = before ++ e.1 :: after ∧
      ∀ e' ∈ after, ¬ Channel.Conflict e.1.type e'.type := by
  obtain ⟨before, after, hsplit, hemplace, hafter⟩ := OrderedMap.emplace_split (v := e) hnew
  refine ⟨before.map fun p => p.2.1, after.map fun p => p.2.1, by simp [kept, hsplit], ?_, ?_⟩
  · show ((d.agent.runEvents.emplace (runStepKey e.1) e).toList.map fun p => p.2.1) = _
    simp [hemplace]
  · intro e' he'
    obtain ⟨p, hp, rfl⟩ := List.mem_map.mp he'
    have hp' : p ∈ d.agent.runEvents := by
      rw [← OrderedMap.mem_toList, hsplit]
      exact List.mem_append_right _ hp
    exact hturn.not_conflict he hp' (hd.created.keys p hp') (hd.kinds p hp') (hafter p hp)

theorem surfaces_insert {before after requests : List Event}
    (h : (surfaceRequests (before ++ after)).Perm (surfaceRequests requests)) :
    (surfaceRequests (before ++ e :: after)).Perm (surfaceRequests (requests ++ [e])) := by
  have hmiddle : (surfaceRequests (before ++ e :: after)).Perm (surfaceRequests (e :: (before ++ after))) :=
    List.perm_middle.filter _
  have hlast : (surfaceRequests (e :: requests)).Perm (surfaceRequests (requests ++ [e])) :=
    (List.perm_append_singleton e requests).symm.filter _
  refine hmiddle.trans (List.Perm.trans ?_ hlast)
  simp only [surfaceRequests, List.filter_cons]
  split
  · exact h.cons e
  · exact h

theorem order_insert {before after requests : List Event}
    (h : Channel.executeAll (before ++ after) = Channel.executeAll requests)
    (hconflict : ∀ e' ∈ after, ¬ Channel.Conflict e.type e'.type) :
    Channel.executeAll (before ++ e :: after) = Channel.executeAll (requests ++ [e]) := by
  rw [executeAll_append, List.foldl_cons, Channel.foldl_comm hconflict, ← executeAll_append, h,
    executeAll_append]
  rfl

theorem nodup_arrives (hd : d.Kept) (hfresh : d.Fresh e) : (surfaceRequests (d.requests ++ [e])).Nodup := by
  rw [surfaceRequests, List.filter_append, List.filter_singleton]
  cases hs : isSurfaceRequest e.type with
  | false =>
    show (List.filter _ d.requests ++ []).Nodup
    rw [List.append_nil]
    exact hd.nodup
  | true =>
    refine List.nodup_append.mpr ⟨hd.nodup, List.nodup_singleton e, ?_⟩
    intro e₁ h₁ e₂ h₂ heq
    obtain rfl : e₂ = e := List.mem_singleton.mp h₂
    obtain ⟨hmem, hsurface⟩ := List.mem_filter.mp h₁
    exact hfresh hs e₁ hmem hsurface (congrArg Event.requestId heq)

/-- The agent is not free for the next request. -/
def Busy (a : Agent) : Prop :=
  a.runningStatus = .done ∧ a.runStep = .create ∨
    a.runningStatus = .running ∧ a.runStep ≠ .destroy

/-- A busy agent keeps the request, unless it is kept already or of the kind that runs. -/
theorem busy_taken {a a' : Agent} {e : StepEvent} {code : ErrorCode} {outputs : List Output}
    (ha : Busy a) (he : isChannelRequest e.1.type = true) (h : Taken a e a' code outputs) :
    outputs = [] ∧ (a' = a.cache e ∨ a' = a ∧ (a.runningStatus = .running ∧
      getRunStep e.1.type = a.runStep ∨ (a.runEvents.find? (runStepKey e.1)).isSome)) := by
  obtain ⟨-, hstart, hdestroy, -, -⟩ := getRunStep_of_channelRequest he
  have hcreate : AgentRunStep.create.value = 1 := rfl
  cases h with
  | rejected h =>
    refine ⟨rfl, Or.inr ⟨rfl, ?_⟩⟩
    rcases h with ⟨hs, hd⟩ | ⟨hs, hstep | hd | hkey⟩ | ⟨hs, -⟩
    · rcases ha with ⟨-, hc⟩ | ⟨hs', -⟩
      · rw [hd] at hc
        cases hc
      · rw [hs] at hs'
        cases hs'
    · exact Or.inl ⟨hs, hstep⟩
    · rcases ha with ⟨hs', -⟩ | ⟨-, hne⟩
      · rw [hs] at hs'
        cases hs'
      · exact absurd hd hne
    · exact Or.inr hkey
    · rcases ha with ⟨hs', -⟩ | ⟨hs', -⟩ <;> rw [hs] at hs' <;> cases hs'
  | cached => exact ⟨rfl, Or.inl rfl⟩
  | interrupts hs hstep => exact absurd hstep hdestroy
  | starts h =>
    rcases h with ⟨hs, -, hvalue | hstep | hstep⟩ | ⟨hs, hstep⟩
    · rcases ha with ⟨-, hc⟩ | ⟨hs', -⟩
      · rw [hc] at hvalue
        omega
      · rw [hs] at hs'
        cases hs'
    · exact absurd hstep hstart
    · exact absurd hstep hdestroy
    · exact absurd hstep hdestroy
  | interrupted hs => rcases ha with ⟨hs', -⟩ | ⟨hs', -⟩ <;> rw [hs] at hs' <;> cases hs'
  | idle hs => rcases ha with ⟨hs', -⟩ | ⟨hs', -⟩ <;> rw [hs] at hs' <;> cases hs'

/-- An agent that runs nothing takes the request, once it was started. -/
theorem free_taken {a a' : Agent} {e : StepEvent} {code : ErrorCode} {outputs : List Output}
    (hstatus : a.runningStatus = .done) (hrun : a.runStep ≠ .destroy)
    (hstep : 2 ≤ a.runStep.value ∨ getRunStep e.1.type = .start) (h : Taken a e a' code outputs) :
    a' = a.setRunningStatus (getRunStep e.1.type) .running ∧ outputs = a.forward e.1 := by
  have hother : ∀ status, a.runningStatus = status → status = .done := by
    intro status hs
    exact hs.symm.trans hstatus
  cases h with
  | rejected h =>
    rcases h with ⟨-, hd⟩ | ⟨hs, -⟩ | ⟨hs, -⟩
    · exact absurd hd hrun
    · cases hother _ hs
    · cases hother _ hs
  | cached h =>
    rcases h with ⟨-, hlow, hne⟩ | ⟨hs, -⟩
    · rcases hstep with hlate | hstart
      · omega
      · exact absurd hstart hne
    · cases hother _ hs
  | starts => exact ⟨rfl, rfl⟩
  | interrupts hs => cases hother _ hs
  | interrupted hs => cases hother _ hs
  | idle hs => cases hother _ hs

theorem Kept.left_out (hd : d.Kept) (h : isSurfaceRequest e.type = false ∧
    (Channel.executeAll (d.forwarded ++ d.kept)).execute e = Channel.executeAll (d.forwarded ++ d.kept)) :
    (surfaceRequests (d.forwarded ++ d.kept)).Perm (surfaceRequests (d.requests ++ [e])) ∧
      Channel.executeAll (d.forwarded ++ d.kept) = Channel.executeAll (d.requests ++ [e]) := by
  constructor
  · have hlast : surfaceRequests (d.requests ++ [e]) = surfaceRequests d.requests := by
      simp [surfaceRequests, h.1]
    rw [hlast]
    exact hd.surfaces
  · rw [executeAll_append d.requests, ← hd.order]
    exact h.2.symm

theorem Phase.busy (hd : d.Phase) (hbusy : Busy d.agent) (hstarted : d'.started = d.started)
    (hpending : d'.pending = d.pending) (hforwarded : d'.forwarded = d.forwarded)
    (hstep : d'.agent.runStep = d.agent.runStep)
    (hstatus : d'.agent.runningStatus = d.agent.runningStatus) : d'.Phase := by
  cases hd with
  | fresh h₁ h₂ h₃ h₄ =>
    exact .fresh (hstarted.trans h₁) (hpending.trans h₂) (hstep.trans h₃) (hstatus.trans h₄)
  | starting e h₁ h₂ he h₃ h₄ =>
    exact .starting e (hstarted.trans h₁) (hpending.trans h₂) he (hstep.trans h₃) (hstatus.trans h₄)
  | running before e h₁ h₂ he h₃ h₄ h₅ =>
    exact .running before e (hstarted.trans h₁) (hpending.trans h₂) he (hforwarded.trans h₃)
      (hstep.trans h₄) (hstatus.trans h₅)
  | settled _ _ h₃ h₄ =>
    rcases hbusy with ⟨-, hcreate⟩ | ⟨hrunning, -⟩
    · rw [hcreate] at h₃
      exact absurd h₃.1 (by decide)
    · rw [h₄] at hrunning
      cases hrunning

theorem Kept.cached_arrives (hd : d.Kept) {e : StepEvent} (he : isChannelRequest e.1.type = true)
    (hfresh : d.Fresh e.1) (hturn : d.agent.InTurn e.1.type) :
    let events := d.forwarded ++ (d.agent.cache e).runEvents.toList.map fun p => p.2.1
    (surfaceRequests events).Perm (surfaceRequests (d.requests ++ [e.1])) ∧
      Channel.executeAll events = Channel.executeAll (d.requests ++ [e.1]) := by
  intro events
  by_cases hkey : ∃ p ∈ d.agent.runEvents, p.1 = runStepKey e.1
  · obtain ⟨⟨key, e'⟩, hp, rfl⟩ := hkey
    have hsame : events = d.forwarded ++ d.kept := by
      show d.forwarded ++ (d.agent.runEvents.emplace (runStepKey e.1) e).toList.map _ = _
      rw [OrderedMap.emplace_of_mem hp]
      rfl
    rw [hsame]
    exact hd.left_out (hd.redundant_key he hfresh hturn hp rfl)
  · obtain ⟨before, after, hkept, hcache, hconflict⟩ :=
      hd.cached he hturn fun p hp hk => hkey ⟨p, hp, hk⟩
    have hsurfaces := hd.surfaces
    have horder := hd.order
    rw [hkept, ← List.append_assoc] at hsurfaces horder
    have hinsert : events = (d.forwarded ++ before) ++ e.1 :: after := by
      show d.forwarded ++ _ = _
      rw [hcache, List.append_assoc]
    rw [hinsert]
    exact ⟨surfaces_insert hsurfaces, order_insert horder hconflict⟩

/-- A request that arrives at a busy agent is kept, or does nothing more. -/
theorem Kept.request_busy (hd : d.Kept) (hbusy : Busy d.agent) {e : StepEvent}
    (he : isChannelRequest e.1.type = true) (hfresh : d.Fresh e.1) (hturn : d.agent.InTurn e.1.type)
    {agent : Agent} {code : ErrorCode} {outputs : List Output} (h : Taken d.agent e agent code outputs) :
    outputs = [] ∧ ({ d with agent, requests := d.requests ++ [e.1] } : Dialogue).Kept := by
  obtain ⟨hnil, hagent⟩ := busy_taken hbusy he h
  refine ⟨hnil, ?_⟩
  rcases hagent with rfl | ⟨rfl, hknown⟩
  · obtain ⟨hsurfaces, horder⟩ := hd.cached_arrives he hfresh hturn
    have hkinds : ∀ p ∈ (d.agent.cache e).runEvents, isChannelRequest p.2.1.type = true := by
      intro p hp
      rcases OrderedMap.mem_of_mem_emplace hp with rfl | hp
      · exact he
      · exact hd.kinds p hp
    exact ⟨hd.created.cache (getRunStep_of_channelRequest he).2.2.2.1, hkinds,
      hd.phase.busy hbusy rfl rfl rfl rfl rfl, hsurfaces, nodup_arrives hd hfresh, horder⟩
  · have hredundant : isSurfaceRequest e.1.type = false ∧
        (Channel.executeAll (d.forwarded ++ d.kept)).execute e.1 =
          Channel.executeAll (d.forwarded ++ d.kept) := by
      rcases hknown with ⟨hstatus, hstep⟩ | hfind
      · exact hd.redundant_step he hturn hstatus hstep
      · obtain ⟨v, hv⟩ := Option.isSome_iff_exists.mp hfind
        exact hd.redundant_key he hfresh hturn (OrderedMap.mem_of_find? hv) rfl
    obtain ⟨hsurfaces, horder⟩ := hd.left_out hredundant
    exact ⟨hd.created, hd.kinds, hd.phase.busy hbusy rfl rfl rfl rfl rfl, hsurfaces,
      nodup_arrives hd hfresh, horder⟩

/-- A request that arrives when everything is answered is forwarded at once. -/
theorem Kept.request_free (hd : d.Kept) {e : StepEvent} (he : isChannelRequest e.1.type = true)
    (hfresh : d.Fresh e.1) (hstarted : d.started = true)
    (hstep : 2 ≤ d.agent.runStep.value ∧ d.agent.runStep ≠ .destroy)
    (hstatus : d.agent.runningStatus = .done) (hempty : d.agent.runEvents.toList = [])
    {agent : Agent} {code : ErrorCode} {outputs : List Output} (h : Taken d.agent e agent code outputs) :
    outputs.filterMap channelRequest = [e.1] ∧ ({ d with
      agent, requests := d.requests ++ [e.1], forwarded := d.forwarded ++ [e.1]
      pending := some e.1 } : Dialogue).Kept := by
  obtain ⟨rfl, rfl⟩ := free_taken hstatus hstep.2 (Or.inl hstep.1) h
  refine ⟨channelRequest_forward he, ?_⟩
  have hkept : d.kept = [] := by rw [kept, hempty, List.map_nil]
  have hsurfaces := hd.surfaces
  have horder := hd.order
  rw [hkept] at hsurfaces horder
  have hkept' : ({ d with
      agent := d.agent.setRunningStatus (getRunStep e.1.type) .running, requests := d.requests ++ [e.1]
      forwarded := d.forwarded ++ [e.1], pending := some e.1 } : Dialogue).kept = [] := hkept
  refine ⟨hd.created.setRunningStatus _ AgentRunningStatus.noConfusion, hd.kinds,
    .running d.forwarded e.1 hstarted rfl he rfl rfl rfl, ?_, nodup_arrives hd hfresh, ?_⟩
  · rw [hkept', List.append_assoc]
    exact surfaces_insert hsurfaces
  · rw [hkept', List.append_assoc]
    exact order_insert horder nofun

theorem Kept.request (hd : d.Kept) (hturn : d.agent.InTurn e.type)
    (h : d.step (.request e) = .ok d') : d'.Kept := by
  simp only [step] at h
  split at h
  · rename_i hallowed
    obtain ⟨he, hfresh⟩ := hallowed
    cases h
    let stepEvent : StepEvent := ⟨e, (getRunStep_of_channelRequest he).1⟩
    have htaken : Taken d.agent stepEvent _ _ _ :=
      handleEvent_taken (getRunStep_of_channelRequest he).2.2.2.1
    have hbusy : Busy d.agent → ({ d with
        agent := (d.agent.handleEvent e).1, requests := d.requests ++ [e]
        forwarded := d.forwarded ++ (d.agent.handleEvent e).2.2.filterMap channelRequest
        pending := ((d.agent.handleEvent e).2.2.filterMap channelRequest).getLast?.or d.pending } :
          Dialogue).Kept := by
      intro hbusy
      obtain ⟨hnil, hkept⟩ := hd.request_busy hbusy (e := stepEvent) he hfresh hturn htaken
      have hnil : (d.agent.handleEvent e).2.2 = [] := hnil
      rw [hnil, List.filterMap_nil, List.append_nil]
      exact hkept
    cases hd.phase with
    | fresh _ _ hstep hstatus => exact hbusy (Or.inl ⟨hstatus, hstep⟩)
    | starting _ _ _ _ hstep hstatus => exact hbusy (Or.inr ⟨hstatus, by rw [hstep]; exact nofun⟩)
    | running _ _ _ _ he₀ _ hstep hstatus =>
      exact hbusy (Or.inr ⟨hstatus, by rw [hstep]; exact (getRunStep_of_channelRequest he₀).2.2.1⟩)
    | settled hstarted _ hstep hstatus hempty =>
      obtain ⟨hnew, hkept⟩ := hd.request_free (e := stepEvent) he hfresh hstarted hstep hstatus hempty
        htaken
      have hnew : (d.agent.handleEvent e).2.2.filterMap channelRequest = [e] := hnew
      show ({ d with
        agent := (d.agent.handleEvent e).1, requests := d.requests ++ [e]
        forwarded := d.forwarded ++ (d.agent.handleEvent e).2.2.filterMap channelRequest
        pending := ((d.agent.handleEvent e).2.2.filterMap channelRequest).getLast?.or d.pending } :
          Dialogue).Kept
      rw [hnew]
      exact hkept
  · cases h

/-! The answers to what an agent forwards, and runs in which every request arrives in turn. -/

theorem Kept.start {requestId : BitVec 32} (hd : d.Kept) (h : d.step (.start requestId) = .ok d') :
    d'.Kept := by
  simp only [step] at h
  split at h
  · cases h
  · rename_i hstarted
    cases h
    have htaken : Taken d.agent ⟨{ type := .start, requestId }, AgentRunStep.noConfusion⟩ _ _ _ :=
      handleEvent_taken rfl
    have hagent : (d.agent.handleEvent { type := .start, requestId }).1 =
        d.agent.setRunningStatus .start .running := by
      cases hd.phase with
      | fresh _ _ hstep hstatus =>
        exact (free_taken hstatus (by rw [hstep]; exact AgentRunStep.noConfusion) (Or.inr rfl) htaken).1
      | starting _ hs => exact absurd hs hstarted
      | running _ _ hs => exact absurd hs hstarted
      | settled hs => exact absurd hs hstarted
    rw [hagent]
    exact ⟨hd.created.setRunningStatus _ AgentRunningStatus.noConfusion, hd.kinds,
      .starting _ rfl rfl rfl rfl rfl, hd.surfaces, hd.nodup, hd.order⟩

theorem answer_pops {a : Agent} (ha : a.Created) (hstatus : a.runningStatus = .running)
    (he : e.type = .start ∨ isChannelRequest e.type = true) (hstep : a.runStep = getRunStep e.type)
    (prosumerId : BitVec 32) :
    (a.handleEvent (answerTo prosumerId e)).1 = (a.popNextStep a.runStep .done).1 ∧
      (a.handleEvent (answerTo prosumerId e)).2.2.filterMap channelRequest =
        (a.popNextStep a.runStep .done).2.filterMap channelRequest := by
  have hidle : getRunStep (answerTo prosumerId e).type = .idle := by
    obtain ⟨type, requestId, errorCode⟩ := e
    cases type <;> first | rfl | (rcases he with he | he <;> cases he)
  rw [handleEvent_idle hidle, if_neg (by rw [hstatus]; exact AgentRunningStatus.noConfusion)]
  obtain ⟨agentType, session, prosumerId₀, mediaChannelId, runEvents, runStep, runningStatus⟩ := a
  obtain rfl : session = true := ha.session
  obtain rfl : runStep = getRunStep e.type := hstep
  obtain ⟨type, requestId, errorCode⟩ := e
  cases type with
  | channelRemoveSurface surfaceId =>
    refine ⟨rfl, ?_⟩
    show (_ ++ sendInteractionEvent _ _).filterMap channelRequest = _
    rw [List.filterMap_append]
    exact List.append_nil _
  | start | playStart | playStop | channelAppendSurface => exact ⟨rfl, rfl⟩
  | _ => rcases he with he | he <;> cases he

/-- Behind an answer the first request that is kept is forwarded, if there is one. -/
theorem Kept.pops (hd : d.Kept) (hstarted : d.started = true)
    (hstep : 2 ≤ d.agent.runStep.value ∧ d.agent.runStep ≠ .destroy) :
    ({ d with
      agent := (d.agent.popNextStep d.agent.runStep .done).1
      forwarded := d.forwarded ++ (d.agent.popNextStep d.agent.runStep .done).2.filterMap channelRequest
      pending := ((d.agent.popNextStep d.agent.runStep .done).2.filterMap channelRequest).getLast? } :
        Dialogue).Kept := by
  cases hfirst : d.agent.runEvents.begin? with
  | none =>
    have hempty : d.agent.runEvents.toList = [] := List.head?_eq_none_iff.mp hfirst
    rw [popNextStep_none hfirst, List.filterMap_nil, List.append_nil]
    exact ⟨hd.created.setRunningStatus _ AgentRunningStatus.noConfusion, hd.kinds,
      .settled hstarted rfl hstep rfl hempty, hd.surfaces, hd.nodup, hd.order⟩
  | some first =>
    obtain ⟨key, e⟩ := first
    obtain ⟨rest, hlist⟩ := List.head?_eq_some_iff.mp hfirst
    have hmem : (key, e) ∈ d.agent.runEvents := (OrderedMap.begin?_some hfirst).1
    have he : isChannelRequest e.1.type = true := hd.kinds _ hmem
    obtain ⟨code, htaken⟩ := popNextStep_taken .done hfirst (hd.created.errors _ hmem)
    obtain ⟨hagent, houtputs⟩ := free_taken (by rfl) (by exact hstep.2) (Or.inl (by exact hstep.1)) htaken
    rw [hagent, houtputs, channelRequest_forward he]
    have hrest : (d.agent.runEvents.erase key).toList = rest := OrderedMap.erase_toList hlist
    have hsame : (d.forwarded ++ [e.1]) ++ (d.agent.runEvents.erase key).toList.map (fun p => p.2.1) =
        d.forwarded ++ d.kept := by
      rw [kept, hlist, hrest, List.append_assoc]
      rfl
    have hsurfaces := hd.surfaces
    have horder := hd.order
    rw [← hsame] at hsurfaces horder
    exact ⟨((hd.created.setRunningStatus _ AgentRunningStatus.noConfusion).erase key).setRunningStatus _
      AgentRunningStatus.noConfusion, fun p hp => hd.kinds p (OrderedMap.mem_erase.mp hp).1,
      .running d.forwarded e.1 hstarted rfl he rfl rfl rfl, hsurfaces, hd.nodup, horder⟩

theorem Kept.answer {prosumerId : BitVec 32} (hd : d.Kept) (h : d.step (.answer prosumerId) = .ok d') :
    d'.Kept := by
  simp only [step] at h
  split at h
  · cases h
  · rename_i e hpending
    cases h
    obtain ⟨hstarted, he, hstep, hstatus⟩ : d.started = true ∧
        (e.type = .start ∨ isChannelRequest e.type = true) ∧
        d.agent.runStep = getRunStep e.type ∧ d.agent.runningStatus = .running := by
      cases hd.phase with
      | fresh _ hp =>
        rw [hp] at hpending
        cases hpending
      | starting e₀ hstarted hp he hstep hstatus =>
        obtain rfl : e₀ = e := Option.some.inj (hp.symm.trans hpending)
        exact ⟨hstarted, Or.inl he, by rw [hstep, he]; rfl, hstatus⟩
      | running before e₀ hstarted hp he hforwarded hstep hstatus =>
        obtain rfl : e₀ = e := Option.some.inj (hp.symm.trans hpending)
        exact ⟨hstarted, Or.inr he, hstep, hstatus⟩
      | settled _ hp =>
        rw [hp] at hpending
        cases hpending
    obtain ⟨hagent, hnew⟩ := answer_pops hd.created hstatus he hstep prosumerId
    have hlate : 2 ≤ d.agent.runStep.value ∧ d.agent.runStep ≠ .destroy := by
      rw [hstep]
      rcases he with he | he
      · rw [he]
        exact ⟨Nat.le_refl 2, AgentRunStep.noConfusion⟩
      · obtain ⟨-, -, hdestroy, -, hvalue⟩ := getRunStep_of_channelRequest he
        exact ⟨Nat.le_trans (by decide) hvalue, hdestroy⟩
    rw [hagent, hnew]
    exact hd.pops hstarted hlate

theorem kept_created (agentType : AgentType) : (created agentType).Kept where
  created := created_createSession agentType
  kinds _ hp := absurd hp List.not_mem_nil
  phase := .fresh rfl rfl rfl rfl
  surfaces := List.Perm.refl _
  nodup := List.nodup_nil
  order := rfl

theorem Kept.transparent (hd : d.Kept) : d.Transparent := by
  have hcount : ∀ e, isSurfaceRequest e.type = true →
      (d.forwarded ++ d.kept).count e = (surfaceRequests d.requests).count e := by
    intro e hsurface
    rw [← hd.surfaces.count_eq e]
    exact (List.count_filter (p := fun e : Event => isSurfaceRequest e.type) hsurface).symm
  have hsettled : d.started = true → d.pending = none → d.kept = [] := by
    intro hstarted hpending
    cases hd.phase with
    | fresh hs =>
      rw [hs] at hstarted
      cases hstarted
    | starting _ _ hp =>
      rw [hp] at hpending
      cases hpending
    | running _ _ _ hp =>
      rw [hp] at hpending
      cases hpending
    | settled _ _ _ _ hempty => rw [kept, hempty, List.map_nil]
  refine ⟨?_, ?_, ?_⟩
  · intro e _ hsurface
    have hle := List.nodup_iff_count_le_one.mp hd.nodup e
    rw [← hcount e hsurface, List.count_append] at hle
    omega
  · intro hstarted hpending e hmem hsurface
    have hone := List.count_eq_one_of_mem hd.nodup (List.mem_filter.mpr ⟨hmem, hsurface⟩)
    rw [← hcount e hsurface, hsettled hstarted hpending, List.append_nil] at hone
    exact hone
  · intro hstarted hpending
    have horder := hd.order
    rw [hsettled hstarted hpending, List.append_nil] at horder
    exact horder

/-- In a run in which every request arrives in turn, what the agent keeps is not seen. -/
theorem run_transparent (agentType : AgentType) (moves : List Move) (d : Dialogue)
    (run : GuardedRun step InTurn (created agentType) moves d) : d.Transparent := by
  refine (run.invariant (I := Kept) (kept_created agentType) ?_).transparent
  intro d move d' hd hturn hstep
  cases move with
  | start requestId => exact hd.start hstep
  | request e => exact hd.request hturn hstep
  | answer prosumerId => exact hd.answer hstep

/-- A surface that is appended while the session starts. -/
theorem run_transparent_append : ∃ d, GuardedRun step InTurn (created .src)
    [.start 1, .request { type := .channelAppendSurface 7 .foreground, requestId := 2 }, .answer 0,
      .answer 0] d ∧ d.started = true ∧ d.pending = none ∧ d.Transparent := by
  have start : GuardedRun step InTurn (created .src) [.start 1] _ := .snoc .nil trivial rfl
  have request : GuardedRun step InTurn (created .src)
      [.start 1, .request { type := .channelAppendSurface 7 .foreground, requestId := 2 }] _ :=
    .snoc start ⟨fun h => AgentRunStep.noConfusion h.2, List.forall_mem_nil _⟩ rfl
  have started : GuardedRun step InTurn (created .src)
      [.start 1, .request { type := .channelAppendSurface 7 .foreground, requestId := 2 }, .answer 0] _ :=
    .snoc request trivial rfl
  have run : GuardedRun step InTurn (created .src)
      [.start 1, .request { type := .channelAppendSurface 7 .foreground, requestId := 2 }, .answer 0,
        .answer 0] _ := .snoc started trivial rfl
  exact ⟨_, run, rfl, rfl, run_transparent _ _ _ run⟩

/-- The second of two surfaces is not appended while the first one is. -/
theorem secondAppend_not_transparent : ¬ ∀ agentType moves d,
    GuardedRun step (fun _ _ => True) (created agentType) moves d → d.Transparent := by
  intro h
  have run : GuardedRun step (fun _ _ => True) (created .src)
      [.start 1, .answer 0, .request { type := .channelAppendSurface 7 .foreground, requestId := 2 },
        .request { type := .channelAppendSurface 8 .foreground, requestId := 3 }, .answer 0] _ :=
    .snoc (.snoc (.snoc (.snoc (.snoc .nil trivial rfl) trivial rfl) trivial rfl) trivial rfl) trivial rfl
  have hall := (h _ _ _ run).all rfl rfl
    { type := .channelAppendSurface 8 .foreground, requestId := 3 }
  exact absurd (hall (by decide) rfl) (by decide)

end Dialogue

end Agent

end WifiDisplay
