import WifiDisplay.Basic
import WifiDisplay.PartialMaps
import WifiDisplay.SyncEvents

/-! What the result of a synchronous event says about its handler, in every order of the threads
and for a wait that may be over at any time. -/

namespace WifiDisplay

open ContextManager (invalidId)

/-- The tasks of a request for an agent. -/
def Creating : ContextManager.Task → Prop
  | .checkAgentSize _ | .getContextById _ | .handleContextCreate _ | .handleContextEvent _ _ _ => True
  | .handleEvent _ (.agentCreate _) (.create _) => True
  | .inContext _ (.makeAgent _) (.create _) | .inContext _ (.insert _) (.create _) => True
  | _ => False

theorem Creating.advance {manager manager' : ContextManager} {limits : ContextLimits}
    {task next : ContextManager.Task} {reports : List ContextManager.Report} (h : Creating task)
    (hadvance : manager.advance limits task = (manager', next, reports)) (msg : ContextEventMsg) :
    (Creating next ∧ reports.findSome? createdBy = none ∧ (msg.write next task).agentId = msg.agentId) ∨
    (next = .idle ∧ reports.findSome? createdBy = none ∧
      ((msg.write next task).agentId = msg.agentId ∨ (msg.write next task).agentId = invalidId)) ∨
    (next = .idle ∧ reports.findSome? createdBy = some (msg.write next task).agentId) := by
  cases task with
  | checkAgentSize r =>
    simp only [ContextManager.advance] at hadvance
    split at hadvance <;> cases hadvance
    · exact .inl ⟨trivial, rfl, rfl⟩
    · exact .inr (.inl ⟨rfl, rfl, .inl rfl⟩)
  | getContextById r =>
    simp only [ContextManager.advance] at hadvance
    split at hadvance <;> cases hadvance <;> exact .inl ⟨trivial, rfl, rfl⟩
  | handleContextCreate r =>
    simp only [ContextManager.advance] at hadvance
    split at hadvance
    · cases hadvance
      exact .inr (.inl ⟨rfl, rfl, .inl rfl⟩)
    · split at hadvance <;> cases hadvance
      · exact .inr (.inl ⟨rfl, rfl, .inl rfl⟩)
      · exact .inl ⟨trivial, rfl, rfl⟩
  | handleContextEvent dstId r made =>
    simp only [ContextManager.advance] at hadvance
    split at hadvance <;> cases hadvance
    · exact .inl ⟨trivial, rfl, rfl⟩
    · exact .inr (.inl ⟨rfl, rfl, .inl rfl⟩)
  | handleEvent dstId e purpose =>
    cases e <;> cases purpose <;> try exact h.elim
    simp only [ContextManager.advance] at hadvance
    split at hadvance <;> cases hadvance
    · exact .inr (.inl ⟨rfl, rfl, .inl rfl⟩)
    · exact .inl ⟨trivial, rfl, rfl⟩
  | inContext dstId task purpose =>
    cases task <;> cases purpose <;> try exact h.elim
    · rename_i r made
      cases hagent : (manager.objects dstId).makeAgent r with
      | none =>
        simp only [ContextManager.advance, Context.advance, hagent, if_true] at hadvance
        cases hadvance
        exact .inr (.inl ⟨rfl, rfl, .inr rfl⟩)
      | some a =>
        simp only [ContextManager.advance, Context.advance, hagent, reduceCtorEq, if_false] at hadvance
        cases hadvance
        exact .inl ⟨trivial, rfl, rfl⟩
    · cases hadvance
      exact .inr (.inr ⟨rfl, rfl⟩)
  | _ => exact h.elim

namespace SyncCall

variable {c c' : SyncCall}

/-- What is so of a call at any time: a handler that has not been taken has done nothing, and the
answer to a request for an agent names the agent that has been inserted. -/
structure Sound (c : SyncCall) : Prop where
  made : c.caller = .noMessage ∨ c.caller = .noListener ∨ c.caller = .pushTask → c.task = .made
  message : c.caller = .noMessage → c.event = none
  listener : c.caller ≠ .noMessage → c.event ≠ none
  ready : ∀ ret, c.caller = .ready ret → c.task = .returned ret
  agentCreate : ∀ contextId agentId msg, c.event = some (.agentCreate contextId agentId msg) →
    match c.task with
    | .made | .queued => c.created = none ∧ msg.agentId = agentId
    | .running task => Creating task ∧ c.created = none ∧ msg.agentId = agentId
    | .returned ret => ret = 0 ∧ (c.created = some msg.agentId ∨
        c.created = none ∧ (msg.agentId = agentId ∨ msg.agentId = invalidId))

/-- A worker has taken the task. -/
def Started (c : SyncCall) : Prop := c.task ≠ .made ∧ c.task ≠ .queued

/-- The calls whose results are final: the thread is back, and not because its wait was over. -/
def Settled (c : SyncCall) : Prop :=
  c.caller = .noMessage ∨ c.caller = .noListener ∨ ∃ ret, c.caller = .ready ret

/-- What a step may do to one call. -/
inductive Goes (c : SyncCall) : SyncCall → Prop where
  | pushTask (hcaller : c.caller = .pushTask) (task : SyncTask)
      (htask : task = c.task ∨ task = .queued) : Goes c { c with caller := .waitFor, task }
  | start (event : SharingEvent) (hevent : c.event = some event) (htask : c.task = .queued)
      (contextId agentId : BitVec 32) :
      Goes c { c with task := .running (SyncEvents.onEvent contextId agentId event) }
  | agentCreate (contextId agentId : BitVec 32) (msg : ContextEventMsg)
      (hevent : c.event = some (.agentCreate contextId agentId msg)) (task : ContextManager.Task)
      (htask : c.task = .running task) (limits : ContextLimits) (manager manager' : ContextManager)
      (next : ContextManager.Task) (reports : List ContextManager.Report)
      (hadvance : manager.advance limits task = (manager', next, reports)) :
      Goes c { c with
        event := some (.agentCreate contextId agentId (msg.write next task))
        created := reports.findSome? createdBy <|> c.created
        task := if next = .idle then .returned 0 else .running next }
  | handlerReturn (hevent : c.event = some .other) (task : ContextManager.Task)
      (htask : c.task = .running task) (ret : Int32) : Goes c { c with task := .returned ret }
  | ready (hcaller : c.caller = .waitFor) (ret : Int32) (htask : c.task = .returned ret) :
      Goes c { c with caller := .ready ret }
  | timeout (hcaller : c.caller = .waitFor) : Goes c { c with caller := .timeout }

theorem sound_noMessage : Sound { event := none, caller := .noMessage } :=
  ⟨fun _ => rfl, fun _ => rfl, fun h => absurd rfl h, nofun, nofun⟩

theorem sound_made (request : SyncRequest) {caller : SyncCaller}
    (h : caller = .noListener ∨ caller = .pushTask) :
    Sound { event := some request.event, caller } := by
  refine ⟨fun _ => rfl, fun h' => ?_, fun _ => by simp, fun ret h' => ?_,
    fun contextId agentId msg hevent => ?_⟩
  · rcases h with rfl | rfl <;> cases h'
  · rcases h with rfl | rfl <;> cases h'
  · cases request <;> cases hevent
    exact ⟨rfl, rfl⟩

theorem Settled.not_goes (hsettled : c.Settled) (hc : c.Sound) : ¬ Goes c c' := by
  have hdone : c.task = .made ∨ ∃ ret, c.task = .returned ret := by
    rcases hsettled with h | h | ⟨ret, h⟩
    · exact .inl (hc.made (.inl h))
    · exact .inl (hc.made (.inr (.inl h)))
    · exact .inr ⟨ret, hc.ready ret h⟩
  intro h
  cases h <;> rcases hsettled with h | h | ⟨_, h⟩ <;> rcases hdone with h' | ⟨_, h'⟩ <;> simp_all

theorem Started.goes (hstarted : c.Started) (hc : c.Sound) (h : Goes c c') : c'.Started := by
  cases h with
  | pushTask hcaller task htask => exact absurd (hc.made (.inr (.inr hcaller))) hstarted.1
  | start event hevent htask contextId agentId => exact absurd htask hstarted.2
  | agentCreate contextId agentId msg hevent task htask limits manager manager' next reports hadvance =>
    rw [Started]
    dsimp only
    split <;> exact ⟨nofun, nofun⟩
  | handlerReturn hevent task htask ret => exact ⟨nofun, nofun⟩
  | ready hcaller ret htask => exact hstarted
  | timeout hcaller => exact hstarted

theorem Sound.goes (hc : c.Sound) (h : Goes c c') : c'.Sound := by
  obtain ⟨hmade, hmessage, hlistener, hready, hagent⟩ := hc
  cases h with
  | pushTask hcaller task htask =>
    have hnew : task = .made ∨ task = .queued := by
      rcases htask with rfl | rfl
      · exact .inl (hmade (.inr (.inr hcaller)))
      · exact .inr rfl
    refine ⟨nofun, nofun, fun _ => hlistener (by simp [hcaller]), nofun,
      fun contextId agentId msg hevent => ?_⟩
    have := hagent contextId agentId msg hevent
    rw [hmade (.inr (.inr hcaller))] at this
    rcases hnew with rfl | rfl <;> exact this
  | start event hevent htask contextId agentId =>
    refine ⟨fun h => ?_, hmessage, hlistener, fun ret h => ?_, fun contextId agentId msg hmsg => ?_⟩
    · rw [hmade h] at htask
      cases htask
    · rw [hready ret h] at htask
      cases htask
    · have hsame := hagent contextId agentId msg hmsg
      rw [htask] at hsame
      rw [hevent] at hmsg
      cases hmsg
      exact ⟨trivial, hsame⟩
  | agentCreate contextId agentId msg hevent task htask limits manager manager' next reports hadvance =>
    have hrunning := hagent contextId agentId msg hevent
    rw [htask] at hrunning
    obtain ⟨hcreating, hcreated, hsame⟩ := hrunning
    refine ⟨fun h => ?_, fun h => ?_, fun _ => by simp, fun ret h => ?_,
      fun contextId' agentId' msg' hmsg => ?_⟩
    · rw [hmade h] at htask
      cases htask
    · rw [hmessage h] at hevent
      cases hevent
    · rw [hready ret h] at htask
      cases htask
    · cases hmsg
      rcases hcreating.advance hadvance msg with ⟨hnext, hnone, hid⟩ | ⟨rfl, hnone, hid⟩ | ⟨rfl, hsome⟩
      · have hidle : next ≠ .idle := by
          rintro rfl
          exact hnext
        simp only [if_neg hidle, hnone, hcreated, hid, hsame]
        exact ⟨hnext, rfl, trivial⟩
      · simp only [if_pos, hnone, hcreated, ← hsame]
        exact ⟨trivial, .inr ⟨rfl, hid⟩⟩
      · simp only [if_pos, hsome]
        exact ⟨trivial, .inl rfl⟩
  | handlerReturn hevent task htask ret =>
    refine ⟨fun h => ?_, hmessage, hlistener, fun ret h => ?_, fun contextId agentId msg hmsg => ?_⟩
    · rw [hmade h] at htask
      cases htask
    · rw [hready ret h] at htask
      cases htask
    · rw [hevent] at hmsg
      cases hmsg
  | ready hcaller ret htask =>
    refine ⟨nofun, nofun, fun _ => hlistener (by simp [hcaller]), fun ret' h => ?_, hagent⟩
    cases h
    exact htask
  | timeout hcaller =>
    exact ⟨nofun, nofun, fun _ => hlistener (by simp [hcaller]), nofun, hagent⟩

end SyncCall

namespace SyncEvents

variable {n : Nat} {limits : ContextLimits} {s s' : SyncEvents n} {move : SyncMove n} {k : Nat}
  {c c' : SyncCall}

/-- What a step does to the calls: it leaves them alone, takes up a new one, or moves one. -/
inductive Changed (s s' : SyncEvents n) : Prop where
  | same (hc : s'.calls = s.calls) (hst : s'.started = s.started)
  | new {k : Nat} {c : SyncCall} (hnone : s.calls k = none) (hsound : c.Sound) (hnot : ¬ c.Started)
      (hc : s'.calls = Function.update s.calls k (some c)) (hst : s'.started = s.started)
  | moved {k : Nat} {c c' : SyncCall} (hk : s.calls k = some c) (hgoes : c.Goes c')
      (hc : s'.calls = Function.update s.calls k (some c'))
      (hst : s'.started = s.started ∧ (c'.Started → c.Started) ∨
        s'.started = s.started ++ [k] ∧ ¬ c.Started ∧ c'.Started)

theorem exists_of_withCall {k : Option Nat} {f : Nat → SyncCall → Except SyncBlocked (SyncEvents n)}
    (h : s.withCall k f = .ok s') : ∃ k c, s.calls k = some c ∧ f k c = .ok s' := by
  unfold withCall at h
  split at h
  · cases h
  · split at h
    · cases h
    · exact ⟨_, _, ‹_›, h⟩

theorem pushSyncEvent_changed {request : Option SyncRequest} {listener : Bool}
    (h : s.pushSyncEvent k request listener = .ok s') : s.Changed s' := by
  unfold pushSyncEvent at h
  split at h
  · cases h
  · cases h
    exact .new ‹_› SyncCall.sound_noMessage (fun h => h.1 rfl) rfl rfl
  · rename_i request hnone
    split at h <;> cases h
    · exact .new hnone (SyncCall.sound_made request (.inr rfl)) (fun h => h.1 rfl) rfl rfl
    · exact .new hnone (SyncCall.sound_made request (.inl rfl)) (fun h => h.1 rfl) rfl rfl

theorem pushTask_changed (hc : s.calls k = some c) (h : s.pushTask k c = .ok s') : s.Changed s' := by
  rw [pushTask] at h
  split at h
  · cases h
  rename_i hcaller
  rw [ne_eq, not_not] at hcaller
  split at h
  · cases h
    exact .moved hc (.pushTask hcaller c.task (.inl rfl)) rfl (.inl ⟨rfl, id⟩)
  · split at h <;> cases h
    exact .moved hc (.pushTask hcaller .queued (.inr rfl)) rfl (.inl ⟨rfl, fun h => absurd rfl h.2⟩)

/-- A queued task starts. -/
theorem taskMainWorker_changed {i : Fin n} {contextId agentId : BitVec 32}
    (h : s.taskMainWorker i contextId agentId = .ok s') : s.Changed s' := by
  rw [taskMainWorker] at h
  cases htasks : s.tasks with
  | nil =>
    rw [htasks] at h
    cases h
  | cons k tasks =>
    rw [htasks] at h
    dsimp only at h
    split at h
    · split at h <;> cases h
      rename_i event caller created hc
      exact .moved hc (.start event rfl rfl contextId agentId) rfl (.inr ⟨rfl, fun h => h.2 rfl, nofun, nofun⟩)
    · cases h

theorem agentCreate_changed {i : Fin n} (hc : s.calls k = some c)
    (h : s.agentCreate limits i k c = .ok s') : s.Changed s' := by
  rw [agentCreate] at h
  split at h
  swap
  · cases h
  rename_i contextId agentId msg task hevent htask
  obtain ⟨manager', next, reports, hadvance⟩ :
    ∃ manager' next reports, s.manager.advance limits task = (manager', next, reports) := ⟨_, _, _, rfl⟩
  have hgoes := SyncCall.Goes.agentCreate contextId agentId msg hevent task htask limits s.manager
    manager' next reports hadvance
  have hstarted : c.Started := by
    rw [SyncCall.Started, htask]
    exact ⟨nofun, nofun⟩
  rw [hadvance] at h
  dsimp only at h
  split at h <;> cases h
  · rw [if_pos ‹_›] at hgoes
    exact .moved hc hgoes rfl (.inl ⟨rfl, fun _ => hstarted⟩)
  · rw [if_neg ‹_›] at hgoes
    exact .moved hc hgoes rfl (.inl ⟨rfl, fun _ => hstarted⟩)

theorem step_changed (h : s.step limits move = .ok s') : s.Changed s' := by
  cases move with
  | pushSyncEvent k request listener => exact pushSyncEvent_changed h
  | pushTask k =>
    obtain ⟨k, c, hc, h⟩ := exists_of_withCall (k := some k) (f := s.pushTask) h
    exact pushTask_changed hc h
  | taskMainWorker i contextId agentId => exact taskMainWorker_changed h
  | agentCreate i =>
    obtain ⟨k, c, hc, h⟩ := exists_of_withCall h
    exact agentCreate_changed hc h
  | other i manager =>
    obtain ⟨k, c, hc, h⟩ := exists_of_withCall h
    rw [other] at h
    split at h <;> cases h
    exact .same rfl rfl
  | handlerReturn i ret =>
    obtain ⟨k, c, hc, h⟩ := exists_of_withCall h
    rw [otherReturn] at h
    split at h <;> cases h
    rename_i task hevent htask
    refine .moved hc (.handlerReturn hevent task htask ret) rfl (.inl ⟨rfl, fun _ => ?_⟩)
    rw [SyncCall.Started, htask]
    exact ⟨nofun, nofun⟩
  | ready k =>
    obtain ⟨k, c, hc, h⟩ := exists_of_withCall (k := some k) (f := s.ready) h
    rw [ready] at h
    split at h <;> cases h
    exact .moved hc (.ready ‹_› _ ‹_›) rfl (.inl ⟨rfl, id⟩)
  | timeout k =>
    obtain ⟨k, c, hc, h⟩ := exists_of_withCall (k := some k) (f := s.timeout) h
    rw [timeout] at h
    split at h <;> cases h
    exact .moved hc (.timeout ‹_›) rfl (.inl ⟨rfl, id⟩)
  | stop =>
    cases h
    exact .same rfl rfl

/-- The calls are sound, and `started` holds each started one once. -/
structure Sound (s : SyncEvents n) : Prop where
  calls : ∀ k c, s.calls k = some c → c.Sound
  started : ∀ k, k ∈ s.started ↔ ∃ c, s.calls k = some c ∧ c.Started
  nodup : s.started.Nodup

theorem sound_init : ({} : SyncEvents n).Sound where
  calls _ _ h := by cases h
  started k := by simp
  nodup := List.nodup_nil

theorem Sound.step (hs : s.Sound) (h : s.step limits move = .ok s') : s'.Sound := by
  obtain ⟨hcalls, hstarted, hnodup⟩ := hs
  rcases step_changed h with ⟨hc, hst⟩ | @⟨k, c, hnone, hsound, hnot, hc, hst⟩ |
    @⟨k, c, c', hk, hgoes, hc, hst⟩
  · exact ⟨by rwa [hc], by rwa [hc, hst], by rwa [hst]⟩
  · refine ⟨fun j cj hj => ?_, fun j => ?_, by rwa [hst]⟩
    · rw [hc] at hj
      rcases PartialMap.eq_some_of_insert hj with ⟨rfl, rfl⟩ | ⟨-, hj⟩
      · exact hsound
      · exact hcalls j cj hj
    · rw [hst, hstarted, hc]
      by_cases hjk : j = k
      · subst hjk
        simp [hnone, hnot]
      · rw [Function.update_of_ne hjk]
  · have hmem : k ∈ s.started ↔ c.Started := by
      rw [hstarted, hk]
      simp
    refine ⟨fun j cj hj => ?_, fun j => ?_, ?_⟩
    · rw [hc] at hj
      rcases PartialMap.eq_some_of_insert hj with ⟨rfl, rfl⟩ | ⟨-, hj⟩
      · exact (hcalls j c hk).goes hgoes
      · exact hcalls j cj hj
    · by_cases hjk : j = k
      · subst hjk
        rw [hc, Function.update_self]
        rcases hst with ⟨hst, hback⟩ | ⟨hst, -, hnew⟩
        · have hiff : c.Started ↔ c'.Started := ⟨fun h => h.goes (hcalls j c hk) hgoes, hback⟩
          rw [hst, hmem, hiff]
          simp
        · simp [hst, hnew]
      · rw [hc, Function.update_of_ne hjk]
        rcases hst with ⟨hst, -⟩ | ⟨hst, -⟩
        · rw [hst, hstarted]
        · rw [hst, List.mem_append, hstarted, List.mem_singleton, or_iff_left hjk]
    · rcases hst with ⟨hst, -⟩ | ⟨hst, hold, -⟩
      · rwa [hst]
      · rw [hst]
        refine List.nodup_append.mpr ⟨hnodup, by simp, fun a ha b hb => ?_⟩
        obtain rfl := List.mem_singleton.mp hb
        rintro rfl
        exact hold (hmem.mp ha)

/-- The threads come to `s'` from `s`. -/
inductive Run (limits : ContextLimits) (s : SyncEvents n) : SyncEvents n → Prop where
  | refl : Run limits s s
  | step {s₁ s₂ : SyncEvents n} {move : SyncMove n} (run : Run limits s s₁)
      (h : s₁.step limits move = .ok s₂) : Run limits s s₂

theorem Sound.run (hs : s.Sound) (h : Run limits s s') : s'.Sound := by
  induction h with
  | refl => exact hs
  | step _ h ih => exact ih.step h

theorem Run.settled (hs : s.Sound) (h : Run limits s s') (hc : s.calls k = some c) (hsettled : c.Settled) :
    s'.calls k = some c := by
  induction h with
  | refl => exact hc
  | @step s₁ s₂ move run h ih =>
    have hsound := (hs.run run).calls k c ih
    rcases step_changed h with ⟨hcalls, -⟩ | @⟨j, c₁, hnone, -, -, hcalls, -⟩ |
      @⟨j, c₁, c₂, hj, hgoes, hcalls, -⟩
    · rwa [hcalls]
    · rw [hcalls, Function.update_of_ne fun hkj => by rw [hkj, hnone] at ih; cases ih]
      exact ih
    · rw [hcalls, Function.update_of_ne fun hkj => ?_]
      · exact ih
      · subst hkj
        rw [hj] at ih
        cases ih
        exact hsettled.not_goes hsound hgoes

/-- A thread that came back with -1 before its wait was over had no message, or its handler has
returned just that; a `CreateAgent` that came back without an agent has none behind its back, other
than one with the id that it asked with or the invalid one. Each handler runs once at most. -/
theorem pushSyncEvent_failed (hs : Run limits {} s) (hs' : Run limits s s') (hc : s.calls k = some c) :
    s'.started.Nodup ∧ (c.caller ≠ .timeout →
      (c.returned = some (-1) → c.event = none ∧ k ∉ s'.started ∨ c.task = .returned (-1)) ∧
      ∀ contextId agentId msg created, c.event = some (.agentCreate contextId agentId msg) →
        c.createAgent = some created → created.ret = -1 ∨ created.agentId = invalidId →
        created.ret = 0 ∧ ∃ c', s'.calls k = some c' ∧
          (c'.created = none ∨ c'.created = some agentId ∨ c'.created = some invalidId)) := by
  have hsound := sound_init.run hs
  have hsound' := hsound.run hs'
  have hcall := hsound.calls k c hc
  have hsettled : ∀ ret, c.returned = some ret → c.caller ≠ .timeout → c.Settled := by
    intro ret hret hwait
    rw [SyncCall.returned] at hret
    rw [SyncCall.Settled]
    split at hret <;> simp_all
  refine ⟨hsound'.nodup, fun hwait => ⟨fun hret => ?_, ?_⟩⟩
  · have hsame := hs'.settled hsound hc (hsettled _ hret hwait)
    cases hcaller : c.caller with
    | noMessage =>
      refine .inl ⟨hcall.message hcaller, fun hmem => ?_⟩
      obtain ⟨c₁, hc₁, hstarted⟩ := (hsound'.started k).mp hmem
      rw [hsame] at hc₁
      cases hc₁
      exact hstarted.1 (hcall.made (.inl hcaller))
    | ready ret =>
      rw [SyncCall.returned, hcaller] at hret
      cases hret
      exact .inr (hcall.ready _ hcaller)
    | timeout => exact absurd hcaller hwait
    | _ => simp [SyncCall.returned, hcaller] at hret
  · intro contextId agentId msg created hevent hcreate hfailed
    have hanswer := hcall.agentCreate contextId agentId msg hevent
    rw [SyncCall.createAgent, hevent] at hcreate
    cases hret : c.returned with
    | none =>
      rw [hret] at hcreate
      cases hcreate
    | some ret =>
      have hsame := hs'.settled hsound hc (hsettled ret hret hwait)
      have hzero : ret = 0 ∧ (c.created = some msg.agentId ∨
          c.created = none ∧ (msg.agentId = agentId ∨ msg.agentId = invalidId)) := by
        cases hcaller : c.caller with
        | noMessage =>
          rw [hcall.message hcaller] at hevent
          cases hevent
        | noListener =>
          rw [hcall.made (.inr (.inl hcaller))] at hanswer
          rw [SyncCall.returned, hcaller] at hret
          cases hret
          exact ⟨rfl, .inr ⟨hanswer.1, .inl hanswer.2⟩⟩
        | ready ret' =>
          rw [hcall.ready ret' hcaller] at hanswer
          rw [SyncCall.returned, hcaller] at hret
          cases hret
          exact hanswer
        | timeout => exact absurd hcaller hwait
        | _ => simp [SyncCall.returned, hcaller] at hret
      obtain ⟨rfl, hcreated⟩ := hzero
      rw [hret] at hcreate
      cases hcreate
      refine ⟨rfl, c, hsame, ?_⟩
      rcases hcreated with hcreated | ⟨hcreated, -⟩
      · right
        have hinvalid := hfailed.resolve_left (show ¬ (0 : Int32) = -1 by decide)
        dsimp only at hinvalid
        split at hinvalid
        · rename_i hsame
          rcases hsame with rfl | hsame
          · exact .inl hcreated
          · exact .inr (hcreated.trans (congrArg some hsame))
        · exact .inr (hcreated.trans (congrArg some hinvalid))
      · exact .inl hcreated

theorem Run.trans {s₁ : SyncEvents n} (h : Run limits s s₁) (h' : Run limits s₁ s') : Run limits s s' := by
  induction h' with
  | refl => exact h
  | step _ hstep ih => exact ih.step hstep

/-- The run of a list of moves, and what is found at its end. -/
theorem Run.exists_of_any {moves : List (SyncMove n)} {P : SyncEvents n → Bool}
    (h : (moves.foldlM (SyncEvents.step limits) s).toOption.any P = true) :
    ∃ s', Run limits s s' ∧ P s' = true := by
  induction moves generalizing s with
  | nil => exact ⟨s, .refl, h⟩
  | cons move moves ih =>
    rw [List.foldlM_cons] at h
    cases hstep : s.step limits move with
    | error e =>
      rw [hstep] at h
      cases h
    | ok s₁ =>
      rw [hstep] at h
      obtain ⟨s', hrun, hP⟩ := ih h
      exact ⟨s', Run.trans (.step .refl hstep) hrun, hP⟩

/-- A request for a sink in a new context. -/
def requestSink : List (SyncMove 30) :=
  [.pushSyncEvent 0 (some (.createAgent 0 0 .sink true)) true, .pushTask 0]

/-- Its handler on the first thread, section by section. -/
def handleRequest : List (SyncMove 30) := .taskMainWorker 0 1 2 :: List.replicate 7 (.agentCreate 0)

/-- There is no room for the sink. -/
theorem pushSyncEvent_failed_noRoom : ∃ (s : SyncEvents 30) (c : SyncCall), s.calls 0 = some c ∧
    c.createAgent = some { ret := 0, contextId := 0, agentId := 0 } ∧
      (c.created = none ∨ c.created = some 0 ∨ c.created = some invalidId) := by
  have hany : ((requestSink ++ [SyncMove.taskMainWorker 0 1 2, .agentCreate 0, .ready 0]).foldlM
      (SyncEvents.step { maxSinkAgent := 0 }) {}).toOption.any (fun s : SyncEvents 30 => (s.calls 0).any fun c : SyncCall =>
        c.event = some (SharingEvent.agentCreate 0 0 ⟨0, 0, .sink, true⟩) ∧ c.caller ≠ SyncCaller.timeout ∧
          c.createAgent = some (AgentCreated.mk 0 0 0)) = true := by decide +kernel
  obtain ⟨s, hrun, hs⟩ := Run.exists_of_any hany
  obtain ⟨c, hc, h⟩ := (Option.any_eq_true _ _).mp hs
  obtain ⟨hevent, hwait, hcreate⟩ := of_decide_eq_true h
  obtain ⟨-, hfailed⟩ := pushSyncEvent_failed hrun .refl hc
  obtain ⟨-, c', hc', hcreated⟩ := (hfailed hwait).2 0 0 _ _ hevent hcreate (.inr rfl)
  rw [hc] at hc'
  cases hc'
  exact ⟨s, c, hc, hcreate, hcreated⟩

/-- The wait for an agent is over before a worker comes to the request, and then the agent is made. -/
theorem timeout_agent_created : ¬ ∀ (s s' : SyncEvents 30) (c : SyncCall), Run {} {} s → Run {} s s' →
    s.calls 0 = some c → c.returned = some (-1) →
      0 ∉ s'.started ∧ ∀ c', s'.calls 0 = some c' → c'.created = none := by
  intro h
  have hany : ((requestSink ++ [SyncMove.timeout 0]).foldlM (SyncEvents.step {}) {}).toOption.any (fun s : SyncEvents 30 =>
      (s.calls 0).any (fun c : SyncCall => c.returned = some (-1)) &&
      (handleRequest.foldlM (SyncEvents.step {}) s).toOption.any fun s' : SyncEvents 30 =>
        (s'.calls 0).any fun c' : SyncCall => c'.created = some 2) = true := by decide +kernel
  obtain ⟨s, hrun, hs⟩ := Run.exists_of_any hany
  obtain ⟨hcall, hlater⟩ := (Bool.and_eq_true _ _).mp hs
  obtain ⟨c, hc, hret⟩ := (Option.any_eq_true _ _).mp hcall
  obtain ⟨s', hrun', hs'⟩ := Run.exists_of_any hlater
  obtain ⟨c', hc', hcreated⟩ := (Option.any_eq_true _ _).mp hs'
  have hnone := (h s s' c hrun hrun' hc (of_decide_eq_true hret)).2 c' hc'
  have hsome : c'.created = some 2 := of_decide_eq_true hcreated
  rw [hsome] at hnone
  cases hnone

end SyncEvents

end WifiDisplay
