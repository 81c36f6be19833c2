import WifiDisplay.SinkPlayer

/-! What the calls of the sink player make: in which mutexes they run, which of them stand at the
head of a thread only, and which belong to a play thread. -/

namespace WifiDisplay

namespace SinkPlayer

open LockSystem

/-- The order in which a thread takes the mutexes; play threads are joined before `2`. -/
def Mutex.rank : Mutex → Nat
  | playAudioMutex => 0
  | playVideoMutex => 1
  | audioPlayerMutex => 3
  | stateMutex => 4
  | audioRenderMutex => 5
  | receiverMutex _ => 6
  | inMutex _ => 7

/-- The ranks of the mutexes are below it. -/
def top : List Mutex → Nat
  | [] => 0
  | m :: held => max (m.rank + 1) (top held)

theorem rank_lt_top {held : List Mutex} {m : Mutex} (hm : m ∈ held) : m.rank < top held := by
  induction held with
  | nil => cases hm
  | cons l held ih =>
    rw [top]
    rcases List.mem_cons.mp hm with rfl | hm
    · omega
    · have := ih hm
      omega

namespace Call

/-- No mutex of this rank or above is held when the call is made. -/
def bound : Call → Nat
  | start | stop | release | appendSurface _ _ | removeSurface _ => 0
  | startVideos => 1
  | startEach | stopAudio | stopEach | append _ _ | remove _ | audioStop | audioRelease
  | stopAudioThread | releaseAudio | resetAudio | videoStart _ | videoStop _
  | stopReading _ | notifyReadStop _ | notifyAll _ | stopThread _ | join _ => 2
  | startAudio | setVolume | playThread _ | process _ | onOutputBufferAvailable => 3
  | audioStart | audioStarted | onInterrupt => 4
  | playerStart | sinkStart | playerStop | playerRelease | playerVolume | processAudioData
  | interrupted => 5
  | prepare | requestRead _ => 6
  | decoderStop _ | processVideoData _ | decodeVideoData _ | onInputBufferAvailable _ => 7
  | _ => 8

/-- The calls that belong to the scope of `playVideoMutex_`. -/
def inVideoScope : Call → Bool
  | startEach | stopEach | append _ _ | remove _ | videoStart _ | videoStop _
  | startThread _ | stopReading (.video _) | notifyReadStop (.video _) | notifyAll (.video _)
  | stopThread (.video _) | join _ => true
  | _ => false

/-- Where no renderer is created, there is no audio to play. -/
def isSounding : Call → Bool
  | setParameters | setRendererCallback | rendererStart | startThread .audio | join .audio => true
  | _ => false

def Fits (held : List Mutex) : Call → Prop
  | lock _ | unlock _ | sleep _ => False
  | test r => ∃ held', held = .receiverMutex r :: held' ∧ top held' ≤ 6
  | awaitInput k => ∃ held', held = .inMutex k :: held' ∧ top held' ≤ 7
  | call => top held ≤ call.bound ∧ (call.inVideoScope → .playVideoMutex ∈ held) ∧ call.isSounding = false

/-- The calls that only ever stand at the head of a thread. -/
def isStage : Call → Bool
  | notifyReadStop _ | notifyAll _ | stopThread _ | join _ | sleep _ => true
  | _ => false

def isReading : Call → Bool
  | playThread _ | requestRead _ | test _ | take _ => true
  | _ => false

/-- A read that has not yet tested whether it has to wait. -/
def isPending : Call → Bool
  | requestRead _ | test _ => true
  | _ => false

/-- The calls between the lock operations of a path through the dispatcher. -/
def inDispatcher : Call → Bool
  | action | notifyReceivers | onDataNotify _ | notifyOne _ => true
  | _ => false

def isAction : Call → Bool
  | action => true
  | _ => false

/-- What may be left behind a call. -/
def before (call later : Call) : Bool :=
  !later.isStage && (!call.isReading || !later.isPending) && (call.inDispatcher || !later.isAction)

/-- The play thread whose call it is. -/
def reader : Call → Option Receiver
  | playThread r | requestRead r | readNotified r | test r | sleep r | woken r | take r | dataRead r
  | process r => some r
  | _ => none

/-- The calls of a play thread. -/
def isPlayers : Call → Bool
  | lock m => 3 ≤ m.rank
  | unlock _ | dispatch _ | action | playThread _ | requestRead _ | readNotified _ | test _ | sleep _
  | woken _ | take _ | dataRead _ | process _ | processAudioData | processVideoData _ | awaitInput _
  | decodeVideoData _ => true
  | _ => false

/-- The call for the head of a thread that the body of a call may begin with. -/
def stage : Call → Option Call
  | stopReading r => some (notifyReadStop r)
  | notifyReadStop r => some (notifyAll r)
  | notifyAll r => some (stopThread r)
  | stopThread r => some (join r)
  | stopAudioThread => some (join .audio)
  | test r => some (sleep r)
  | _ => none

/-- The calls whose bodies hold calls of the same play thread. -/
def isReaders : Call → Bool
  | playThread _ | requestRead _ | test _ => true
  | _ => false

/-- What may be in the body of a call. -/
def leads (call inner : Call) : Bool :=
  (!inner.isReading || call.isReading) && (inner.inDispatcher || !call.inDispatcher) &&
    (inner.reader.isNone || call.isReaders) && (!call.isPlayers || inner.isPlayers) &&
    (!inner.isStage || call.stage.isSome)

theorem before_of_leads {call inner later : Call} (h : call.leads inner) (hb : call.before later) :
    inner.before later := by
  simp only [leads, before, Bool.and_eq_true, Bool.or_eq_true, Bool.not_eq_true'] at h hb ⊢
  obtain ⟨⟨⟨⟨hreading, hdispatcher⟩, -⟩, -⟩, -⟩ := h
  obtain ⟨⟨hstage, hpending⟩, haction⟩ := hb
  refine ⟨⟨hstage, ?_⟩, ?_⟩
  · rcases hreading with h | h
    · exact .inl h
    · rw [h] at hpending
      exact .inr (hpending.resolve_left nofun)
  · rcases hdispatcher with h | h
    · exact .inl h
    · rw [h] at haction
      exact .inr (haction.resolve_left nofun)

def Belongs {ι : Type} (t : ThreadId ι) (call : Call) : Prop :=
  (∀ r ∈ call.reader, t = .player r) ∧ ∀ r, t = .player r → call.isPlayers

end Call

/-- What is left of a thread's calls takes the mutexes in order and gives them all back. -/
def Nested : List Mutex → List Call → Prop
  | held, [] => held = []
  | held, .lock m :: rest => top held ≤ m.rank ∧ Nested (m :: held) rest
  | held, .unlock m :: rest => ∃ held', held = m :: held' ∧ Nested held' rest
  | held, .sleep r :: rest => ∃ held', held = .receiverMutex r :: held' ∧ Nested held' rest
  | held, call :: rest => call.Fits held ∧ Nested held rest

variable {held : List Mutex} {calls rest : List Call} {call : Call}

theorem nested_cons (hf : call.Fits held) :
    Nested held (call :: rest) ↔ call.Fits held ∧ Nested held rest := by
  cases call <;> first | exact hf.elim | rfl

/-- The calls leave the mutexes as they were. -/
def Returns (held : List Mutex) (calls : List Call) : Prop :=
  ∀ rest, Nested held rest → Nested held (calls ++ rest)

theorem Returns.append {calls' : List Call} (h : Returns held calls) (h' : Returns held calls') :
    Returns held (calls ++ calls') := by
  intro rest hrest
  rw [List.append_assoc]
  exact h _ (h' _ hrest)

theorem Returns.of_fits (h : ∀ call ∈ calls, call.Fits held) : Returns held calls := by
  intro rest hrest
  induction calls with
  | nil => exact hrest
  | cons call calls ih =>
    have hf := h call List.mem_cons_self
    exact (nested_cons hf).mpr ⟨hf, ih fun c hc => h c (List.mem_cons_of_mem _ hc)⟩

theorem Returns.guarded {m : Mutex} (hm : top held ≤ m.rank) (h : Returns (m :: held) calls) :
    Returns held (guarded m calls) := by
  intro rest hrest
  refine ⟨hm, ?_⟩
  have hcalls := h (.unlock m :: rest) ⟨held, rfl, hrest⟩
  simpa using hcalls

theorem Returns.nil : Returns held [] := fun _ h => h

theorem Returns.cons (hf : call.Fits held) (h : Returns held calls) : Returns held (call :: calls) :=
  fun rest hrest => (nested_cons hf).mpr ⟨hf, h rest hrest⟩

theorem Returns.single (hf : call.Fits held) : Returns held [call] := .cons hf .nil

theorem Returns.ite {p : Prop} [Decidable p] (h : p → Returns held calls) :
    Returns held (if p then calls else []) := by
  split
  · exact h ‹p›
  · exact .nil

theorem Returns.cond {p : Prop} [Decidable p] {calls' : List Call} (h : p → Returns held calls)
    (h' : ¬ p → Returns held calls') : Returns held (if p then calls else calls') := by
  split
  · exact h ‹p›
  · exact h' ‹¬ p›

theorem Returns.cond_snd {σ : Type} {p : Prop} [Decidable p] {r r' : σ × List Call}
    (h : p → Returns held r.2) (h' : ¬ p → Returns held r'.2) : Returns held (if p then r else r').2 := by
  split
  · exact h ‹p›
  · exact h' ‹¬ p›

theorem top_le {a b : Nat} (h : top held ≤ a) (hab : Nat.ble a b = true) : top held ≤ b :=
  Nat.le_trans h (Nat.le_of_ble_eq_true hab)

theorem top_cons_le {a b : Nat} {m : Mutex} (h : top held ≤ a) (hab : Nat.ble a b = true)
    (hm : Nat.ble (m.rank + 1) b = true) : top (m :: held) ≤ b :=
  Nat.max_le.mpr ⟨Nat.le_of_ble_eq_true hm, top_le h hab⟩

namespace World

variable {ι : Type} {w : World ι}

/-- No renderer has been created. -/
structure Silent (w : World ι) : Prop where
  playerRunning : w.playerRunning = false
  playerStarts : w.playerStarts = false
  rendererCallback : w.rendererCallback = false
  running : (w.players .audio).running = false
  hasThread : (w.players .audio).hasThread = false

variable [DecidableEq ι] {t : ThreadId ι} {answer : Answer}

theorem returns_startEach (hf : Call.startEach.Fits held) : Returns held (w.body t answer .startEach).2 := by
  refine .of_fits fun call hcall => ?_
  obtain ⟨surface, -, hcall⟩ := List.mem_flatMap.mp hcall
  rcases List.mem_cons.mp hcall with rfl | hcall
  · exact hf
  · obtain rfl := List.mem_singleton.mp hcall
    exact ⟨Nat.le_trans hf.1 (by decide), nofun, rfl⟩

theorem returns_stopEach (hf : Call.stopEach.Fits held) : Returns held (w.body t answer .stopEach).2 := by
  refine .ite fun _ => .of_fits fun call hcall => ?_
  obtain ⟨surface, -, rfl⟩ := List.mem_map.mp hcall
  exact hf

theorem returns_releaseEach (hf : Call.releaseEach.Fits held) : Returns held (w.body t answer .releaseEach).2 := by
  have h8 : top held ≤ 8 := hf.1
  refine .of_fits fun call hcall => ?_
  rcases List.mem_append.mp hcall with hcall | hcall
  · obtain ⟨surface, -, rfl⟩ := List.mem_map.mp hcall
    exact ⟨h8, nofun, rfl⟩
  · obtain rfl := List.mem_singleton.mp hcall
    exact ⟨h8, nofun, rfl⟩

theorem returns_dispatch {op : Operation} (hf : (Call.dispatch op).Fits held) :
    Returns held (w.body t answer (.dispatch op)).2 := by
  have h8 : top held ≤ 8 := hf.1
  cases answer with
  | path path =>
    refine .of_fits fun call hcall => ?_
    obtain rfl := List.eq_of_mem_replicate hcall
    exact ⟨h8, nofun, rfl⟩
  | _ => exact .nil

theorem returns_notifyReceivers (hf : Call.notifyReceivers.Fits held) :
    Returns held (w.body t answer .notifyReceivers).2 := by
  have h8 : top held ≤ 8 := hf.1
  cases answer with
  | receivers rs =>
    refine .of_fits fun call hcall => ?_
    obtain ⟨r, -, rfl⟩ := List.mem_map.mp hcall
    exact ⟨h8, nofun, rfl⟩
  | _ => exact .nil

theorem returns_test {r : Receiver} (hf : (Call.test r).Fits held) : Returns held (w.body t answer (.test r)).2 := by
  obtain ⟨held', rfl, hheld⟩ := hf
  refine .cond (fun _ => .nil) fun _ rest hrest => ?_
  exact ⟨held', rfl, ⟨top_le hheld rfl, nofun, rfl⟩, hheld, ⟨held', rfl, hheld⟩, hrest⟩

theorem returns_awaitInput {k : Nat} (hf : (Call.awaitInput k).Fits held) :
    Returns held (w.body t answer (.awaitInput k)).2 := by
  obtain ⟨held', rfl, hheld⟩ := hf
  cases answer with
  | succeeds => exact .nil
  | _ => exact .ite fun _ rest hrest => ⟨held', rfl, hheld, ⟨held', rfl, hheld⟩, hrest⟩

theorem returns_start (hf : Call.start.Fits held) : Returns held (w.body t answer .start).2 := by
  have haudio : Call.startAudio.Fits (.playAudioMutex :: held) :=
    ⟨top_cons_le hf.1 rfl rfl, nofun, rfl⟩
  exact .ite fun _ => (Returns.guarded hf.1 (.single haudio)).append
    (.single ⟨top_le hf.1 rfl, nofun, rfl⟩)

theorem returns_stop (hf : Call.stop.Fits held) : Returns held (w.body t answer .stop).2 := by
  have haudio : (Call.stopAudio).Fits (.playAudioMutex :: held) :=
    ⟨top_cons_le hf.1 rfl rfl, nofun, rfl⟩
  have heach : (Call.stopEach).Fits (.playVideoMutex :: held) :=
    ⟨top_cons_le hf.1 rfl rfl, fun _ => List.mem_cons_self, rfl⟩
  exact .ite fun _ => ((Returns.guarded hf.1 (.single haudio)).append
    (.guarded (top_le hf.1 rfl) (.single heach))).append (.single ⟨top_le hf.1 rfl, nofun, rfl⟩)

theorem returns_startAudio (hf : Call.startAudio.Fits held) : Returns held (w.body t answer .startAudio).2 := by
  have hstart : Call.audioStart.Fits (.audioPlayerMutex :: held) :=
    ⟨top_cons_le hf.1 rfl rfl, nofun, rfl⟩
  exact .ite fun _ => (Returns.guarded hf.1 (.single hstart)).append
    (.single ⟨top_le hf.1 rfl, nofun, rfl⟩)

theorem returns_startVideos (hf : Call.startVideos.Fits held) : Returns held (w.body t answer .startVideos).2 := by
  have heach : Call.startEach.Fits (.playVideoMutex :: held) :=
    ⟨top_cons_le hf.1 rfl rfl, fun _ => List.mem_cons_self, rfl⟩
  exact .cond (fun _ => .nil) fun _ => .guarded (top_le hf.1 rfl) (.single heach)

theorem returns_append {surface : BitVec 64} {keyFrame : Bool} (hf : (Call.append surface keyFrame).Fits held) :
    Returns held (w.body t answer (.append surface keyFrame)).2 := by
  refine .cond_snd (fun _ => .nil) fun _ => ?_
  cases answer with
  | succeeds => exact .ite fun _ => .single ⟨hf.1, hf.2.1, rfl⟩
  | _ => exact .nil

theorem returns_remove {surface : BitVec 64} (hf : (Call.remove surface).Fits held) :
    Returns held (w.body t answer (.remove surface)).2 := by
  show Returns held (w.remove surface answer)
  rw [World.remove]
  split
  · exact .nil
  · have hrest : ∀ k, Returns held [.videoRelease k, .eraseSurface surface] :=
      fun k => .cons ⟨top_le hf.1 rfl, nofun, rfl⟩ (.single ⟨top_le hf.1 rfl, nofun, rfl⟩)
    split
    · exact hrest _
    · exact .cons ⟨hf.1, hf.2.1, rfl⟩ (hrest _)

theorem returns_audioStart (hf : Call.audioStart.Fits held) : Returns held (w.body t answer .audioStart).2 := by
  refine .cond_snd (fun _ => .nil) fun _ => .cond_snd (fun _ => .nil) fun _ => ?_
  exact .cons ⟨top_le hf.1 rfl, nofun, rfl⟩ (.single ⟨hf.1, nofun, rfl⟩)

theorem returns_playerStart (hf : Call.playerStart.Fits held) : Returns held (w.body t answer .playerStart).2 := by
  have hprep : Call.prepare.Fits (.audioRenderMutex :: held) :=
    ⟨top_cons_le hf.1 rfl rfl, nofun, rfl⟩
  exact .cond_snd (fun _ => .nil) fun _ =>
    (Returns.guarded hf.1 (.single hprep)).append (.single ⟨hf.1, nofun, rfl⟩)

theorem returns_prepare (hanswer : answer ≠ .succeeds) : Returns held (w.body t answer .prepare).2 := by
  cases answer with
  | succeeds => exact absurd rfl hanswer
  | _ => exact .nil

theorem returns_audioStop (hf : Call.audioStop.Fits held) : Returns held (w.body t answer .audioStop).2 :=
  .cons ⟨top_le hf.1 rfl, nofun, rfl⟩ (.cons ⟨top_le hf.1 rfl, nofun, rfl⟩
    (.cons ⟨hf.1, nofun, rfl⟩ (.guarded (top_le hf.1 rfl)
      (.single ⟨top_cons_le hf.1 rfl rfl, nofun, rfl⟩))))

theorem returns_playerStop (hf : Call.playerStop.Fits held) : Returns held (w.body t answer .playerStop).2 :=
  .cond_snd (fun _ => .guarded hf.1 .nil) fun _ => .nil

theorem returns_playerRelease (hf : Call.playerRelease.Fits held) :
    Returns held (w.body t answer .playerRelease).2 := by
  have hscope : Returns held (SinkPlayer.guarded .audioRenderMutex []) := .guarded hf.1 .nil
  have hrelease : Call.sinkRelease.Fits (.audioRenderMutex :: held) :=
    ⟨top_cons_le hf.1 rfl rfl, nofun, rfl⟩
  exact .cond_snd (fun _ => ((Returns.guarded hf.1 (.single hrelease)).append hscope).append hscope)
    fun _ => .nil

theorem returns_videoStart {k : Nat} (hf : (Call.videoStart k).Fits held) :
    Returns held (w.body t answer (.videoStart k)).2 := by
  refine .cond_snd (fun _ => .nil) fun _ => .cond_snd (fun _ => ?_) fun _ => .nil
  exact .cons ⟨top_le hf.1 rfl, nofun, rfl⟩ (.cons ⟨top_le hf.1 rfl, nofun, rfl⟩
    (.cons ⟨top_le hf.1 rfl, nofun, rfl⟩ (.single ⟨top_le hf.1 rfl, hf.2.1, rfl⟩)))

theorem returns_decoderStop {k : Nat} (hf : (Call.decoderStop k).Fits held) :
    Returns held (w.body t answer (.decoderStop k)).2 :=
  .cond_snd (fun _ => .guarded hf.1 .nil) fun _ => .nil

theorem returns_attached {r : Receiver} : Returns held (w.body t answer (.attached r)).2 :=
  .cond_snd (fun _ => .nil) fun _ => .cond_snd (fun _ => .nil) fun _ => .nil

theorem returns_stopThread {r : Receiver} (hw : Silent w) (hf : (Call.stopThread r).Fits held) :
    Returns held (w.body t answer (.stopThread r)).2 := by
  cases r with
  | audio => exact .ite fun hthread => absurd (hw.hasThread.symm.trans hthread) Bool.false_ne_true
  | video k => exact .ite fun _ => .single ⟨hf.1, hf.2.1, rfl⟩

theorem returns_requestRead {r : Receiver} (hf : (Call.requestRead r).Fits held) :
    Returns held (w.body t answer (.requestRead r)).2 := by
  have h8 : top held ≤ 8 := top_le hf.1 rfl
  have hin : top (.receiverMutex r :: held) ≤ 8 := top_cons_le hf.1 rfl rfl
  refine .cond_snd (fun _ => Returns.append ?_ (.guarded hf.1 ?_)) fun _ => .nil
  · exact .ite fun _ => .cons ⟨h8, nofun, rfl⟩ (.single ⟨h8, nofun, rfl⟩)
  · exact .cons ⟨held, rfl, hf.1⟩ (.of_fits fun call hcall => by
      simp only [List.mem_cons, List.not_mem_nil, or_false] at hcall
      rcases hcall with rfl | rfl | rfl | rfl | rfl | rfl <;> exact ⟨hin, nofun, rfl⟩)

theorem returns_process {r : Receiver} (hf : (Call.process r).Fits held) :
    Returns held (w.body t answer (.process r)).2 := by
  have hvideo : ∀ k, Returns held [.processVideoData k] :=
    fun k => .single ⟨top_le hf.1 rfl, nofun, rfl⟩
  refine .ite fun _ => ?_
  split
  · exact .guarded hf.1 (.single ⟨top_cons_le hf.1 rfl rfl, nofun, rfl⟩)
  · exact .ite fun _ => ((Returns.ite fun _ => hvideo _).append (.ite fun _ => hvideo _)).append
      (hvideo _)
  · exact .ite fun _ => hvideo _

/-- Every call takes and gives back the mutexes in order. -/
theorem returns_body (hw : Silent w) (hf : call.Fits held)
    (hprepare : call = .prepare → answer ≠ .succeeds) : Returns held (w.body t answer call).2 := by
  cases call with
  | lock | unlock | sleep => exact hf.elim
  | startEach => exact returns_startEach hf
  | stopEach => exact returns_stopEach hf
  | releaseEach => exact returns_releaseEach hf
  | dispatch _ => exact returns_dispatch hf
  | notifyReceivers => exact returns_notifyReceivers hf
  | test _ => exact returns_test hf
  | awaitInput _ => exact returns_awaitInput hf
  | start => exact returns_start hf
  | stop => exact returns_stop hf
  | release =>
    exact .cons ⟨top_le hf.1 rfl, nofun, rfl⟩
      (.guarded (top_le hf.1 rfl) (.single ⟨top_cons_le hf.1 rfl rfl, nofun, rfl⟩))
  | appendSurface | removeSurface =>
    exact .guarded (top_le hf.1 rfl)
      (.single ⟨top_cons_le hf.1 rfl rfl, fun _ => List.mem_cons_self, rfl⟩)
  | setVolume => exact .ite fun _ => .guarded hf.1 (.single ⟨top_cons_le hf.1 rfl rfl, nofun, rfl⟩)
  | startAudio => exact returns_startAudio hf
  | startVideos => exact returns_startVideos hf
  | stopAudio => exact .ite fun _ => .single ⟨top_le hf.1 rfl, nofun, rfl⟩
  | releaseAudio =>
    exact .ite fun _ => .cons ⟨top_le hf.1 rfl, nofun, rfl⟩ (.single ⟨top_le hf.1 rfl, nofun, rfl⟩)
  | resetAudio => exact .ite fun _ => .single ⟨top_le hf.1 rfl, nofun, rfl⟩
  | append _ _ => exact returns_append hf
  | remove _ => exact returns_remove hf
  | audioStart => exact returns_audioStart hf
  | playerStart => exact returns_playerStart hf
  | prepare => exact returns_prepare (hprepare rfl)
  | sinkStart => exact .ite fun hstarts => absurd (hw.playerStarts.symm.trans hstarts) Bool.false_ne_true
  | audioStarted =>
    exact .cond_snd (fun hstarts => absurd (hw.playerStarts.symm.trans hstarts) Bool.false_ne_true) fun _ => .nil
  | audioStop => exact returns_audioStop hf
  | playerStop => exact returns_playerStop hf
  | audioRelease =>
    exact .cons ⟨hf.1, nofun, rfl⟩ (.guarded (top_le hf.1 rfl)
      (.single ⟨top_cons_le hf.1 rfl rfl, nofun, rfl⟩))
  | stopAudioThread => exact .ite fun hthread => absurd (hw.hasThread.symm.trans hthread) Bool.false_ne_true
  | playerRelease => exact returns_playerRelease hf
  | playerVolume | processAudioData | interrupted => exact .ite fun _ => .guarded hf.1 .nil
  | videoStart _ => exact returns_videoStart hf
  | setKeyMode k => exact .ite fun _ => .single ⟨hf.1, nofun, rfl⟩
  | videoStop k =>
    exact .cons ⟨top_le hf.1 rfl, nofun, rfl⟩ (.cons ⟨top_le hf.1 rfl, nofun, rfl⟩
      (.ite fun _ => .cons ⟨top_le hf.1 rfl, nofun, rfl⟩ (.single ⟨hf.1, hf.2.1, rfl⟩)))
  | decoderStop _ => exact returns_decoderStop hf
  | attached _ => exact returns_attached
  | stopReading r | notifyReadStop r | notifyAll r =>
    cases r with
    | audio => exact .single ⟨hf.1, nofun, rfl⟩
    | video k => exact .single ⟨hf.1, hf.2.1, rfl⟩
  | stopThread _ => exact returns_stopThread hw hf
  | playThread r =>
    exact .ite fun _ => .cons ⟨top_le hf.1 rfl, nofun, rfl⟩ (.cons ⟨hf.1, nofun, rfl⟩
      (.single ⟨hf.1, nofun, rfl⟩))
  | requestRead _ => exact returns_requestRead hf
  | process _ => exact returns_process hf
  | processVideoData k =>
    have hawait : (Call.awaitInput k).Fits (.inMutex k :: held) := ⟨held, rfl, hf.1⟩
    exact (Returns.guarded hf.1 (.single hawait)).append (.single ⟨hf.1, nofun, rfl⟩)
  | decodeVideoData k =>
    have hscope : Returns held (SinkPlayer.guarded (.inMutex k) []) := .guarded hf.1 .nil
    exact .ite fun _ => hscope.append (.ite fun _ => hscope)
  | onInputBufferAvailable k => exact .guarded hf.1 .nil
  | onOutputBufferAvailable =>
    have hscope : Returns held (SinkPlayer.guarded .audioPlayerMutex []) := .guarded hf.1 .nil
    exact hscope.append (.ite fun _ => hscope)
  | onInterrupt => exact .guarded hf.1 (.single ⟨top_cons_le hf.1 rfl rfl, nofun, rfl⟩)
  | notifyThreadWorker =>
    exact .cons ⟨hf.1, nofun, rfl⟩ (.cons ⟨hf.1, nofun, rfl⟩ (.single ⟨hf.1, nofun, rfl⟩))
  | onDataNotify r => exact .single ⟨hf.1, nofun, rfl⟩
  | setParameters | setRendererCallback => exact absurd hf.2.2 nofun
  | _ => exact .nil

end World

/-- The calls may be a body of the call. -/
def isBody (call : Call) : List Call → Bool
  | [] => true
  | c :: calls => call.leads c && calls.all c.before && isBody call calls

theorem leads_of_isBody (h : isBody call calls) : ∀ c ∈ calls, call.leads c := by
  induction calls with
  | nil => exact nofun
  | cons c calls ih =>
    simp only [isBody, Bool.and_eq_true] at h
    intro d hd
    rcases List.mem_cons.mp hd with rfl | hd
    · exact h.1.1
    · exact ih h.2 d hd

theorem pairwise_of_isBody (h : isBody call calls) : calls.Pairwise fun c d => c.before d := by
  induction calls with
  | nil => exact .nil
  | cons c calls ih =>
    simp only [isBody, Bool.and_eq_true, List.all_eq_true] at h
    exact .cons h.1.2 (ih h.2)

/-- A body of calls that may all stand behind each other. -/
theorem isBody_of_forall (p : Call → Prop) (hp : ∀ c, p c → call.leads c)
    (hbefore : ∀ c d, p c → p d → c.before d) (h : ∀ c ∈ calls, p c) : isBody call calls := by
  induction calls with
  | nil => rfl
  | cons c calls ih =>
    have hc := h c List.mem_cons_self
    have hcalls : ∀ d ∈ calls, p d := fun d hd => h d (List.mem_cons_of_mem _ hd)
    simp only [isBody, Bool.and_eq_true, List.all_eq_true]
    exact ⟨⟨hp c hc, fun d hd => hbefore c d hc (hcalls d hd)⟩, ih hcalls⟩

theorem World.isBody_body {ι : Type} [DecidableEq ι] (w : World ι) (t : ThreadId ι) (answer : Answer)
    (call : Call) : isBody call (w.body t answer call).2 := by
  cases call with
  | startEach =>
    refine isBody_of_forall (fun c => (∃ k, c = .videoStart k) ∨ c = .videoPlaying) ?_ ?_ ?_
    · rintro c (⟨k, rfl⟩ | rfl) <;> rfl
    · rintro c d (⟨k, rfl⟩ | rfl) (⟨l, rfl⟩ | rfl) <;> rfl
    · intro c hc
      obtain ⟨surface, -, hc⟩ := List.mem_flatMap.mp hc
      rcases List.mem_cons.mp hc with rfl | hc
      · exact .inl ⟨_, rfl⟩
      · exact .inr (List.mem_singleton.mp hc)
  | stopEach =>
    simp only [World.body]
    split
    · refine isBody_of_forall (fun c => ∃ k, c = .videoStop k) ?_ ?_ ?_
      · rintro c ⟨k, rfl⟩
        rfl
      · rintro c d ⟨k, rfl⟩ ⟨l, rfl⟩
        rfl
      · intro c hc
        obtain ⟨surface, -, rfl⟩ := List.mem_map.mp hc
        exact ⟨_, rfl⟩
    · rfl
  | releaseEach =>
    refine isBody_of_forall (fun c => (∃ k, c = .videoRelease k) ∨ c = .clearSurfaces) ?_ ?_ ?_
    · rintro c (⟨k, rfl⟩ | rfl) <;> rfl
    · rintro c d (⟨k, rfl⟩ | rfl) (⟨l, rfl⟩ | rfl) <;> rfl
    · intro c hc
      rcases List.mem_append.mp hc with hc | hc
      · obtain ⟨surface, -, rfl⟩ := List.mem_map.mp hc
        exact .inl ⟨_, rfl⟩
      · exact .inr (List.mem_singleton.mp hc)
  | dispatch op =>
    simp only [World.body]
    split
    · refine isBody_of_forall (fun c => c = .action) ?_ ?_ ?_
      · rintro c rfl
        rfl
      · rintro c d rfl rfl
        rfl
      · exact fun c hc => List.eq_of_mem_replicate hc
    · rfl
  | notifyReceivers =>
    simp only [World.body]
    split
    · refine isBody_of_forall (fun c => ∃ r, c = .onDataNotify r) ?_ ?_ ?_
      · rintro c ⟨r, rfl⟩
        rfl
      · rintro c d ⟨r, rfl⟩ ⟨r', rfl⟩
        rfl
      · intro c hc
        obtain ⟨r, -, rfl⟩ := List.mem_map.mp hc
        exact ⟨r, rfl⟩
    · rfl
  | _ =>
    simp only [World.body, World.append, World.remove, World.videoStart, World.playerStart,
      World.prepare, World.requestRead, World.process, World.awaitInput]
    repeat' split
    all_goals rfl

namespace World

variable {ι : Type} [DecidableEq ι] {w : World ι} {t : ThreadId ι} {answer : Answer}

theorem leads_body {c : Call} (hc : c ∈ (w.body t answer call).2) : call.leads c :=
  leads_of_isBody (w.isBody_body t answer call) c hc

theorem stage_body {c : Call} (h : (w.body t answer call).2.head? = some c) (hc : c.isStage) :
    call.stage = some c := by
  have hleads := leads_body (List.mem_of_mem_head? h)
  simp only [Call.leads, hc, Bool.and_eq_true, Bool.not_true, Bool.false_or] at hleads
  cases call with
  | stopReading r | notifyReadStop r | notifyAll r => exact h
  | stopAudioThread | stopThread r | test r =>
    simp only [World.body] at h
    split at h
    all_goals first
      | exact h
      | cases h
  | _ => exact absurd hleads.2 nofun

theorem belongs_body (h : call.Belongs t) : ∀ c ∈ (w.body t answer call).2, c.Belongs t := by
  intro c hc
  have hleads := leads_body hc
  simp only [Call.leads, Bool.and_eq_true, Bool.or_eq_true, Bool.not_eq_true', Option.isNone_iff_eq_none]
    at hleads
  obtain ⟨⟨⟨-, hreader⟩, hplayers⟩, -⟩ := hleads
  refine ⟨fun r hr => ?_, fun r ht => hplayers.resolve_left ?_⟩
  · rcases hreader with hnone | hreaders
    · rw [hnone] at hr
      cases hr
    · -- the calls of a read are those of the thread that reads
      have hsame : c.reader = call.reader ∨ c.reader = none := by
        cases call with
        | playThread r' =>
          simp only [World.body] at hc
          split at hc
          · simp only [List.mem_cons, List.not_mem_nil, or_false] at hc
            rcases hc with rfl | rfl | rfl <;> exact .inl rfl
          · cases hc
        | requestRead r' =>
          simp only [World.body, World.requestRead, guarded] at hc
          split at hc
          · simp only [List.mem_append, List.mem_cons, List.not_mem_nil, or_false, List.cons_append,
              List.nil_append] at hc
            rcases hc with hc | hc
            · split at hc
              · simp only [List.mem_cons, List.not_mem_nil, or_false] at hc
                rcases hc with rfl | rfl
                · exact .inr rfl
                · exact .inl rfl
              · cases hc
            · rcases hc with rfl | rfl | rfl | rfl | rfl | rfl | rfl | rfl | rfl <;>
                first | exact .inl rfl | exact .inr rfl
          · cases hc
        | test r' =>
          simp only [World.body] at hc
          split at hc
          · cases hc
          · simp only [List.mem_cons, List.not_mem_nil, or_false] at hc
            rcases hc with rfl | rfl | rfl | rfl <;> first | exact .inl rfl | exact .inr rfl
        | _ => exact absurd hreaders nofun
      rcases hsame with hsame | hsame
      · exact h.1 r (hsame ▸ hr)
      · rw [hsame] at hr
        cases hr
  · rw [h.2 r ht]
    decide

/-- What a body may do to the players. -/
structure Frame (w : World ι) (call : Call) (w' : World ι) : Prop where
  running : ∀ k, (w'.players (.video k)).running → (w.players (.video k)).running ∨ call = .videoStart k
  nonBlock : ∀ r, (w'.players r).nonBlock = false → (w.players r).nonBlock = false ∨ call = .take r
  waiting : ∀ r, (w'.players r).waiting → (w.players r).waiting ∨ call = .sleep r
  hasThread : ∀ r, (w'.players r).hasThread = false → (w.players r).hasThread = false ∨ call = .join r

omit [DecidableEq ι] in
theorem Frame.of_players {w' : World ι} (h : w'.players = w.players) : Frame w call w' := by
  constructor <;> rw [h]
  all_goals exact fun _ => .inl

omit [DecidableEq ι] in
theorem Frame.of_update {w' : World ι} {r : Receiver} {player : Player}
    (h : w'.players = Function.update w.players r player)
    (hrunning : player.running → (w.players r).running ∨ r = .audio ∨ ∀ k, r = .video k → call = .videoStart k)
    (hnonBlock : player.nonBlock = false → (w.players r).nonBlock = false ∨ call = .take r)
    (hwaiting : player.waiting → (w.players r).waiting ∨ call = .sleep r)
    (hthread : player.hasThread = false → (w.players r).hasThread = false ∨ call = .join r) :
    Frame w call w' where
  running k hk := by
    rw [h] at hk
    by_cases hr : .video k = r
    · subst hr
      rw [Function.update_self] at hk
      rcases hrunning hk with h | h | h
      · exact .inl h
      · cases h
      · exact .inr (h k rfl)
    · rw [Function.update_of_ne hr] at hk
      exact .inl hk
  nonBlock r' hr' := by
    rw [h] at hr'
    by_cases hr : r' = r
    · subst hr
      rw [Function.update_self] at hr'
      exact hnonBlock hr'
    · rw [Function.update_of_ne hr] at hr'
      exact .inl hr'
  waiting r' hr' := by
    rw [h] at hr'
    by_cases hr : r' = r
    · subst hr
      rw [Function.update_self] at hr'
      exact hwaiting hr'
    · rw [Function.update_of_ne hr] at hr'
      exact .inl hr'
  hasThread r' hr' := by
    rw [h] at hr'
    by_cases hr : r' = r
    · subst hr
      rw [Function.update_self] at hr'
      exact hthread hr'
    · rw [Function.update_of_ne hr] at hr'
      exact .inl hr'

theorem frame_body (hstart : ∀ r, call ≠ .startThread r) : Frame w call (w.body t answer call).1 := by
  cases call with
  | startThread r => exact absurd rfl (hstart r)
  | take r | join r | detached r | notifyReadStop r | notifyAll r | onDataNotify r | notifyOne r
  | readNotified r | dataRead r | stopReading r | audioRelease =>
    refine .of_update rfl ?_ ?_ ?_ ?_
    all_goals first
      | exact .inl
      | exact fun _ => .inr rfl
      | exact nofun
  | videoStart k =>
    simp only [World.body, World.videoStart]
    split
    · exact .of_players rfl
    · split
      · exact .of_update rfl (fun _ => .inr (.inr fun l hl => by cases hl; rfl)) .inl .inl .inl
      · exact .of_players rfl
  | requestRead r =>
    simp only [World.body, World.requestRead]
    split
    · exact .of_players rfl
    · exact .of_update rfl .inl .inl .inl .inl
  | audioStarted =>
    simp only [World.body]
    split
    · exact .of_update rfl (fun _ => .inr (.inl rfl)) .inl .inl .inl
    · exact .of_players rfl
  | attached r =>
    simp only [World.body]
    split
    · exact .of_players rfl
    · split <;> exact .of_update rfl .inl .inl .inl .inl
  | _ =>
    simp only [World.body, World.append, World.playerStart, World.prepare]
    repeat' split
    all_goals exact .of_players rfl

omit [DecidableEq ι] in
theorem Silent.setPlayer (hw : Silent w) {r : Receiver} {player : Player}
    (hrunning : r = .audio → player.running = false)
    (hthread : r = .audio → player.hasThread = false) : Silent (w.setPlayer r player) where
  playerRunning := hw.playerRunning
  playerStarts := hw.playerStarts
  rendererCallback := hw.rendererCallback
  running := by
    by_cases hr : .audio = r
    · subst hr
      simpa only [World.setPlayer, Function.update_self] using hrunning rfl
    · simpa only [World.setPlayer, Function.update_of_ne hr] using hw.running
  hasThread := by
    by_cases hr : .audio = r
    · subst hr
      simpa only [World.setPlayer, Function.update_self] using hthread rfl
    · simpa only [World.setPlayer, Function.update_of_ne hr] using hw.hasThread

/-- A thread that creates no renderer leaves the player silent. -/
theorem silent_body (hw : Silent w) (hf : call.Fits held)
    (hprepare : call = .prepare → answer ≠ .succeeds) : Silent (w.body t answer call).1 := by
  cases call with
  | setParameters | setRendererCallback | rendererStart => exact absurd hf.2.2 nofun
  | audioStart =>
    simp only [World.body, hw.running, Bool.false_eq_true, if_false]
    split
    · exact ⟨hw.playerRunning, rfl, hw.rendererCallback, hw.running, hw.hasThread⟩
    · exact hw
  | playerStart =>
    simp only [World.body, World.playerStart, hw.playerRunning, Bool.false_eq_true, if_false]
    exact hw
  | prepare =>
    simp only [World.body, World.prepare]
    split
    · exact absurd rfl (hprepare rfl)
    · exact ⟨hw.playerRunning, rfl, hw.rendererCallback, hw.running, hw.hasThread⟩
  | playerStarted =>
    simp only [World.body, hw.playerRunning, hw.playerStarts, Bool.or_false]
    exact ⟨rfl, rfl, hw.rendererCallback, hw.running, hw.hasThread⟩
  | audioStarted =>
    simp only [World.body, hw.playerStarts, Bool.false_eq_true, if_false]
    exact hw
  | playerStop =>
    simp only [World.body]
    split
    · exact ⟨rfl, hw.playerStarts, hw.rendererCallback, hw.running, hw.hasThread⟩
    · exact hw
  | audioRelease => exact hw.setPlayer (fun _ => rfl) fun _ => hw.hasThread
  | videoStart k =>
    simp only [World.body, World.videoStart]
    split
    · exact ⟨hw.playerRunning, hw.playerStarts, hw.rendererCallback, hw.running, hw.hasThread⟩
    · split
      · have hset : Silent (w.setPlayer (.video k) { w.players (.video k) with running := true }) :=
          hw.setPlayer nofun nofun
        exact ⟨hset.playerRunning, hset.playerStarts, hset.rendererCallback, hset.running, hset.hasThread⟩
      · exact ⟨hw.playerRunning, hw.playerStarts, hw.rendererCallback, hw.running, hw.hasThread⟩
  | startThread r =>
    cases r with
    | audio => exact absurd hf.2.2 nofun
    | video k =>
      simp only [World.body, World.startThread]
      split
      · exact hw
      · have hset : Silent (w.setPlayer (.video k) { w.players (.video k) with hasThread := true }) :=
          hw.setPlayer nofun nofun
        exact ⟨hset.playerRunning, hset.playerStarts, hset.rendererCallback, hset.running, hset.hasThread⟩
  | stopReading r => exact hw.setPlayer (fun _ => rfl) fun h => by rw [h]; exact hw.hasThread
  | join r => exact hw.setPlayer (fun h => by rw [h]; exact hw.running) fun _ => rfl
  | requestRead r =>
    simp only [World.body, World.requestRead]
    split
    · exact hw
    · exact hw.setPlayer (fun h => by rw [h]; exact hw.running) fun h => by rw [h]; exact hw.hasThread
  | attached r =>
    simp only [World.body]
    split
    · exact hw
    · split
      all_goals
        exact hw.setPlayer (fun h => by rw [h]; exact hw.running) fun h => by rw [h]; exact hw.hasThread
  | detached r | notifyReadStop r | notifyAll r | readNotified r | take r | dataRead r | onDataNotify r
  | notifyOne r =>
    exact hw.setPlayer (fun h => by rw [h]; exact hw.running) fun h => by rw [h]; exact hw.hasThread
  | _ =>
    simp only [World.body, World.append]
    repeat' split
    all_goals exact ⟨hw.playerRunning, hw.playerStarts, hw.rendererCallback, hw.running, hw.hasThread⟩

end World

end SinkPlayer

end WifiDisplay
