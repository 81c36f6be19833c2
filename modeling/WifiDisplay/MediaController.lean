import WifiDisplay.OrderedMap
import WifiDisplay.GuardedRuns

/-! `MediaController` with its audio and video play controllers, whose decoders start and stop
whenever they are told to. -/

namespace WifiDisplay

structure AudioPlayController where
  hasAudioPlayer : Bool := true
  isAudioRunning : Bool := false
  deriving DecidableEq, Repr

structure VideoPlayController where
  enableSurface : Bool := false
  hasDecoder : Bool := false
  isVideoRunning : Bool := false
  deriving DecidableEq, Repr

namespace AudioPlayController

variable (c : AudioPlayController)

def start : Bool × AudioPlayController :=
  if ¬ c.hasAudioPlayer then (false, c)
  else if c.isAudioRunning then (true, c)
  else (true, { c with isAudioRunning := true })

def stop : AudioPlayController := { c with isAudioRunning := false }

end AudioPlayController

namespace VideoPlayController

variable (c : VideoPlayController)

def start : Bool × VideoPlayController :=
  if c.isVideoRunning then (true, c)
  else if c.enableSurface ∧ c.hasDecoder then (true, { c with isVideoRunning := true })
  else (false, c)

def stop : VideoPlayController :=
  if c.isVideoRunning ∧ c.hasDecoder then { c with isVideoRunning := false } else c

/-- `Init` and `SetSurface`; `opens` says that the decoder takes the format and the surface. -/
def openSurface (opens : Bool) : Bool × VideoPlayController :=
  if opens then (true, { c with hasDecoder := true, enableSurface := true })
  else (false, { c with hasDecoder := true })

end VideoPlayController

/-- `hasVideoTrack` says that the video track has a codec. A surface stands for its unique id. -/
structure MediaController where
  isPlaying : Bool := false
  audioPlayController : Option AudioPlayController := none
  videoPlayerMap : OrderedMap Nat VideoPlayController := OrderedMap.empty
  hasVideoTrack : Bool := false

namespace MediaController

variable (m : MediaController)

/-- A controller after its `Init`, if there is something to play. -/
def create (hasAudioTrack hasVideoTrack : Bool) : Option MediaController :=
  if ¬ hasAudioTrack ∧ ¬ hasVideoTrack then none
  else some { hasVideoTrack, audioPlayController := if hasAudioTrack then some {} else none }

def start : MediaController :=
  if m.audioPlayController = none ∧ m.videoPlayerMap.size = 0 then m
  else
    { m with
        isPlaying := m.isPlaying || m.audioPlayController.any (·.start.1) ||
          m.videoPlayerMap.toList.any (·.2.start.1)
        audioPlayController := m.audioPlayController.map (·.start.2)
        videoPlayerMap := m.videoPlayerMap.mapValues (·.start.2) }

def stop : MediaController :=
  if m.isPlaying then
    { m with
        isPlaying := false
        audioPlayController := m.audioPlayController.map (·.stop)
        videoPlayerMap := m.videoPlayerMap.mapValues (·.stop) }
  else m

def appendSurface (surfaceId : Nat) (opens : Bool) : Bool × MediaController :=
  if ¬ m.hasVideoTrack then (false, m)
  else if (m.videoPlayerMap.find? surfaceId).isSome then (false, m)
  else
    match VideoPlayController.openSurface {} opens with
    | (false, _) => (false, m)
    | (true, c) =>
      let c := if m.isPlaying then c.start.2 else c
      (true, { m with videoPlayerMap := m.videoPlayerMap.emplace surfaceId c })

def removeSurface (surfaceId : Nat) : MediaController :=
  { m with videoPlayerMap := m.videoPlayerMap.erase surfaceId }

end MediaController

inductive PlayCall where
  | start
  | stop
  | appendSurface (surfaceId : Nat) (opens : Bool)
  | removeSurface (surfaceId : Nat)
  deriving DecidableEq, Repr

/-- What the calls mean: the surfaces that were appended and not removed, and whether the last
call to start or to stop was one to start. -/
structure Playback where
  hasVideoTrack : Bool
  surfaces : List Nat := []
  started : Bool := false
  deriving DecidableEq, Repr

def Playback.call (p : Playback) : PlayCall → Playback
  | .start => { p with started := true }
  | .stop => { p with started := false }
  | .appendSurface surfaceId opens =>
    if p.hasVideoTrack ∧ opens ∧ surfaceId ∉ p.surfaces then
      { p with surfaces := surfaceId :: p.surfaces }
    else p
  | .removeSurface surfaceId => { p with surfaces := p.surfaces.filter (· ≠ surfaceId) }

def MediaController.call (m : MediaController) : PlayCall → MediaController
  | .start => m.start
  | .stop => m.stop
  | .appendSurface surfaceId opens => (m.appendSurface surfaceId opens).2
  | .removeSurface surfaceId => m.removeSurface surfaceId

end WifiDisplay

/-! The controller plays as it was told, unless a surface is appended behind a `Start` that found
nothing to play. -/

namespace WifiDisplay

theorem AudioPlayController.start_eq {c : AudioPlayController} (hc : c.hasAudioPlayer) :
    c.start = (true, { c with isAudioRunning := true }) := by
  rw [AudioPlayController.start, if_neg (not_not.mpr hc)]
  split
  · rename_i hrun
    rw [← hrun]
  · rfl

theorem VideoPlayController.start_eq {c : VideoPlayController} (henable : c.enableSurface)
    (hdecoder : c.hasDecoder) : c.start = (true, { c with isVideoRunning := true }) := by
  rw [VideoPlayController.start]
  split
  · rename_i hrun
    rw [← hrun]
  · rw [if_pos ⟨henable, hdecoder⟩]

/-- The map holds the appended surfaces, and what there is runs exactly when it was started. -/
structure MediaController.PlaysAsTold (m : MediaController) (p : Playback) : Prop where
  surfaces : ∀ surfaceId, (∃ c, (surfaceId, c) ∈ m.videoPlayerMap) ↔ surfaceId ∈ p.surfaces
  video : ∀ e ∈ m.videoPlayerMap, e.2.isVideoRunning = p.started
  audio : ∀ c ∈ m.audioPlayController, c.isAudioRunning = p.started

/-- A controller with the meaning of the calls it had. -/
structure PlayHistory where
  controller : MediaController
  playback : Playback

namespace PlayHistory

def call (h : PlayHistory) (c : PlayCall) : PlayHistory :=
  ⟨h.controller.call c, h.playback.call c⟩

def Plays (h : PlayHistory) : Prop := h.controller.PlaysAsTold h.playback

/-- A surface that is appended behind a `Start` finds the controller playing. -/
def Heard (h : PlayHistory) : PlayCall → Prop
  | .appendSurface surfaceId opens =>
    h.playback.hasVideoTrack ∧ opens ∧ surfaceId ∉ h.playback.surfaces ∧ h.playback.started →
      h.controller.isPlaying
  | _ => True

instance (h : PlayHistory) (c : PlayCall) : Decidable (h.Heard c) := by
  unfold Heard
  split <;> infer_instance

/-- Whatever the controller has runs exactly when it plays. -/
structure Kept (h : PlayHistory) : Prop where
  surfaces : ∀ surfaceId,
    (∃ c, (surfaceId, c) ∈ h.controller.videoPlayerMap) ↔ surfaceId ∈ h.playback.surfaces
  hasVideoTrack : h.controller.hasVideoTrack = h.playback.hasVideoTrack
  video : ∀ e ∈ h.controller.videoPlayerMap,
    e.2.enableSurface ∧ e.2.hasDecoder ∧ e.2.isVideoRunning = h.controller.isPlaying
  audio : ∀ c ∈ h.controller.audioPlayController,
    c.hasAudioPlayer ∧ c.isAudioRunning = h.controller.isPlaying
  started : h.controller.isPlaying → h.playback.started

variable {h : PlayHistory}

theorem Kept.plays_of_eq (hk : Kept h) (heq : h.controller.isPlaying = h.playback.started) :
    h.Plays where
  surfaces := hk.surfaces
  video e he := (hk.video e he).2.2.trans heq
  audio c hc := (hk.audio c hc).2.trans heq

/-- A start that finds something to play plays all of it. -/
theorem Kept.start (hk : Kept h)
    (hsome : ¬ (h.controller.audioPlayController = none ∧ h.controller.videoPlayerMap.size = 0)) :
    Kept (h.call .start) ∧ (h.call .start).controller.isPlaying = true := by
  have hplaying : h.controller.start.isPlaying = true := by
    rw [MediaController.start, if_neg hsome]
    simp only [Bool.or_eq_true, List.any_eq_true]
    cases haudio : h.controller.audioPlayController with
    | some c =>
      refine Or.inl (Or.inr ?_)
      rw [Option.any_some, AudioPlayController.start_eq (hk.audio c haudio).1]
    | none =>
      right
      obtain ⟨e, he⟩ := List.exists_mem_of_length_pos
        (Nat.pos_of_ne_zero fun h0 => hsome ⟨haudio, h0⟩)
      obtain ⟨henable, hdecoder, -⟩ := hk.video e he
      exact ⟨e, he, by rw [VideoPlayController.start_eq henable hdecoder]⟩
  have hmap : h.controller.start.videoPlayerMap =
      h.controller.videoPlayerMap.mapValues (·.start.2) := by
    rw [MediaController.start, if_neg hsome]
  have haudios : h.controller.start.audioPlayController =
      h.controller.audioPlayController.map (·.start.2) := by
    rw [MediaController.start, if_neg hsome]
  have htrack : h.controller.start.hasVideoTrack = h.controller.hasVideoTrack := by
    rw [MediaController.start, if_neg hsome]
  refine ⟨⟨?_, htrack.trans hk.hasVideoTrack, ?_, ?_, fun _ => rfl⟩, hplaying⟩
  · intro surfaceId
    change (∃ c, (surfaceId, c) ∈ h.controller.start.videoPlayerMap) ↔
      surfaceId ∈ h.playback.surfaces
    rw [hmap, ← hk.surfaces surfaceId]
    simp only [OrderedMap.mem_mapValues]
    exact ⟨fun ⟨_, c, hc, _⟩ => ⟨c, hc⟩, fun ⟨c, hc⟩ => ⟨_, c, hc, rfl⟩⟩
  · intro e he
    change e ∈ h.controller.start.videoPlayerMap at he
    rw [hmap, OrderedMap.mem_mapValues] at he
    obtain ⟨c, hc, heq⟩ := he
    obtain ⟨henable, hdecoder, -⟩ := hk.video _ hc
    rw [VideoPlayController.start_eq henable hdecoder] at heq
    rw [← heq]
    exact ⟨henable, hdecoder, hplaying.symm⟩
  · intro c hc
    change c ∈ h.controller.start.audioPlayController at hc
    rw [haudios] at hc
    obtain ⟨c', hc', rfl⟩ := Option.map_eq_some_iff.mp hc
    rw [AudioPlayController.start_eq (hk.audio c' hc').1]
    exact ⟨(hk.audio c' hc').1, hplaying.symm⟩

theorem Kept.stop (hk : Kept h) :
    Kept (h.call .stop) ∧ (h.call .stop).controller.isPlaying = false := by
  by_cases hplaying : h.controller.isPlaying
  · have hstop : h.controller.stop = { h.controller with
        isPlaying := false
        audioPlayController := h.controller.audioPlayController.map (·.stop)
        videoPlayerMap := h.controller.videoPlayerMap.mapValues (·.stop) } := by
      rw [MediaController.stop, if_pos hplaying]
    have hcall : h.call .stop = ⟨h.controller.stop, { h.playback with started := false }⟩ := rfl
    rw [hcall, hstop]
    refine ⟨⟨?_, hk.hasVideoTrack, ?_, ?_, nofun⟩, rfl⟩
    · intro surfaceId
      rw [← hk.surfaces surfaceId]
      simp only [OrderedMap.mem_mapValues]
      exact ⟨fun ⟨_, c, hc, _⟩ => ⟨c, hc⟩, fun ⟨c, hc⟩ => ⟨_, c, hc, rfl⟩⟩
    · intro e he
      obtain ⟨c, hc, heq⟩ := OrderedMap.mem_mapValues.mp he
      obtain ⟨henable, hdecoder, hrun⟩ := hk.video _ hc
      rw [← heq, VideoPlayController.stop, if_pos ⟨hrun.trans hplaying, hdecoder⟩]
      exact ⟨henable, hdecoder, rfl⟩
    · intro c hc
      obtain ⟨c', hc', rfl⟩ := Option.map_eq_some_iff.mp hc
      exact ⟨(hk.audio c' hc').1, rfl⟩
  · have hstop : h.controller.stop = h.controller := by rw [MediaController.stop, if_neg hplaying]
    have hcall : h.call .stop = ⟨h.controller.stop, { h.playback with started := false }⟩ := rfl
    rw [hcall, hstop]
    exact ⟨⟨hk.surfaces, hk.hasVideoTrack, hk.video, hk.audio, fun hp => absurd hp hplaying⟩,
      by simpa using hplaying⟩

/-- A surface that is taken has a controller that runs if the others do. -/
theorem Kept.append (hk : Kept h) {surfaceId : Nat} (htrack : h.playback.hasVideoTrack)
    (hnew : surfaceId ∉ h.playback.surfaces) :
    Kept (h.call (.appendSurface surfaceId true)) ∧
      (h.call (.appendSurface surfaceId true)).controller.isPlaying = h.controller.isPlaying ∧
      (h.call (.appendSurface surfaceId true)).playback.started = h.playback.started := by
  have hfree : ¬ (h.controller.videoPlayerMap.find? surfaceId).isSome := by
    rw [OrderedMap.isSome_find?, hk.surfaces surfaceId]
    exact hnew
  have hkeys : ∀ e ∈ h.controller.videoPlayerMap, e.1 ≠ surfaceId := by
    rintro e he rfl
    exact hnew ((hk.surfaces e.1).mp ⟨e.2, he⟩)
  have hcall : h.call (.appendSurface surfaceId true) =
      ⟨{ h.controller with
          videoPlayerMap := h.controller.videoPlayerMap.emplace surfaceId
            { hasDecoder := true, enableSurface := true, isVideoRunning := h.controller.isPlaying } },
        { h.playback with surfaces := surfaceId :: h.playback.surfaces }⟩ := by
    have hmedia : (h.controller.appendSurface surfaceId true).2 = { h.controller with
        videoPlayerMap := h.controller.videoPlayerMap.emplace surfaceId
          { hasDecoder := true, enableSurface := true,
            isVideoRunning := h.controller.isPlaying } } := by
      have hstart : (if h.controller.isPlaying then
          (VideoPlayController.start { hasDecoder := true, enableSurface := true }).2
          else { hasDecoder := true, enableSurface := true }) =
          { hasDecoder := true, enableSurface := true, isVideoRunning := h.controller.isPlaying } := by
        cases h.controller.isPlaying <;> rfl
      rw [MediaController.appendSurface, if_neg (not_not.mpr (hk.hasVideoTrack.trans htrack)),
        if_neg hfree, ← hstart]
      rfl
    have hplayback : h.playback.call (.appendSurface surfaceId true) =
        { h.playback with surfaces := surfaceId :: h.playback.surfaces } :=
      if_pos ⟨htrack, rfl, hnew⟩
    rw [call, MediaController.call, hmedia, hplayback]
  rw [hcall]
  refine ⟨⟨?_, hk.hasVideoTrack, ?_, hk.audio, hk.started⟩, rfl, rfl⟩
  · intro id
    simp only [OrderedMap.mem_emplace hkeys, List.mem_cons, Prod.mk.injEq]
    rw [← hk.surfaces id]
    constructor
    · rintro ⟨c, ⟨rfl, -⟩ | hc⟩
      · exact Or.inl rfl
      · exact Or.inr ⟨c, hc⟩
    · rintro (rfl | ⟨c, hc⟩)
      · exact ⟨_, Or.inl ⟨rfl, rfl⟩⟩
      · exact ⟨c, Or.inr hc⟩
  · intro e he
    rcases (OrderedMap.mem_emplace hkeys).mp he with rfl | he
    · exact ⟨rfl, rfl, rfl⟩
    · exact hk.video e he

theorem Kept.append_refused (hk : Kept h) {surfaceId : Nat} {opens : Bool}
    (hno : ¬ (h.playback.hasVideoTrack ∧ opens ∧ surfaceId ∉ h.playback.surfaces)) :
    h.call (.appendSurface surfaceId opens) = h := by
  have hplayback : h.playback.call (.appendSurface surfaceId opens) = h.playback := if_neg hno
  have hmedia : (h.controller.appendSurface surfaceId opens).2 = h.controller := by
    rw [MediaController.appendSurface]
    split
    · rfl
    · rename_i htrack
      split
      · rfl
      · rename_i hfree
        have hnew : surfaceId ∉ h.playback.surfaces := by
          rwa [← hk.surfaces surfaceId, ← OrderedMap.isSome_find?]
        cases opens with
        | false => rfl
        | true => exact absurd ⟨hk.hasVideoTrack ▸ not_not.mp htrack, rfl, hnew⟩ hno
  rw [call, MediaController.call, hmedia, hplayback]

theorem Kept.remove (hk : Kept h) (surfaceId : Nat) : Kept (h.call (.removeSurface surfaceId)) where
  surfaces id := by
    change (∃ c, (id, c) ∈ h.controller.videoPlayerMap.erase surfaceId) ↔
      id ∈ h.playback.surfaces.filter (· ≠ surfaceId)
    simp only [OrderedMap.mem_erase, List.mem_filter, decide_eq_true_eq, ← hk.surfaces id]
    exact ⟨fun ⟨c, hc, hne⟩ => ⟨⟨c, hc⟩, hne⟩, fun ⟨⟨c, hc⟩, hne⟩ => ⟨c, hc, hne⟩⟩
  hasVideoTrack := hk.hasVideoTrack
  video e he := hk.video e (OrderedMap.mem_erase.mp he).1
  audio := hk.audio
  started := hk.started

theorem Kept.start_unheard (hk : Kept h)
    (hnone : h.controller.audioPlayController = none ∧ h.controller.videoPlayerMap.size = 0) :
    Kept (h.call .start) ∧ (h.call .start).Plays := by
  have hcall : h.call .start = ⟨h.controller, { h.playback with started := true }⟩ := by
    rw [call, MediaController.call, MediaController.start, if_pos hnone]
    rfl
  rw [hcall]
  have hempty : ∀ e, e ∉ h.controller.videoPlayerMap := by
    intro e he
    rw [← OrderedMap.mem_toList, List.eq_nil_of_length_eq_zero hnone.2] at he
    cases he
  refine ⟨⟨hk.surfaces, hk.hasVideoTrack, hk.video, hk.audio, fun _ => rfl⟩, hk.surfaces,
    fun e he => absurd he (hempty e), ?_⟩
  intro c hc
  rw [hnone.1] at hc
  cases hc

theorem Kept.call (hk : Kept h) (c : PlayCall) : Kept (h.call c) := by
  cases c with
  | start =>
    by_cases hnone : h.controller.audioPlayController = none ∧ h.controller.videoPlayerMap.size = 0
    · exact (hk.start_unheard hnone).1
    · exact (hk.start hnone).1
  | stop => exact hk.stop.1
  | appendSurface surfaceId opens =>
    by_cases hok : h.playback.hasVideoTrack ∧ opens ∧ surfaceId ∉ h.playback.surfaces
    · obtain ⟨htrack, rfl, hnew⟩ := hok
      exact (hk.append htrack hnew).1
    · rw [hk.append_refused hok]
      exact hk
  | removeSurface surfaceId => exact hk.remove surfaceId

theorem Kept.plays_call (hk : Kept h) (hplays : h.Plays) (c : PlayCall) :
    (h.call c).Plays ↔ h.Heard c := by
  cases c with
  | start =>
    refine iff_of_true ?_ trivial
    by_cases hnone : h.controller.audioPlayController = none ∧ h.controller.videoPlayerMap.size = 0
    · exact (hk.start_unheard hnone).2
    · exact (hk.start hnone).1.plays_of_eq (hk.start hnone).2
  | stop => exact iff_of_true (hk.stop.1.plays_of_eq hk.stop.2) trivial
  | appendSurface surfaceId opens =>
    by_cases hok : h.playback.hasVideoTrack ∧ opens ∧ surfaceId ∉ h.playback.surfaces
    · obtain ⟨htrack, rfl, hnew⟩ := hok
      obtain ⟨hkept, hplaying, hstarted⟩ := hk.append htrack hnew
      constructor
      · rintro hafter ⟨-, -, -, hs⟩
        -- the new controller is there, so it runs
        obtain ⟨e, he⟩ := (hkept.surfaces surfaceId).mpr (by
          change surfaceId ∈ (h.playback.call (.appendSurface surfaceId true)).surfaces
          rw [Playback.call, if_pos ⟨htrack, rfl, hnew⟩]
          exact List.mem_cons_self)
        rw [← hplaying, ← (hkept.video _ he).2.2, hafter.video _ he, hstarted]
        exact hs
      · intro hheard
        apply hkept.plays_of_eq
        rw [hplaying, hstarted, Bool.eq_iff_iff]
        exact ⟨hk.started, fun hs => hheard ⟨htrack, rfl, hnew, hs⟩⟩
    · rw [hk.append_refused hok]
      exact iff_of_true hplays fun hall => absurd ⟨hall.1, hall.2.1, hall.2.2.1⟩ hok
  | removeSurface surfaceId =>
    refine iff_of_true ⟨(hk.remove surfaceId).surfaces, ?_, hplays.audio⟩ trivial
    exact fun e he => hplays.video e (OrderedMap.mem_erase.mp he).1

/-- A new controller and its playback. -/
def created (hasVideoTrack : Bool) (m : MediaController) : PlayHistory :=
  ⟨m, { hasVideoTrack }⟩

theorem kept_created {hasAudioTrack hasVideoTrack : Bool} {m : MediaController}
    (hm : MediaController.create hasAudioTrack hasVideoTrack = some m) :
    Kept (created hasVideoTrack m) ∧ (created hasVideoTrack m).Plays := by
  rw [MediaController.create] at hm
  split at hm
  · cases hm
  · cases hm
    refine ⟨⟨fun _ => ⟨nofun, nofun⟩, rfl, nofun, ?_, nofun⟩, fun _ => ⟨nofun, nofun⟩, nofun, ?_⟩
    · intro c hc
      cases hasAudioTrack with
      | true =>
        cases hc
        exact ⟨rfl, rfl⟩
      | false => cases hc
    · intro c hc
      cases hasAudioTrack with
      | true =>
        cases hc
        rfl
      | false => cases hc

end PlayHistory

end WifiDisplay
