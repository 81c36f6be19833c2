import WifiDisplay.VideoSinkDecoder

/-! The runs of `VideoSinkDecoder` in which its two queues stay in step. -/

namespace WifiDisplay

namespace VideoSinkDecoder

variable {s : VideoSinkDecoder} {move : VideoDecoderMove} {index : UInt32} {buffer : Option AVSharedMemory}
  {input : VideoInput} {data : Nat → Byte} {size : Int32} {pts : UInt64} {copied accepted : Bool}

/-- The indexes that are still to be queued: that of a thread about to pop has been. -/
def waiting (s : VideoSinkDecoder) : List (Nat × Int32) :=
  match s.stage with
  | .popping => s.inQueue.tail
  | _ => s.inQueue

structure Sound (s : VideoSinkDecoder) : Prop extends s.Right where
  decoder : s.isRunning = true → s.videoDecoder = true
  called : ∀ entry ∈ s.inQueue, entry.1 < s.called
  since : s.since ≤ s.called
  queued : ∀ input ∈ s.queued, input.inputIndex.1 < s.called
  distinct : (s.queued.map (·.inputIndex.1) ++ s.waiting.map Prod.fst).Nodup
  input : ∀ input, s.stage = .copying input →
    s.inQueue.head? = some input.inputIndex ∧ s.inBufferQueue.head? = some input.inputBuffer
  popping : s.stage = .popping → s.inQueue ≠ []

theorem sound_init (created : Bool) : Sound { videoDecoder := created } where
  paired := rfl
  current := nofun
  copied := nofun
  once := .nil
  decoder := nofun
  called := nofun
  since := le_rfl
  queued := nofun
  distinct := .nil
  input := nofun
  popping := nofun

theorem Sound.start (hs : s.Sound) (prepared started : Bool) : (s.start prepared started).1.Sound := by
  rw [VideoSinkDecoder.start]
  split
  · exact hs
  · split
    · rename_i hstart
      have hdecoder : s.videoDecoder = true := by
        simp only [startDecoder, Bool.and_eq_true] at hstart
        exact hstart.1.1
      exact { hs with decoder := fun _ => hdecoder }
    · exact hs

theorem waiting_subset (s : VideoSinkDecoder) : s.waiting ⊆ s.inQueue := by
  rw [waiting]
  split
  · exact List.tail_subset s.inQueue
  · exact List.Subset.refl s.inQueue

theorem Sound.waiting_push (hs : s.Sound) (index : UInt32) (buffer : AVSharedMemory) :
    (s.onInputBufferAvailable index (some buffer)).waiting = s.waiting ++ [(s.called, index.toInt32)] := by
  cases hstage : s.stage with
  | popping =>
    simp only [waiting, VideoSinkDecoder.onInputBufferAvailable, hstage]
    exact List.tail_append_of_ne_nil (hs.popping hstage)
  | _ => simp only [waiting, VideoSinkDecoder.onInputBufferAvailable, hstage]

theorem Sound.onInputBufferAvailable (hs : s.Sound) (index : UInt32) (buffer : Option AVSharedMemory) :
    (s.onInputBufferAvailable index buffer).Sound := by
  cases buffer with
  | none =>
    exact { hs with
      called := fun entry hmem => (hs.called entry hmem).trans (Nat.lt_succ_self _)
      since := hs.since.trans (Nat.le_succ _)
      queued := fun input hmem => (hs.queued input hmem).trans (Nat.lt_succ_self _) }
  | some buffer =>
    have hpush := hs.waiting_push index buffer
    refine {
      paired := ?_
      current := ?_
      copied := hs.copied
      once := hs.once
      decoder := hs.decoder
      called := ?_
      since := hs.since.trans (Nat.le_succ _)
      queued := fun input hmem => (hs.queued input hmem).trans (Nat.lt_succ_self _)
      distinct := ?_
      input := ?_
      popping := fun _ => List.append_ne_nil_of_right_ne_nil _ (List.cons_ne_nil _ _) }
    · simp [VideoSinkDecoder.onInputBufferAvailable, hs.paired]
    · intro entry hmem
      rcases List.mem_append.mp hmem with hmem | hmem
      · exact hs.current entry hmem
      · obtain rfl := List.mem_singleton.mp hmem
        exact hs.since
    · intro entry hmem
      rcases List.mem_append.mp hmem with hmem | hmem
      · exact (hs.called entry hmem).trans (Nat.lt_succ_self _)
      · obtain rfl := List.mem_singleton.mp hmem
        exact Nat.lt_succ_self _
    · rw [hpush, List.map_append, ← List.append_assoc]
      refine List.nodup_append.mpr ⟨hs.distinct, List.nodup_singleton _, ?_⟩
      rintro n hmem m hm rfl
      obtain rfl : n = s.called := by simpa using hm
      rcases List.mem_append.mp hmem with hmem | hmem
      · obtain ⟨input, hinput, heq⟩ := List.mem_map.mp hmem
        exact absurd (hs.queued input hinput) (by omega)
      · obtain ⟨entry, hentry, heq⟩ := List.mem_map.mp hmem
        exact absurd (hs.called entry (s.waiting_subset hentry)) (by omega)
    · intro input hstage
      obtain ⟨hindex, hbuffer⟩ := hs.input input hstage
      exact ⟨by simp [VideoSinkDecoder.onInputBufferAvailable, hindex],
        by simp [VideoSinkDecoder.onInputBufferAvailable, hbuffer]⟩

theorem Sound.decodeVideoData (hs : s.Sound) (hstage : s.stage = .outside) (data : Nat → Byte)
    (size : Int32) (pts : UInt64) : (s.decodeVideoData data size pts).1.Sound := by
  rw [VideoSinkDecoder.decodeVideoData]
  split
  · exact hs
  · split
    · rename_i inputIndex _ inputBuffer _ hindexes hbuffers
      split
      · exact hs
      · have hdistinct := hs.distinct
        rw [waiting, hstage] at hdistinct
        refine { hs with
          distinct := hdistinct
          input := ?_
          popping := nofun }
        rintro _ ⟨⟩
        exact ⟨by simp [hindexes], by simp [hbuffers]⟩
    · exact hs

theorem Sound.copy (hs : s.Sound) (hstage : s.stage = .copying input) (copied accepted : Bool) :
    (s.copy input copied accepted).1.Sound := by
  obtain ⟨hindex, hbuffer⟩ := hs.input input hstage
  have hdistinct := hs.distinct
  rw [waiting, hstage] at hdistinct
  have houtside : Sound { s with stage := .outside } := { hs with
    distinct := hdistinct
    input := nofun
    popping := nofun }
  rw [VideoSinkDecoder.copy]
  split
  · exact houtside
  · split
    · exact houtside
    · split
      · exact houtside
      · obtain ⟨indexes, hindexes⟩ := List.head?_eq_some_iff.mp hindex
        obtain ⟨buffers, hbuffers⟩ := List.head?_eq_some_iff.mp hbuffer
        have hpair : input.inputIndex.1 = input.inputBuffer.1 := by
          have hpaired := hs.paired
          rw [hindexes, hbuffers] at hpaired
          exact (List.cons.inj hpaired).1
        -- The index at the front goes over to those that are queued.
        have hmoved (q : QueuedInput) (hq : q.inputIndex = input.inputIndex) :
            ((s.queued ++ [q]).map (·.inputIndex.1) ++ s.inQueue.tail.map Prod.fst).Nodup := by
          simpa [hindexes, hq] using hdistinct
        refine { hs with
          copied := ?_
          once := (List.nodup_append.mp (hmoved _ rfl)).1
          queued := ?_
          distinct := hmoved _ rfl
          input := nofun
          popping := ?_ }
        · intro q hmem
          rcases List.mem_append.mp hmem with hmem | hmem
          · exact hs.copied q hmem
          · obtain rfl := List.mem_singleton.mp hmem
            exact hpair.symm
        · intro q hmem
          rcases List.mem_append.mp hmem with hmem | hmem
          · exact hs.queued q hmem
          · obtain rfl := List.mem_singleton.mp hmem
            exact hs.called input.inputIndex (by simp [hindexes])
        · intro _
          show s.inQueue ≠ []
          simp [hindexes]

theorem Sound.pop (hs : s.Sound) (hstage : s.stage = .popping) : s.pop.1.Sound := by
  have hdistinct := hs.distinct
  rw [waiting, hstage] at hdistinct
  exact { hs with
    paired := by
      show s.inQueue.tail.map Prod.fst = s.inBufferQueue.tail.map Prod.fst
      rw [List.map_tail, List.map_tail, hs.paired]
    current := fun entry hmem => hs.current entry (List.mem_of_mem_tail hmem)
    called := fun entry hmem => hs.called entry (List.mem_of_mem_tail hmem)
    distinct := hdistinct
    input := nofun
    popping := nofun }

theorem Sound.nil_iff (hs : s.Sound) : s.inBufferQueue = [] ↔ s.inQueue = [] := by
  have hlength := congrArg List.length hs.paired
  simp only [List.length_map] at hlength
  rw [← List.length_eq_zero_iff, ← List.length_eq_zero_iff, hlength]

/-- What waits when the codec is stopped does not belong to its next run. -/
theorem Sound.stopped (hs : s.Sound) {isRunning : Bool} (stopping : Bool)
    (hrunning : isRunning = true → s.isRunning = true) :
    (Right { s with since := s.called, isRunning, stopping } ↔ s.inQueue = []) ∧
      (Right { s with since := s.called, isRunning, stopping } →
        Sound { s with since := s.called, isRunning, stopping }) := by
  constructor
  · constructor
    · intro hright
      rw [List.eq_nil_iff_forall_not_mem]
      intro entry hmem
      exact absurd (hright.current entry hmem) (Nat.not_le_of_lt (hs.called entry hmem))
    · intro hnil
      exact { hs with current := by simp [hnil] }
  · intro hright
    exact { hs with
      toRight := hright
      decoder := fun h => hs.decoder (hrunning h)
      since := Nat.le_refl _ }

theorem Sound.stop (hs : s.Sound) (stopped reset configured : Bool) :
    ((s.stop stopped reset configured).Right ↔ (s.isRunning = true → stopped = true → s.inQueue = [])) ∧
      ((s.stop stopped reset configured).Right → (s.stop stopped reset configured).Sound) := by
  rw [VideoSinkDecoder.stop]
  by_cases hrunning : s.isRunning
  · have hdecoder := hs.decoder hrunning
    have hcond : (s.isRunning = true → true = true → s.inQueue = []) ↔ s.inQueue = [] := by
      simp [hrunning]
    cases stopped with
    | false => simp [hrunning, hdecoder, stopDecoder, hs, hs.toRight]
    | true =>
      rw [hcond, if_neg (by simp [hrunning]), stopDecoder, if_neg (by simp [hdecoder]), if_neg (by simp)]
      dsimp only
      split
      · exact @Sound.stopped s hs false true nofun
      · exact @Sound.stopped s hs s.isRunning s.stopping id
  · simp [hrunning, hs, hs.toRight]

/-- The swap leaves the memory of the buffers whose indexes it takes away. -/
theorem Sound.swap (hs : s.Sound) :
    (s.swap.Right ↔ s.inQueue = []) ∧ (s.swap.Right → s.swap.Sound) := by
  have hiff : s.swap.Right ↔ s.inQueue = [] := by
    constructor
    · intro hright
      have hpaired := hright.paired
      exact hs.nil_iff.mp (List.map_eq_nil_iff.mp hpaired.symm)
    · intro hnil
      exact { hs with
        paired := by simp [VideoSinkDecoder.swap, hs.nil_iff.mpr hnil]
        current := nofun }
  refine ⟨hiff, fun hright => ?_⟩
  have hnil := hiff.mp hright
  have hsame : s.swap = { s with stopping := false } := by
    rw [VideoSinkDecoder.swap, ← hnil]
  rw [hsame]
  exact { hs with }

/-- Each move that finds the two queues in step keeps them so, apart from a `Stop` that finds them
filled. -/
theorem Sound.step (hs : s.Sound) (move : VideoDecoderMove) :
    ((s.step move).Right ↔ s.Safe move) ∧ ((s.step move).Right → (s.step move).Sound) := by
  have hkept {s' : VideoSinkDecoder} (h : s'.Sound) : (s'.Right ↔ True) ∧ (s'.Right → s'.Sound) :=
    ⟨iff_true_intro h.toRight, fun _ => h⟩
  cases move with
  | start prepared started => exact hkept (hs.start prepared started)
  | stop stopped reset configured =>
    simp only [VideoSinkDecoder.step, Safe]
    cases s.stopping with
    | false => simpa using hs.stop stopped reset configured
    | true => simpa using ⟨hs.toRight, fun _ => hs⟩
  | swap =>
    simp only [VideoSinkDecoder.step, Safe]
    cases s.stopping with
    | false => simpa using ⟨hs.toRight, fun _ => hs⟩
    | true => simpa using hs.swap
  | onInputBufferAvailable index buffer => exact hkept (hs.onInputBufferAvailable index buffer)
  | decodeVideoData data size pts =>
    simp only [VideoSinkDecoder.step]
    split
    · exact hkept (hs.decodeVideoData ‹_› data size pts)
    · exact hkept hs
  | copy copied accepted =>
    simp only [VideoSinkDecoder.step]
    split
    · exact hkept (hs.copy ‹_› copied accepted)
    · exact hkept hs
  | pop =>
    simp only [VideoSinkDecoder.step]
    split
    · exact hkept (hs.pop ‹_›)
    · exact hkept hs

/-- The queues stay in step over a run exactly if every `Stop` finds them empty. -/
theorem queues_paired_iff_safe (created : Bool) (moves : List VideoDecoderMove) :
    AllMeet step (fun s move => (s.step move).Right) { videoDecoder := created } moves ↔
      AllMeet step Safe { videoDecoder := created } moves :=
  AllMeet.congr (I := Sound) (fun _ move hs _ => hs.step move) (sound_init created)
    (AllMeet.of_forall fun _ _ => trivial :
      AllMeet step (fun _ _ => True) { videoDecoder := created } moves)

/-- A buffer waits when the decoder is stopped; after the next start the index of a second one waits
with the memory of the first. -/
theorem stop_leaves_buffer : ¬ ∀ (created : Bool) (moves : List VideoDecoderMove),
    AllMeet step (fun s move => (s.step move).Right) { videoDecoder := created } moves := by
  intro hall
  have hrun := hall true [.start true true, .onInputBufferAvailable 0 (some ⟨100⟩), .stop true true true,
    .swap, .start true true, .onInputBufferAvailable 1 (some ⟨200⟩)]
  have hwrong : ¬ AllMeet step (fun s move => (s.step move).inQueue.map Prod.fst =
      (s.step move).inBufferQueue.map Prod.fst) { videoDecoder := true }
      [.start true true, .onInputBufferAvailable 0 (some ⟨100⟩), .stop true true true, .swap,
        .start true true, .onInputBufferAvailable 1 (some ⟨200⟩)] := by
    decide
  exact hwrong (hrun.imp fun _ _ hright => hright.paired)

end VideoSinkDecoder

end WifiDisplay
