import WifiDisplay.AudioAvCodecDecoder

/-! The runs of `AudioAvCodecDecoder` in which no buffer of the codec is lost. -/

namespace WifiDisplay

namespace AudioAvCodecDecoder

variable {s : AudioAvCodecDecoder} {move : DecoderMove}

structure Sound (s : AudioAvCodecDecoder) : Prop where
  outputs : s.outputs.Balanced s.keptOutputs
  inputs : s.inputs.Balanced s.keptInputs
  decoder : ∀ index ∈ s.keptOutputs, s.audioDecoder = true

theorem sound_init : Sound {} where
  outputs := Loans.balanced_init
  inputs := Loans.balanced_init
  decoder _ h := by cases h

theorem keptOutputs_eq (s : AudioAvCodecDecoder) :
    s.keptOutputs = s.held.map (·.index) ++ s.renderBuffer.map (·.index) := List.map_append

theorem foldl_releaseOutputBuffer (frames : List DecodedFrame) (h : s.audioDecoder = true) :
    frames.foldl (fun s frameBuffer => s.releaseOutputBuffer frameBuffer.index) s =
      { s with outputs := (frames.map (·.index)).foldl Loans.giveBack s.outputs } := by
  induction frames generalizing s with
  | nil => rfl
  | cons frameBuffer frames ih =>
    rw [List.foldl_cons, releaseOutputBuffer, if_pos h]
    exact ih h

theorem clearRenderBufferQueue_eq (h : s.audioDecoder = true) :
    s.clearRenderBufferQueue = { s with
      renderBuffer := []
      outputs := (s.renderBuffer.map (·.index)).foldl Loans.giveBack s.outputs } := by
  rw [clearRenderBufferQueue, foldl_releaseOutputBuffer s.renderBuffer h]

/-- The frames in the queue go back in one sweep, whatever else is kept. -/
theorem balanced_cleared (kept : List UInt32) (hl : s.outputs.Balanced (kept ++ s.keptOutputs)) :
    ((s.renderBuffer.map (·.index)).foldl Loans.giveBack s.outputs).Balanced
      (kept ++ s.held.map (·.index)) := by
  rw [keptOutputs_eq, ← List.append_assoc] at hl
  exact (hl.perm List.perm_append_comm).giveBackAll

theorem Sound.clearRenderBufferQueue (hs : s.Sound) : s.clearRenderBufferQueue.Sound := by
  cases hdecoder : s.audioDecoder with
  | false =>
    have hkept : s.renderBuffer = [] := by
      by_contra hne
      obtain ⟨frameBuffer, hmem⟩ := List.exists_mem_of_ne_nil _ hne
      have htrue := hs.decoder frameBuffer.index
        (List.mem_map_of_mem (List.mem_append_right _ hmem))
      rw [hdecoder] at htrue
      cases htrue
    have hsame : s.clearRenderBufferQueue = s := by
      rw [AudioAvCodecDecoder.clearRenderBufferQueue, hkept, List.foldl_nil, ← hkept]
    rwa [hsame]
  | true =>
    rw [clearRenderBufferQueue_eq hdecoder]
    refine ⟨?_, hs.inputs, fun _ _ => hdecoder⟩
    have hcleared := balanced_cleared [] hs.outputs
    rw [keptOutputs_eq]
    exact hcleared.perm (by simp [held])

/-- A new frame goes into the queue, or its buffer goes back. -/
theorem sound_render {frameBuffer : DecodedFrame} (hdecoder : s.audioDecoder = true)
    (houtputs : s.outputs.Balanced (frameBuffer.index :: s.keptOutputs))
    (hinputs : s.inputs.Balanced s.keptInputs) : (s.render frameBuffer).Sound := by
  rw [render]
  split
  · rw [releaseOutputBuffer, if_pos hdecoder]
    exact ⟨houtputs.giveBack, hinputs, fun _ _ => hdecoder⟩
  · split
    · rw [clearRenderBufferQueue_eq hdecoder]
      refine ⟨?_, hinputs, fun _ _ => hdecoder⟩
      have hcleared := balanced_cleared [frameBuffer.index] houtputs
      rw [keptOutputs_eq]
      exact hcleared.perm List.perm_append_comm
    · refine ⟨?_, hinputs, fun _ _ => hdecoder⟩
      rw [keptOutputs_eq] at houtputs ⊢
      refine houtputs.perm ?_
      rw [List.map_append, ← List.append_assoc]
      exact (List.perm_append_singleton _ _).symm

theorem Sound.right (hs : (s.step move).Sound) : s.Right move := ⟨hs.outputs, hs.inputs⟩

/-- A move that leaves the buffers where they are. -/
theorem Sound.of_same {s' : AudioAvCodecDecoder} (hs : s.Sound) (houtputs : s'.outputs = s.outputs)
    (hkept : s'.keptOutputs = s.keptOutputs) (hinputs : s'.inputs = s.inputs)
    (hqueue : s'.inBufferQueue = s.inBufferQueue) (hdecoder : s.audioDecoder = true → s'.audioDecoder = true) :
    s'.Sound := by
  refine ⟨?_, ?_, fun index hmem => hdecoder (hs.decoder index (hkept ▸ hmem))⟩
  · rw [houtputs, hkept]
    exact hs.outputs
  · rw [hinputs, keptInputs, hqueue]
    exact hs.inputs

theorem Sound.renderOutBuffer (hs : s.Sound) : s.renderOutBuffer.Sound := by
  cases hthread : s.renderThread with
  | none | exited =>
    rw [AudioAvCodecDecoder.renderOutBuffer, hthread]
    exact hs
  | head =>
    rw [AudioAvCodecDecoder.renderOutBuffer, hthread]
    refine hs.of_same rfl ?_ rfl rfl id
    cases hready : s.isRenderReady <;> simp [keptOutputs, held, hthread]
  | ready =>
    cases hbuffer : s.renderBuffer with
    | nil =>
      simp only [AudioAvCodecDecoder.renderOutBuffer, hthread, hbuffer]
      exact hs.of_same rfl (by simp [keptOutputs, held, hthread, hbuffer]) rfl rfl id
    | cons frameBuffer rest =>
      simp only [AudioAvCodecDecoder.renderOutBuffer, hthread, hbuffer]
      exact hs.of_same rfl (by simp [keptOutputs, held, hthread, hbuffer]) rfl rfl id
  | holding frameBuffer =>
    have hkept : s.keptOutputs = frameBuffer.index :: s.renderBuffer.map (·.index) := by
      simp [keptOutputs, held, hthread]
    have hdecoder : s.audioDecoder = true :=
      hs.decoder frameBuffer.index (by rw [hkept]; exact List.mem_cons_self)
    have houtputs := hs.outputs
    rw [hkept] at houtputs
    have hreleased : s.renderOutBuffer.outputs = s.outputs.giveBack frameBuffer.index ∧
        s.renderOutBuffer.keptOutputs = s.renderBuffer.map (·.index) ∧
        s.renderOutBuffer.inputs = s.inputs ∧ s.renderOutBuffer.inBufferQueue = s.inBufferQueue ∧
        s.renderOutBuffer.audioDecoder = true := by
      simp only [AudioAvCodecDecoder.renderOutBuffer, hthread, releaseOutputBuffer]
      split <;> simp [hdecoder, keptOutputs, held]
    obtain ⟨hout, hkept', hin, hqueue, hdecoder'⟩ := hreleased
    refine ⟨?_, ?_, fun _ _ => hdecoder'⟩
    · rw [hout, hkept']
      exact houtputs.giveBack
    · rw [hin, keptInputs, hqueue]
      exact hs.inputs

theorem Sound.startRender (hs : s.Sound) : s.startRender.Sound := by
  rw [AudioAvCodecDecoder.startRender]
  split
  · exact hs.of_same rfl (by simp [keptOutputs, held, *]) rfl rfl id
  · exact hs

theorem Sound.join (hs : s.Sound) : s.join.Sound := by
  rw [AudioAvCodecDecoder.join]
  split
  · exact hs.of_same rfl (by simp [keptOutputs, held, *]) rfl rfl id
  · exact hs

/-- A move after which a buffer is missing. -/
theorem not_right_of_lost {index : UInt32} (h : (s.step move).outputs.Balanced (index :: (s.step move).keptOutputs) ∨
    (s.step move).inputs.Balanced (index :: (s.step move).keptInputs)) : ¬ s.Right move := by
  rintro ⟨houtputs, hinputs⟩
  rcases h with h | h
  · exact h.lost houtputs
  · exact h.lost hinputs

theorem Sound.onInputBufferAvailable_right_iff (hs : s.Sound) {index : UInt32}
    (hreturned : s.inputs.lent index = s.inputs.returned index) (buffer : Option AVSharedMemory) :
    (s.Right (.onInputBufferAvailable index buffer) ↔ buffer ≠ none) ∧
      (s.Right (.onInputBufferAvailable index buffer) →
        (s.step (.onInputBufferAvailable index buffer)).Sound) := by
  have hlent := hs.inputs.lend hreturned
  cases buffer with
  | none =>
    have hnot : ¬ s.Right (.onInputBufferAvailable index none) := not_right_of_lost (Or.inr hlent)
    exact ⟨iff_of_false hnot (not_not.mpr rfl), fun h => absurd h hnot⟩
  | some buffer =>
    have hsound : (s.step (.onInputBufferAvailable index (some buffer))).Sound := by
      refine ⟨hs.outputs, ?_, hs.decoder⟩
      refine hlent.perm ?_
      rw [step, onInputBufferAvailable, keptInputs, keptInputs, List.map_append]
      exact (List.perm_append_singleton _ _).symm
    exact ⟨iff_of_true hsound.right nofun, fun _ => hsound⟩

theorem onFrame_lost {entry : Int32 × AVSharedMemory} {rest : List (Int32 × AVSharedMemory)}
    {frame : Option EncodedFrame} {copied : Bool} (hdecoder : s.audioDecoder = true)
    (hqueue : s.inBufferQueue = entry :: rest)
    (hcopy : ¬ ∃ f, frame = some f ∧ f.data = true ∧ f.size ≤ entry.2.size ∧ copied = true) :
    s.onFrame frame copied = { s with inBufferQueue := rest } := by
  rw [onFrame, if_neg (by simp [hdecoder]), hqueue]
  dsimp only
  cases frame with
  | none => rfl
  | some f =>
    dsimp only
    split
    · rfl
    split
    · rfl
    split
    · rfl
    · rename_i hdata hsize hcopied
      exact absurd ⟨f, rfl, by simpa using hdata, Int32.not_lt.mp hsize, by simpa using hcopied⟩ hcopy

/-- A frame that cannot be put into its buffer costs the codec that buffer. -/
theorem Sound.onFrame_right_iff (hs : s.Sound) (frame : Option EncodedFrame) (copied : Bool) :
    (s.Right (.onFrame frame copied) ↔ s.Safe (.onFrame frame copied)) ∧
      (s.Right (.onFrame frame copied) → (s.step (.onFrame frame copied)).Sound) := by
  have hsame : s.step (.onFrame frame copied) = s → s.Right (.onFrame frame copied) ∧
      (s.step (.onFrame frame copied)).Sound := by
    intro hsame
    have hsound : (s.step (.onFrame frame copied)).Sound := by rwa [hsame]
    exact ⟨hsound.right, hsound⟩
  cases hdecoder : s.audioDecoder with
  | false =>
    obtain ⟨hright, hsound⟩ := hsame (by simp [step, onFrame, hdecoder])
    exact ⟨iff_of_true hright (by simp [Safe, hdecoder]), fun _ => hsound⟩
  | true =>
    cases hqueue : s.inBufferQueue with
    | nil =>
      obtain ⟨hright, hsound⟩ := hsame (by simp [step, onFrame, hdecoder, hqueue])
      exact ⟨iff_of_true hright (by simp [Safe, hqueue]), fun _ => hsound⟩
    | cons entry rest =>
      have hinputs : s.inputs.Balanced (entry.1.toUInt32 :: rest.map (·.1.toUInt32)) := by
        simpa only [keptInputs, hqueue, List.map_cons] using hs.inputs
      by_cases hcopy : ∃ f, frame = some f ∧ f.data = true ∧ f.size ≤ entry.2.size ∧ copied = true
      · have hsound : (s.step (.onFrame frame copied)).Sound := by
          obtain ⟨f, rfl, hdata, hsize, rfl⟩ := hcopy
          have hstep : s.step (.onFrame (some f) true) =
              { s with inBufferQueue := rest, inputs := s.inputs.giveBack entry.1.toUInt32 } := by
            simp [step, onFrame, queueInputBuffer, hdecoder, hqueue, hdata, Int32.not_lt.mpr hsize]
          rw [hstep]
          exact ⟨hs.outputs, hinputs.giveBack, hs.decoder⟩
        exact ⟨iff_of_true hsound.right (by simpa [Safe, hqueue] using fun _ => hcopy), fun _ => hsound⟩
      · have hstep : s.step (.onFrame frame copied) = { s with inBufferQueue := rest } :=
          onFrame_lost hdecoder hqueue hcopy
        have hlost : (s.step (.onFrame frame copied)).inputs.Balanced
            (entry.1.toUInt32 :: (s.step (.onFrame frame copied)).keptInputs) := by
          rw [hstep]
          exact hinputs
        have hnot := not_right_of_lost (Or.inr hlost)
        have hunsafe : ¬ s.Safe (.onFrame frame copied) := fun h =>
          hcopy (h hdecoder entry (by rw [hqueue]; rfl))
        exact ⟨iff_of_false hnot hunsafe, fun h => absurd h hnot⟩

/-- A buffer that has been made available, before it is looked at. -/
def madeAvailable (s : AudioAvCodecDecoder) (index : UInt32) : AudioAvCodecDecoder :=
  { s with outputs := s.outputs.lend index }

theorem onOutputBufferAvailable_lost {index : UInt32} {size : Int32} {eos : Bool}
    {buffer : Option AVSharedMemory} {nowTimeUs : Int}
    (h : ¬ s.Safe (.onOutputBufferAvailable index size eos buffer nowTimeUs)) :
    s.onOutputBufferAvailable index size eos buffer nowTimeUs = s.madeAvailable index := by
  unfold onOutputBufferAvailable
  dsimp only
  split
  · rfl
  split
  · rfl
  cases buffer with
  | none => rfl
  | some buffer =>
    dsimp only
    split
    · rfl
    · rename_i hdecoder heos hsize
      obtain ⟨hpos, hle⟩ := not_or.mp hsize
      exact absurd ⟨by simpa using hdecoder, by simpa using heos, buffer, rfl, Int32.not_le.mp hpos,
        Int32.not_lt.mp hle⟩ h

theorem onOutputBufferAvailable_kept {index : UInt32} {size : Int32} {eos : Bool}
    {buffer : Option AVSharedMemory} {nowTimeUs : Int}
    (h : s.Safe (.onOutputBufferAvailable index size eos buffer nowTimeUs)) :
    s.onOutputBufferAvailable index size eos buffer nowTimeUs =
      ((s.madeAvailable index).isNeedDropFrame nowTimeUs).1.render
        { index, isNeedDrop := ((s.madeAvailable index).isNeedDropFrame nowTimeUs).2 } := by
  obtain ⟨hdecoder, rfl, b, rfl, hpos, hle⟩ := h
  have hsize : ¬ (size ≤ 0 ∨ size > b.size) :=
    not_or.mpr ⟨Int32.not_le.mpr hpos, Int32.not_lt.mpr hle⟩
  unfold onOutputBufferAvailable
  dsimp only
  rw [if_neg (by simp [hdecoder]), if_neg Bool.false_ne_true, if_neg hsize]
  rfl

theorem isNeedDropFrame_same (s : AudioAvCodecDecoder) (nowTimeUs : Int) :
    ∃ isForceDrop lastDropTimeUs, (s.isNeedDropFrame nowTimeUs).1 =
      { s with isForceDrop := isForceDrop, lastDropTimeUs := lastDropTimeUs } := by
  rw [isNeedDropFrame]
  split
  · exact ⟨_, _, rfl⟩
  · exact ⟨s.isForceDrop, s.lastDropTimeUs, rfl⟩

/-- A buffer that is not looked at to the end is not released. -/
theorem Sound.onOutputBufferAvailable_right_iff (hs : s.Sound) {index : UInt32}
    (hreturned : s.outputs.lent index = s.outputs.returned index) (size : Int32) (eos : Bool)
    (buffer : Option AVSharedMemory) (nowTimeUs : Int)
    (hmove : move = .onOutputBufferAvailable index size eos buffer nowTimeUs) :
    (s.Right move ↔ s.Safe move) ∧ (s.Right move → (s.step move).Sound) := by
  subst hmove
  have hlent := hs.outputs.lend hreturned
  by_cases hsafe : s.Safe (.onOutputBufferAvailable index size eos buffer nowTimeUs)
  · have hsound : (s.step (.onOutputBufferAvailable index size eos buffer nowTimeUs)).Sound := by
      rw [step, onOutputBufferAvailable_kept hsafe]
      obtain ⟨isForceDrop, lastDropTimeUs, hsame⟩ := isNeedDropFrame_same (s.madeAvailable index) nowTimeUs
      rw [hsame]
      exact sound_render hsafe.1 hlent hs.inputs
    exact ⟨iff_of_true hsound.right hsafe, fun _ => hsound⟩
  · have hlost : (s.step (.onOutputBufferAvailable index size eos buffer nowTimeUs)).outputs.Balanced
        (index :: (s.step (.onOutputBufferAvailable index size eos buffer nowTimeUs)).keptOutputs) := by
      rw [step, onOutputBufferAvailable_lost hsafe]
      exact hlent
    have hnot := not_right_of_lost (Or.inl hlost)
    exact ⟨iff_of_false hnot hsafe, fun h => absurd h hnot⟩

theorem Sound.step (hs : s.Sound) (move : DecoderMove) (hreturned : s.Returned move) :
    (s.Right move ↔ s.Safe move) ∧ (s.Right move → (s.step move).Sound) := by
  have hkept : (s.step move).Sound → s.Safe move →
      (s.Right move ↔ s.Safe move) ∧ (s.Right move → (s.step move).Sound) :=
    fun hsound hsafe => ⟨iff_of_true hsound.right hsafe, fun _ => hsound⟩
  cases move with
  | initDecoder created =>
    exact hkept (hs.of_same rfl rfl rfl rfl fun h => by simp [AudioAvCodecDecoder.step, initDecoder, h]) trivial
  | onInputBufferAvailable index buffer => exact hs.onInputBufferAvailable_right_iff hreturned buffer
  | onFrame frame copied => exact hs.onFrame_right_iff frame copied
  | onOutputBufferAvailable index size eos buffer nowTimeUs =>
    exact hs.onOutputBufferAvailable_right_iff hreturned size eos buffer nowTimeUs rfl
  | renderOutBuffer => exact hkept hs.renderOutBuffer trivial
  | startRender => exact hkept hs.startRender trivial
  | stopRender => exact hkept (hs.of_same rfl rfl rfl rfl id) trivial
  | join => exact hkept hs.join trivial
  | clearRenderBufferQueue => exact hkept hs.clearRenderBufferQueue trivial
  | dropOneFrame => exact hkept (hs.of_same rfl rfl rfl rfl id) trivial

/-- No buffer of a codec that hands each out again only after its return is lost, exactly as long as
the moves are safe. -/
theorem buffers_conserved_iff_safe (moves : List DecoderMove)
    (hcodec : AllMeet AudioAvCodecDecoder.step Returned {} moves) :
    AllMeet AudioAvCodecDecoder.step Right {} moves ↔ AllMeet AudioAvCodecDecoder.step Safe {} moves :=
  AllMeet.congr (I := Sound) (fun _ move hs hreturned => hs.step move hreturned) sound_init hcodec

/-- A frame comes and goes on either side. -/
theorem buffers_conserved_one_frame :
    AllMeet AudioAvCodecDecoder.step Right {} [.initDecoder true, .startRender,
      .onInputBufferAvailable 0 (some ⟨8⟩), .onFrame (some ⟨true, 8⟩) true,
      .onOutputBufferAvailable 0 4 false (some ⟨4⟩) 0, .renderOutBuffer, .renderOutBuffer,
      .renderOutBuffer] := by
  refine (buffers_conserved_iff_safe _ (by decide)).mpr ⟨trivial, trivial, nofun, fun _ => ?_,
    ⟨rfl, rfl, ⟨4⟩, rfl, by decide, by decide⟩, trivial, trivial, trivial, trivial⟩
  rintro _ ⟨⟩
  exact ⟨⟨true, 8⟩, rfl, rfl, by decide, rfl⟩

/-- A buffer is lost to a decoded frame without a size, and one to a null frame for the decoder. -/
theorem malformed_frames_lose :
    (¬ ∀ moves, AllMeet AudioAvCodecDecoder.step Returned {} moves →
      (moves.foldl AudioAvCodecDecoder.step {}).outputs.Balanced
        (moves.foldl AudioAvCodecDecoder.step {}).keptOutputs) ∧
    ¬ ∀ moves, AllMeet AudioAvCodecDecoder.step Returned {} moves →
      (moves.foldl AudioAvCodecDecoder.step {}).inputs.Balanced
        (moves.foldl AudioAvCodecDecoder.step {}).keptInputs := by
  constructor
  · intro h
    have hlost := (h [.initDecoder true, .startRender, .onOutputBufferAvailable 0 0 false (some ⟨4⟩) 0]
      (by decide)).lent_eq 0
    revert hlost
    decide
  · intro h
    have hlost := (h [.initDecoder true, .onInputBufferAvailable 0 (some ⟨8⟩), .onFrame none true]
      (by decide)).lent_eq 0
    revert hlost
    decide

end AudioAvCodecDecoder

end WifiDisplay
