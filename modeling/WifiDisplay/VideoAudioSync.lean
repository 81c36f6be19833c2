import Mathlib.Data.List.Chain
import Mathlib.Tactic.SplitIfs
import WifiDisplay.Tally
import WifiDisplay.GuardedRuns

/-! `VideoAudioSync`: which video frames the sink drops so as to keep up with the audio clock, and
the counts that it keeps of frames dropped, much too late and too early. -/

namespace WifiDisplay

def audioLateUs : Int64 := 100 * 1000

def videoLateUs : Int64 := -100 * 1000

def videoTooLateUs : Int64 := -200 * 1000

def consecutiveThreshold : BitVec 32 := 10

structure VideoAudioSync where
  isFirstFrame : Bool := true
  continueDropCount : Int := 0
  /-- Whether `audioPlayController_` is set. -/
  audioPlayController : Bool := false
  videoTooLateCount : BitVec 32 := 0
  audioTooLateCount : BitVec 32 := 0
  videoDropFrameCount : BitVec 32 := 0
  videoTooLateConsecutiveCount : BitVec 32 := 0
  audioTooLateConsecutiveCount : BitVec 32 := 0

namespace VideoAudioSync

/-- What `IsNeedDrop` returns, and whether it calls `DropOneFrame` of the audio. -/
structure Answer where
  needDrop : Bool := false
  dropOneFrame : Bool := false
  deriving DecidableEq

/-- One more consecutive frame: the consecutive count and the count of full groups after it. -/
def countConsecutive (consecutive count : BitVec 32) : BitVec 32 × BitVec 32 :=
  if consecutive + 1 ≥ consecutiveThreshold then (0, count + 1) else (consecutive + 1, count)

def countVideoTooLate (s : VideoAudioSync) : VideoAudioSync :=
  { s with
    videoTooLateConsecutiveCount := (countConsecutive s.videoTooLateConsecutiveCount s.videoTooLateCount).1
    videoTooLateCount := (countConsecutive s.videoTooLateConsecutiveCount s.videoTooLateCount).2 }

def countAudioTooLate (s : VideoAudioSync) : VideoAudioSync :=
  { s with
    audioTooLateConsecutiveCount := (countConsecutive s.audioTooLateConsecutiveCount s.audioTooLateCount).1
    audioTooLateCount := (countConsecutive s.audioTooLateConsecutiveCount s.audioTooLateCount).2 }

/-- `audioPts` is what `GetAudioDecoderTimestamp` returns, if there is a controller. -/
def processAVSyncStrategy (s : VideoAudioSync) (videoTimestamp audioPts : Int64) :
    VideoAudioSync × Answer :=
  if ¬ s.audioPlayController then (s, {})
  else if audioPts = 0 then ({ s with continueDropCount := 0 }, {})
  else
    let earlyUs := videoTimestamp - audioPts
    if earlyUs < videoTooLateUs then ({ s.countVideoTooLate with continueDropCount := 0 }, {})
    else if earlyUs < videoLateUs ∧ s.continueDropCount ≤ 0 then
      ({ s with
          continueDropCount := s.continueDropCount + 1
          videoDropFrameCount := s.videoDropFrameCount + 1 }, { needDrop := true })
    else if earlyUs > audioLateUs then
      ({ s.countAudioTooLate with continueDropCount := 0 }, { dropOneFrame := true })
    else
      ({ s with
          videoTooLateConsecutiveCount := 0
          audioTooLateConsecutiveCount := 0
          continueDropCount := 0 }, {})

def isNeedDrop (s : VideoAudioSync) (videoTimestamp audioPts : Int64) : VideoAudioSync × Answer :=
  if s.isFirstFrame then ({ s with isFirstFrame := false, continueDropCount := 0 }, {})
  else s.processAVSyncStrategy videoTimestamp audioPts

def setAudioPlayController (s : VideoAudioSync) (audioPlayController : Bool) : VideoAudioSync :=
  { s with audioPlayController }

def resetAVSyncExceptionCount (s : VideoAudioSync) : VideoAudioSync :=
  { s with
    videoTooLateCount := 0
    audioTooLateCount := 0
    videoDropFrameCount := 0
    videoTooLateConsecutiveCount := 0
    audioTooLateConsecutiveCount := 0 }

/-! What is to be said of a frame, and the frames of a run. -/

inductive Verdict where
  /-- The first frame, or one without an audio clock to compare it with. -/
  | unjudged
  | tooLate
  | late
  | tooEarly
  | inTime
  deriving DecidableEq

/-- A late frame is dropped, unless the frame before it was. -/
def verdict (s : VideoAudioSync) (videoTimestamp audioPts : Int64) : Verdict :=
  let earlyUs := videoTimestamp - audioPts
  if s.isFirstFrame ∨ ¬ s.audioPlayController ∨ audioPts = 0 then .unjudged
  else if earlyUs < videoTooLateUs then .tooLate
  else if earlyUs < videoLateUs ∧ s.continueDropCount ≤ 0 then .late
  else if earlyUs > audioLateUs then .tooEarly
  else .inTime

inductive Move where
  | isNeedDrop (videoTimestamp audioPts : Int64)
  | setAudioPlayController (audioPlayController : Bool)
  | resetAVSyncExceptionCount

/-- The sync, what `IsNeedDrop` has returned, and the verdicts and answers since the last reset. -/
structure Run where
  sync : VideoAudioSync := {}
  answers : List Bool := []
  counted : List (Verdict × Bool) := []

def Run.step (r : Run) : Move → Run
  | .isNeedDrop videoTimestamp audioPts =>
    let (sync, answer) := r.sync.isNeedDrop videoTimestamp audioPts
    { sync
      answers := r.answers ++ [answer.needDrop]
      counted := r.counted ++ [(r.sync.verdict videoTimestamp audioPts, answer.needDrop)] }
  | .setAudioPlayController audioPlayController =>
    { r with sync := r.sync.setAudioPlayController audioPlayController }
  | .resetAVSyncExceptionCount =>
    { r with sync := r.sync.resetAVSyncExceptionCount, counted := [] }

end VideoAudioSync

end WifiDisplay

/-! Runs of `VideoAudioSync`. No two frames in a row are dropped, and the count of dropped frames
is right. The counts of frames too late and too early are right as long as no count of consecutive
frames outlives its stretch, which only a frame in time sees to. -/

namespace WifiDisplay

open Streaks

namespace VideoAudioSync

variable {s : VideoAudioSync} {r : Run} {interrupts : Bool} {videoTimestamp audioPts : Int64}

/-- The verdicts on the frames since the last reset. Whether a frame that is not judged counts as one
of another verdict is up to `interrupts`. -/
def Run.verdicts (interrupts : Bool) (r : Run) : List Verdict :=
  (r.counted.map Prod.fst).filter fun v => interrupts || v ≠ .unjudged

structure Run.Right (interrupts : Bool) (r : Run) : Prop where
  apart : r.answers.IsChain fun dropped next : Bool => ¬ (dropped ∧ next)
  drops : r.sync.videoDropFrameCount.toNat = r.counted.countP Prod.snd
  tooLate : r.sync.videoTooLateCount.toNat = groups 10 .tooLate (r.verdicts interrupts)
  tooEarly : r.sync.audioTooLateCount.toNat = groups 10 .tooEarly (r.verdicts interrupts)

/-- A stretch that begins finds the consecutive count at 0, and the count that a tenth frame is to
increase is not at its end. -/
def StartsAfresh (streak : Nat) (consecutive count : BitVec 32) : Prop :=
  (streak = 0 → consecutive = 0) ∧
    (consecutive + 1 ≥ consecutiveThreshold → count.toNat + 1 < 2 ^ 32)

def Run.AfreshFor (interrupts : Bool) (r : Run) : Verdict → Prop
  | .tooLate => StartsAfresh (streak .tooLate (r.verdicts interrupts))
      r.sync.videoTooLateConsecutiveCount r.sync.videoTooLateCount
  | .tooEarly => StartsAfresh (streak .tooEarly (r.verdicts interrupts))
      r.sync.audioTooLateConsecutiveCount r.sync.audioTooLateCount
  | .late => r.sync.videoDropFrameCount.toNat + 1 < 2 ^ 32
  | _ => True

def Run.Afresh (interrupts : Bool) (r : Run) : Move → Prop
  | .isNeedDrop videoTimestamp audioPts =>
    r.AfreshFor interrupts (r.sync.verdict videoTimestamp audioPts)
  | _ => True

instance (streak : Nat) (consecutive count : BitVec 32) :
    Decidable (StartsAfresh streak consecutive count) :=
  inferInstanceAs (Decidable (_ ∧ _))

instance (interrupts : Bool) (r : Run) : (v : Verdict) → Decidable (r.AfreshFor interrupts v)
  | .tooLate | .tooEarly => inferInstanceAs (Decidable (StartsAfresh _ _ _))
  | .late => inferInstanceAs (Decidable (_ < _))
  | .unjudged | .inTime => .isTrue trivial

instance (interrupts : Bool) (r : Run) : (move : Move) → Decidable (r.Afresh interrupts move)
  | .isNeedDrop .. => inferInstanceAs (Decidable (r.AfreshFor interrupts _))
  | .setAudioPlayController _ | .resetAVSyncExceptionCount => .isTrue trivial

/-- `IsNeedDrop` by the verdict on the frame. -/
theorem isNeedDrop_eq (s : VideoAudioSync) (videoTimestamp audioPts : Int64) :
    s.isNeedDrop videoTimestamp audioPts =
      match s.verdict videoTimestamp audioPts with
      | .unjudged =>
        ({ s with
            isFirstFrame := false
            continueDropCount :=
              if s.isFirstFrame ∨ s.audioPlayController then 0 else s.continueDropCount }, {})
      | .tooLate => ({ s.countVideoTooLate with continueDropCount := 0 }, {})
      | .late =>
        ({ s with
            continueDropCount := s.continueDropCount + 1
            videoDropFrameCount := s.videoDropFrameCount + 1 }, { needDrop := true })
      | .tooEarly => ({ s.countAudioTooLate with continueDropCount := 0 }, { dropOneFrame := true })
      | .inTime =>
        ({ s with
            videoTooLateConsecutiveCount := 0
            audioTooLateConsecutiveCount := 0
            continueDropCount := 0 }, {}) := by
  by_cases hfirst : s.isFirstFrame
  · simp [isNeedDrop, verdict, hfirst]
  · by_cases hcontroller : s.audioPlayController
    · by_cases hpts : audioPts = 0
      · simp [isNeedDrop, verdict, processAVSyncStrategy, hfirst, hcontroller, hpts]
      · simp only [isNeedDrop, verdict, processAVSyncStrategy, hfirst, hcontroller, hpts]
        split_ifs <;> first | rfl | simp_all
    · obtain ⟨isFirstFrame, _, audioPlayController⟩ := s
      obtain rfl : isFirstFrame = false := by simpa using hfirst
      obtain rfl : audioPlayController = false := by simpa using hcontroller
      simp [isNeedDrop, verdict, processAVSyncStrategy]

/-- One count of full groups, with its count of consecutive frames. -/
structure Counts (a : Verdict) (verdicts : List Verdict) (consecutive count : BitVec 32) : Prop where
  full : count.toNat = groups 10 a verdicts
  going : 0 < streak a verdicts → consecutive.toNat = streak a verdicts % 10

variable {a b : Verdict} {verdicts : List Verdict} {consecutive count : BitVec 32}

theorem toNat_add_one (h : count.toNat + 1 < 2 ^ 32) : (count + 1).toNat = count.toNat + 1 := by
  rw [BitVec.toNat_add]
  exact Nat.mod_eq_of_lt h

theorem Counts.self (h : Counts a verdicts consecutive count)
    (hafresh : StartsAfresh (streak a verdicts) consecutive count) :
    Counts a (verdicts ++ [a]) (countConsecutive consecutive count).1
      (countConsecutive consecutive count).2 := by
  have hgoing : consecutive.toNat = streak a verdicts % 10 := by
    rcases Nat.eq_zero_or_pos (streak a verdicts) with hzero | hpos
    · rw [hafresh.1 hzero, hzero]
      rfl
    · exact h.going hpos
  have hsucc : (consecutive + 1).toNat = consecutive.toNat + 1 := toNat_add_one (by omega)
  have hge : consecutive + 1 ≥ consecutiveThreshold ↔ 10 ∣ streak a verdicts + 1 := by
    rw [ge_iff_le, BitVec.le_def, hsucc, hgoing]
    show 10 ≤ _ ↔ _
    omega
  rw [countConsecutive]
  by_cases hfull : 10 ∣ streak a verdicts + 1
  · rw [if_pos (hge.mpr hfull)]
    refine ⟨?_, fun _ => ?_⟩
    · rw [toNat_add_one (hafresh.2 (hge.mpr hfull)), groups_append_self, if_pos hfull, h.full]
    · rw [streak_append_self, Nat.mod_eq_zero_of_dvd hfull]
      rfl
  · rw [if_neg (mt hge.mp hfull)]
    refine ⟨?_, fun _ => ?_⟩
    · rw [groups_append_self, if_neg hfull, h.full]
      rfl
    · rw [streak_append_self, hsucc]
      omega

theorem Counts.other (h : Counts a verdicts consecutive count) (hb : b ≠ a) (consecutive' : BitVec 32) :
    Counts a (verdicts ++ [b]) consecutive' count where
  full := by rw [groups_append_ne hb, h.full]
  going hpos := by
    rw [streak_append_ne hb] at hpos
    exact absurd hpos (Nat.lt_irrefl 0)

/-- The right counts, and what the source keeps to get them. -/
structure Run.Sound (interrupts : Bool) (r : Run) : Prop extends r.Right interrupts where
  nonneg : 0 ≤ r.sync.continueDropCount
  last : ∀ dropped ∈ r.answers.getLast?, dropped = true → 0 < r.sync.continueDropCount
  lateCounts : Counts .tooLate (r.verdicts interrupts) r.sync.videoTooLateConsecutiveCount
    r.sync.videoTooLateCount
  earlyCounts : Counts .tooEarly (r.verdicts interrupts) r.sync.audioTooLateConsecutiveCount
    r.sync.audioTooLateCount

theorem needDrop_iff (s : VideoAudioSync) (videoTimestamp audioPts : Int64) :
    (s.isNeedDrop videoTimestamp audioPts).2.needDrop = true ↔ s.verdict videoTimestamp audioPts = .late := by
  rw [isNeedDrop_eq]
  cases s.verdict videoTimestamp audioPts <;> simp

theorem not_dropping_of_late (h : s.verdict videoTimestamp audioPts = .late) :
    s.continueDropCount ≤ 0 := by
  simp only [verdict] at h
  split_ifs at h with _ _ hlate
  exact hlate.2

/-- One more frame. -/
theorem verdicts_isNeedDrop (interrupts : Bool) (r : Run) (videoTimestamp audioPts : Int64) :
    (r.step (.isNeedDrop videoTimestamp audioPts)).verdicts interrupts = r.verdicts interrupts ++
      if interrupts || r.sync.verdict videoTimestamp audioPts ≠ .unjudged then
        [r.sync.verdict videoTimestamp audioPts]
      else [] := by
  simp only [Run.step, Run.verdicts, List.map_append, List.map_singleton, List.filter_append]
  congr 1
  split <;> simp_all

theorem Run.Sound.isChain_isNeedDrop (h : r.Sound interrupts) :
    (r.step (.isNeedDrop videoTimestamp audioPts)).answers.IsChain
      fun dropped next : Bool => ¬ (dropped ∧ next) := by
  refine List.isChain_append.mpr ⟨h.apart, .singleton _, ?_⟩
  rintro last hlast next hnext ⟨rfl, rfl⟩
  have hpos := h.last true hlast rfl
  have hlate := (needDrop_iff r.sync videoTimestamp audioPts).mp (Option.some.inj hnext)
  have hle := not_dropping_of_late hlate
  omega

theorem Run.Sound.drops_isNeedDrop (h : r.Sound interrupts)
    (hafresh : r.Afresh interrupts (.isNeedDrop videoTimestamp audioPts)) :
    (r.step (.isNeedDrop videoTimestamp audioPts)).sync.videoDropFrameCount.toNat =
      (r.step (.isNeedDrop videoTimestamp audioPts)).counted.countP Prod.snd := by
  simp only [Run.step, List.countP_append, ← h.drops, isNeedDrop_eq]
  cases hverdict : r.sync.verdict videoTimestamp audioPts
  case late =>
    rw [Run.Afresh, hverdict] at hafresh
    simpa using toNat_add_one hafresh
  all_goals rfl

/-- The counts of the frames of verdict `a` over one frame more. -/
theorem Counts.isNeedDrop (h : Counts a (r.verdicts interrupts) consecutive count) (ha : a ≠ .unjudged)
    {consecutive' count' : BitVec 32}
    (hself : r.sync.verdict videoTimestamp audioPts = a →
      consecutive' = (countConsecutive consecutive count).1 ∧ count' = (countConsecutive consecutive count).2 ∧
        StartsAfresh (streak a (r.verdicts interrupts)) consecutive count)
    (hother : r.sync.verdict videoTimestamp audioPts ≠ a → count' = count)
    (hunjudged : r.sync.verdict videoTimestamp audioPts = .unjudged → consecutive' = consecutive) :
    Counts a ((r.step (.isNeedDrop videoTimestamp audioPts)).verdicts interrupts) consecutive' count' := by
  rw [verdicts_isNeedDrop]
  by_cases hverdict : r.sync.verdict videoTimestamp audioPts = a
  · obtain ⟨rfl, rfl, hafresh⟩ := hself hverdict
    rw [hverdict, if_pos (by simp [ha])]
    exact h.self hafresh
  · rw [hother hverdict]
    split
    · exact h.other hverdict consecutive'
    · rename_i hcond
      rw [List.append_nil, hunjudged (by simp_all)]
      exact h

theorem Run.Sound.isNeedDrop (h : r.Sound interrupts)
    (hafresh : r.Afresh interrupts (.isNeedDrop videoTimestamp audioPts)) :
    (r.step (.isNeedDrop videoTimestamp audioPts)).Sound interrupts := by
  have hlateCounts : Counts .tooLate ((r.step (.isNeedDrop videoTimestamp audioPts)).verdicts interrupts)
      (r.sync.isNeedDrop videoTimestamp audioPts).1.videoTooLateConsecutiveCount
      (r.sync.isNeedDrop videoTimestamp audioPts).1.videoTooLateCount := by
    refine h.lateCounts.isNeedDrop (by decide) (fun hverdict => ?_) (fun hverdict => ?_) fun hverdict => ?_
    · rw [Run.Afresh, hverdict] at hafresh
      rw [isNeedDrop_eq, hverdict]
      exact ⟨rfl, rfl, hafresh⟩
    · rw [isNeedDrop_eq]
      cases hv : r.sync.verdict videoTimestamp audioPts
      case tooLate => exact absurd hv hverdict
      all_goals rfl
    · rw [isNeedDrop_eq, hverdict]
  have hearlyCounts : Counts .tooEarly ((r.step (.isNeedDrop videoTimestamp audioPts)).verdicts interrupts)
      (r.sync.isNeedDrop videoTimestamp audioPts).1.audioTooLateConsecutiveCount
      (r.sync.isNeedDrop videoTimestamp audioPts).1.audioTooLateCount := by
    refine h.earlyCounts.isNeedDrop (by decide) (fun hverdict => ?_) (fun hverdict => ?_) fun hverdict => ?_
    · rw [Run.Afresh, hverdict] at hafresh
      rw [isNeedDrop_eq, hverdict]
      exact ⟨rfl, rfl, hafresh⟩
    · rw [isNeedDrop_eq]
      cases hv : r.sync.verdict videoTimestamp audioPts
      case tooEarly => exact absurd hv hverdict
      all_goals rfl
    · rw [isNeedDrop_eq, hverdict]
  have hnonneg := h.nonneg
  refine ⟨⟨h.isChain_isNeedDrop, h.drops_isNeedDrop hafresh, hlateCounts.full,
    hearlyCounts.full⟩, ?_, ?_, hlateCounts, hearlyCounts⟩
  · show 0 ≤ (r.sync.isNeedDrop videoTimestamp audioPts).1.continueDropCount
    rw [isNeedDrop_eq]
    cases r.sync.verdict videoTimestamp audioPts
    case unjudged =>
      dsimp only
      split <;> omega
    all_goals simp; try omega
  · intro dropped hdropped hdrop
    have hanswer : dropped = (r.sync.isNeedDrop videoTimestamp audioPts).2.needDrop := by
      simpa [Run.step] using hdropped.symm
    have hverdict := (needDrop_iff r.sync videoTimestamp audioPts).mp (hanswer ▸ hdrop)
    show 0 < (r.sync.isNeedDrop videoTimestamp audioPts).1.continueDropCount
    rw [isNeedDrop_eq, hverdict]
    dsimp only
    omega

theorem Run.Sound.step (h : r.Sound interrupts) {move : Move} (hafresh : r.Afresh interrupts move) :
    (r.step move).Sound interrupts := by
  cases move with
  | isNeedDrop videoTimestamp audioPts => exact h.isNeedDrop hafresh
  | setAudioPlayController audioPlayController =>
    exact ⟨⟨h.apart, h.drops, h.tooLate, h.tooEarly⟩, h.nonneg, h.last, h.lateCounts, h.earlyCounts⟩
  | resetAVSyncExceptionCount =>
    have hcounts (a : Verdict) : Counts a [] 0 0 := ⟨rfl, fun hpos => absurd hpos (Nat.lt_irrefl 0)⟩
    exact ⟨⟨h.apart, rfl, (hcounts _).full, (hcounts _).full⟩, h.nonneg, h.last, hcounts _, hcounts _⟩

/-- In a run whose consecutive counts all start afresh the counts are right, with either reading of
a frame that is not judged. -/
theorem run_counts_right (interrupts : Bool) (moves : List Move)
    (h : AllMeet Run.step (Run.Afresh interrupts) {} moves) :
    (moves.foldl Run.step {}).Right interrupts := by
  have hcounts (a : Verdict) : Counts a [] 0 0 := ⟨rfl, fun hpos => absurd hpos (Nat.lt_irrefl 0)⟩
  have hinit : Run.Sound interrupts {} :=
    ⟨⟨.nil, rfl, (hcounts _).full, (hcounts _).full⟩, le_rfl, nofun, hcounts _, hcounts _⟩
  exact (h.invariant (fun r move hr hafresh => hr.step hafresh) hinit).toRight

/-- Nine frames too late, one in time and eleven too late. -/
def interruptedStretch : List Move :=
  [.setAudioPlayController true, .isNeedDrop 0 0] ++ List.replicate 9 (.isNeedDrop 1 300000) ++
    [.isNeedDrop 1 2] ++ List.replicate 11 (.isNeedDrop 1 300000)

theorem run_counts_right_interrupted : (interruptedStretch.foldl Run.step {}).Right true :=
  run_counts_right true interruptedStretch (by decide +kernel)

/-- Two stretches of five frames too late, with a late one between them that is dropped. -/
def splitStretch : List Move :=
  [.setAudioPlayController true, .isNeedDrop 0 0] ++ List.replicate 5 (.isNeedDrop 1 300000) ++
    [.isNeedDrop 1 150000] ++ List.replicate 5 (.isNeedDrop 1 300000)

/-- They count as one of ten. -/
theorem splitStretch_counted : ¬ ∃ interrupts, ∀ moves : List Move,
    (moves.foldl Run.step {}).Right interrupts := by
  rintro ⟨interrupts, hall⟩
  have hwrong : (splitStretch.foldl Run.step {}).sync.videoTooLateCount.toNat ≠
      groups 10 .tooLate ((splitStretch.foldl Run.step {}).verdicts interrupts) := by
    cases interrupts <;> decide +kernel
  exact hwrong (hall splitStretch).tooLate

end VideoAudioSync

end WifiDisplay
