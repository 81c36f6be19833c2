import Mathlib.Data.List.ReduceOption
import WifiDisplay.FrameMerger

/-! The groups of frames that `FrameMerger` merges: what is in each of them, and that no frame is
lost between two of them. -/

namespace WifiDisplay

namespace FrameMerger

/-- The two types whose groups end at a decodable frame. -/
def Prefixed (type : MergeType) : Prop := type = .h264Prefix ∨ type = .mp4NalSize

/-- Of the two frames, `b` may come behind `a` in one group. -/
def Follows (a b : Frame) : Prop :=
  a.decodeAble = .ok true → b.decodeAble ≠ .ok true ∧ b.configFrame ≠ .ok true

/-- The frames of one group. -/
structure Group (type : MergeType) (group : List Frame) : Prop where
  nonempty : group ≠ []
  size : type ≠ .unknown → group.length ≤ maxFrameCacheSize + 1
  decodeAble : Prefixed type → group.countP (·.decodeAble = .ok true) ≤ 1
  configFrame : Prefixed type → group.Pairwise fun a b => a.decodeAble = .ok true → b.configFrame ≠ .ok true

/-- The cache can be a group at any time. -/
structure Collected (m : FrameMerger) : Prop where
  size : m.type ≠ .unknown → m.frameCache.length ≤ maxFrameCacheSize + 1
  follows : Prefixed m.type → m.frameCache.Pairwise Follows
  flag : m.haveDecodeAbleFrame = false → ∀ frame ∈ m.frameCache, frame.decodeAble ≠ .ok true

/-- The functions of the frame answer, and `maxFrameCacheSize + 1` such frames fit into one buffer. -/
structure Sound (frame : Frame) : Prop where
  keyFrame : ∃ b, frame.keyFrame = .ok b
  configFrame : ∃ b, frame.configFrame = .ok b
  decodeAble : ∃ b, frame.decodeAble = .ok b
  prefixSize : frame.prefixSize ≤ frame.data.length
  size : frame.data.length + 4 ≤ int32Max / (maxFrameCacheSize + 1)

/-- The calls of `cb` hand out `frames`, group after group, but for those still in the cache. -/
def Delivers (m m' : FrameMerger) (frames : List Frame) (outputs : List MergedFrame) : Prop :=
  ∃ groups : List (List Frame), groups.flatten ++ m'.frameCache = m.frameCache ++ frames ∧
    List.Forall₂ (Merges m.type) groups outputs ∧ ∀ group ∈ groups, Group m.type group

variable {m m' : FrameMerger}

/-! One call. -/

theorem willFlush_false {frame : Frame} (hne : m.frameCache ≠ []) (h : m.willFlush (some frame) = .ok false) :
    (m.type ≠ .unknown → m.frameCache.length ≤ maxFrameCacheSize) ∧
      (Prefixed m.type → m.haveDecodeAbleFrame = true →
        frame.decodeAble = .ok false ∧ frame.configFrame = .ok false) := by
  have hback := List.getLast?_eq_some_getLast hne
  simp only [willFlush, hback] at h
  have hfull : ∀ b, (.ok (b || decide (maxFrameCacheSize < m.frameCache.length)) : Except Fault Bool) = .ok false →
      m.frameCache.length ≤ maxFrameCacheSize := by
    intro b hb
    injection hb with hb
    simp only [Bool.or_eq_false_iff, decide_eq_false_iff_not, Nat.not_lt] at hb
    exact hb.2
  have hprefixed : Prefixed m.type →
      m.frameCache.length ≤ maxFrameCacheSize ∧ (m.haveDecodeAbleFrame = true →
        frame.decodeAble = .ok false ∧ frame.configFrame = .ok false) := by
    intro htype
    rcases htype with htype | htype <;> simp only [htype] at h
    all_goals
      split at h
      · rename_i hhave
        exact ⟨hfull false h, fun htrue => absurd (hhave.symm.trans htrue) Bool.false_ne_true⟩
      · split at h
        · cases h
        · obtain ⟨decodeAble, hdecode, h⟩ := bind_eq_ok.mp h
          cases decodeAble with
          | true => cases h
          | false =>
            obtain ⟨configFrame, hconfig, h⟩ := bind_eq_ok.mp h
            cases configFrame with
            | true => cases h
            | false => exact ⟨hfull false h, fun _ => ⟨hdecode, hconfig⟩⟩
  refine ⟨fun hknown => ?_, fun htype => (hprefixed htype).2⟩
  cases htype : m.type with
  | none =>
    simp only [htype] at h
    exact hfull _ h
  | h264Prefix => exact (hprefixed (.inl htype)).1
  | mp4NalSize => exact (hprefixed (.inr htype)).1
  | unknown => exact absurd htype hknown

theorem Collected.clear (m : FrameMerger) : Collected m.clear :=
  ⟨fun _ => Nat.zero_le _, fun _ => .nil, fun _ _ hmem => absurd hmem List.not_mem_nil⟩

/-- The frame that is not behind a flush keeps the cache a group. -/
theorem Collected.caches {frame : Option Frame} (h : Collected m)
    (hroom : ∀ f, frame = some f → m.frameCache = [] ∨ m.willFlush frame = .ok false)
    (hcaches : Caches frame m m') : Collected m' := by
  cases frame with
  | none =>
    rw [show m' = m from hcaches]
    exact h
  | some frame =>
    obtain ⟨decodeAble, hdecode, rfl⟩ := hcaches
    rcases hroom frame rfl with hempty | hflush
    · refine ⟨fun _ => ?_, fun _ => ?_, fun hflag => ?_⟩ <;> simp only [hempty, List.nil_append]
      · exact Nat.succ_le_succ (Nat.zero_le _)
      · exact List.pairwise_singleton _ _
      · rw [List.forall_mem_singleton, hdecode, (Bool.or_eq_false_iff.mp hflag).2]
        rintro ⟨⟩
    · by_cases hempty : m.frameCache = []
      · refine ⟨fun _ => ?_, fun _ => ?_, fun hflag => ?_⟩ <;> simp only [hempty, List.nil_append]
        · exact Nat.succ_le_succ (Nat.zero_le _)
        · exact List.pairwise_singleton _ _
        · rw [List.forall_mem_singleton, hdecode, (Bool.or_eq_false_iff.mp hflag).2]
          rintro ⟨⟩
      · obtain ⟨hsize, hquiet⟩ := willFlush_false hempty hflush
        refine ⟨fun hknown => ?_, fun htype => ?_, fun hflag => ?_⟩
        · rw [List.length_append]
          exact Nat.succ_le_succ (hsize hknown)
        · refine List.pairwise_append.mpr ⟨h.follows htype, List.pairwise_singleton _ _, ?_⟩
          rintro a ha b hb hable
          rw [List.mem_singleton.mp hb]
          have hhave : m.haveDecodeAbleFrame = true := by
            by_contra hno
            exact h.flag (Bool.eq_false_iff.mpr hno) a ha hable
          obtain ⟨hdecode', hconfig⟩ := hquiet htype hhave
          rw [hdecode', hconfig]
          exact ⟨by rintro ⟨⟩, by rintro ⟨⟩⟩
        · obtain ⟨hhave, hable⟩ := Bool.or_eq_false_iff.mp hflag
          rw [List.forall_mem_append, List.forall_mem_singleton, hdecode, hable]
          exact ⟨h.flag hhave, by rintro ⟨⟩⟩

theorem Caches.type {frame : Option Frame} (h : Caches frame m m') : m'.type = m.type := by
  cases frame with
  | none => rw [show m' = m from h]
  | some frame =>
    obtain ⟨decodeAble, -, rfl⟩ := h
    rfl

theorem Caches.frameCache {frame : Option Frame} (h : Caches frame m m') :
    m'.frameCache = m.frameCache ++ frame.toList := by
  cases frame with
  | none => rw [show m' = m from h, Option.toList_none, List.append_nil]
  | some frame =>
    obtain ⟨decodeAble, -, rfl⟩ := h
    rfl

theorem Collected.group (h : Collected m) (hne : m.frameCache ≠ []) : Group m.type m.frameCache where
  nonempty := hne
  size := h.size
  decodeAble htype := by
    have hpairs := ((h.follows htype).filter (·.decodeAble = .ok true))
    rw [List.countP_eq_length_filter]
    cases hfilter : m.frameCache.filter (·.decodeAble = .ok true) with
    | nil => exact Nat.zero_le _
    | cons a rest =>
      cases rest with
      | nil => exact Nat.le_refl _
      | cons b rest =>
        have hmem : ∀ frame ∈ a :: b :: rest, frame.decodeAble = .ok true := by
          intro frame hframe
          rw [← hfilter] at hframe
          exact of_decide_eq_true (List.mem_filter.mp hframe).2
        rw [hfilter] at hpairs
        have hfollows := List.rel_of_pairwise_cons hpairs (List.mem_cons_self (l := rest))
        exact absurd (hmem b (by simp)) (hfollows (hmem a List.mem_cons_self)).1
  configFrame htype := (h.follows htype).imp fun hfollows hable => (hfollows hable).2

/-- One call: the cache is handed out, or not. -/
theorem inputFrame_delivers {frame : Option Frame} {r : Input} (hm : Collected m)
    (h : m.inputFrame frame (some []) = .ok r) :
    Collected r.merger ∧ r.merger.type = m.type ∧ Delivers m r.merger frame.toList r.outputs := by
  rcases inputFrame_eq_ok h with ⟨hflush, houtputs, hcaches⟩ | ⟨hflush, output, houtputs, hmerges, hcaches⟩
  · refine ⟨hm.caches (fun _ _ => .inr hflush) hcaches, hcaches.type, [], ?_⟩
    rw [houtputs, hcaches.frameCache]
    exact ⟨rfl, .nil, fun _ hmem => absurd hmem List.not_mem_nil⟩
  · have hne : m.frameCache ≠ [] := by
      intro hempty
      simp [willFlush, hempty] at hflush
    refine ⟨(Collected.clear m).caches (fun _ _ => .inl rfl) hcaches, hcaches.type, [m.frameCache], ?_⟩
    rw [houtputs, hcaches.frameCache]
    refine ⟨?_, .cons hmerges .nil, List.forall_mem_singleton.mpr (hm.group hne)⟩
    rw [List.flatten_cons, List.flatten_nil, List.append_nil]
    rfl

/-! Runs. -/

theorem inputFrames_delivers {frames : List (Option Frame)} {outputs : List MergedFrame} (hm : Collected m)
    (h : inputFrames m frames = .ok (m', outputs)) :
    Collected m' ∧ m'.type = m.type ∧ Delivers m m' frames.reduceOption outputs := by
  induction frames generalizing m outputs with
  | nil =>
    cases h
    exact ⟨hm, rfl, [], (List.append_nil _).symm, .nil, fun _ hmem => absurd hmem List.not_mem_nil⟩
  | cons frame frames ih =>
    obtain ⟨r, hinput, h⟩ := bind_eq_ok.mp h
    obtain ⟨⟨m'', outputs'⟩, hrest, h⟩ := bind_eq_ok.mp h
    cases h
    obtain ⟨hr, htype, groups, hflat, hmerges, hgroups⟩ := inputFrame_delivers hm hinput
    obtain ⟨hm', htype', groups', hflat', hmerges', hgroups'⟩ := ih hr hrest
    rw [htype] at htype' hmerges' hgroups'
    refine ⟨hm', htype', groups ++ groups', ?_, List.rel_append hmerges hmerges',
      List.forall_mem_append.mpr ⟨hgroups, hgroups'⟩⟩
    have hframes : (frame :: frames).reduceOption = frame.toList ++ frames.reduceOption := by
      cases frame <;> simp
    rw [List.flatten_append, List.append_assoc, hflat', ← List.append_assoc, hflat, hframes, List.append_assoc]

/-! The calls answer. -/

theorem length_mergedBytes_le (type : MergeType) (frame : Frame) :
    (mergedBytes type frame).length ≤ frame.data.length + 4 := by
  cases type with
  | none => exact Nat.le_add_right _ _
  | h264Prefix =>
    rw [mergedBytes]
    split
    · exact Nat.le_add_right _ _
    · rw [List.length_append, Nat.add_comm]
      exact Nat.le_refl _
  | mp4NalSize =>
    have hnetwork : (networkBytes (naluSize frame)).length = 4 := rfl
    rw [mergedBytes, List.length_append, hnetwork]
    split
    · exact Nat.le_add_left _ _
    · rw [List.length_take, List.length_drop]
      omega
  | unknown => exact Nat.zero_le _

theorem pushData_isOk {buffer data : List Byte} (h : buffer.length + data.length ≤ int32Max) :
    pushData buffer data = .ok (buffer ++ data) := if_pos h

theorem doMerge_isOk (type : MergeType) {merged : List Byte} {frame : Frame}
    (hwithin : frame.prefixSize ≤ frame.data.length)
    (hsize : merged.length + (frame.data.length + 4) ≤ int32Max) :
    doMerge type merged frame = .ok (merged ++ mergedBytes type frame) := by
  have hok : ∃ merged', doMerge type merged frame = .ok merged' := by
    cases type with
    | none => exact ⟨_, pushData_isOk (by omega)⟩
    | h264Prefix =>
      have hcode : avcStartCode.length = 4 := rfl
      rw [doMerge]
      split
      · exact ⟨_, pushData_isOk (by omega)⟩
      · rw [pushData_isOk (by omega)]
        exact ⟨_, pushData_isOk (by rw [List.length_append]; omega)⟩
    | mp4NalSize =>
      have hnetwork : (networkBytes (naluSize frame)).length = 4 := rfl
      have hmax : int32Max = 2 ^ 31 - 1 := rfl
      have hnalu : (naluSize frame).toNat = frame.data.length - frame.prefixSize := by
        rw [naluSize, BitVec.toNat_ofInt]
        omega
      rw [doMerge, pushData_isOk (by omega)]
      show ∃ merged', appendNalu _ frame = .ok merged'
      rw [appendNalu]
      split
      · exact ⟨_, rfl⟩
      · rw [if_pos (by omega)]
        refine ⟨_, pushData_isOk ?_⟩
        rw [List.length_append, List.length_take, List.length_drop]
        omega
    | unknown => exact ⟨_, rfl⟩
  obtain ⟨merged', hmerge⟩ := hok
  rw [hmerge, doMerge_eq_ok hmerge]

theorem mergeCache_isOk {type : MergeType} {merged : List Byte} {frames : List Frame} (key : Bool)
    (hsound : ∀ frame ∈ frames, Sound frame)
    (hroom : type ≠ .unknown → merged.length + frames.length * (int32Max / (maxFrameCacheSize + 1)) ≤ int32Max) :
    ∃ r, mergeCache type merged key frames = .ok r := by
  induction frames generalizing merged key with
  | nil => exact ⟨_, rfl⟩
  | cons vframe frames ih =>
    obtain ⟨hvframe, hrest⟩ := List.forall_mem_cons.mp hsound
    obtain ⟨keyFrame, hkey⟩ := hvframe.keyFrame
    have hsize := hvframe.size
    have hmerge : ∃ merged', doMerge type merged vframe = .ok merged' ∧
        (type ≠ .unknown → merged'.length + frames.length * (int32Max / (maxFrameCacheSize + 1)) ≤ int32Max) := by
      by_cases htype : type = .unknown
      · subst htype
        exact ⟨merged, rfl, fun h => absurd rfl h⟩
      · have hle := hroom htype
        rw [List.length_cons, Nat.succ_mul] at hle
        refine ⟨_, doMerge_isOk type hvframe.prefixSize (by omega), fun _ => ?_⟩
        have hbytes := length_mergedBytes_le type vframe
        rw [List.length_append]
        omega
    obtain ⟨merged', hmerge, hroom'⟩ := hmerge
    obtain ⟨r, hr⟩ := ih (key || keyFrame) hrest hroom'
    refine ⟨r, bind_eq_ok.mpr ⟨merged', hmerge, bind_eq_ok.mpr ⟨keyFrame, hkey, hr⟩⟩⟩

theorem willFlush_isOk (m : FrameMerger) {frame : Option Frame} (hsound : ∀ f ∈ frame, Sound f) :
    ∃ flush, m.willFlush frame = .ok flush := by
  unfold willFlush
  split
  · exact ⟨_, rfl⟩
  · exact ⟨_, rfl⟩
  · rename_i back frame hback
    obtain ⟨configFrame, hconfig⟩ := (hsound frame rfl).configFrame
    obtain ⟨decodeAble, hdecode⟩ := (hsound frame rfl).decodeAble
    cases m.type with
    | none => exact ⟨_, rfl⟩
    | unknown => exact ⟨_, rfl⟩
    | h264Prefix | mp4NalSize =>
      simp only [hconfig, hdecode]
      split
      · exact ⟨_, rfl⟩
      · split
        · exact ⟨_, rfl⟩
        · cases decodeAble <;> cases configFrame <;> exact ⟨_, rfl⟩

theorem cacheFrame_isOk (m : FrameMerger) {frame : Option Frame} (hsound : ∀ f ∈ frame, Sound f)
    (buffer : Option (List Byte)) (outputs : List MergedFrame) :
    ∃ r, m.cacheFrame frame buffer outputs = .ok r := by
  cases frame with
  | none => exact ⟨_, rfl⟩
  | some frame =>
    obtain ⟨decodeAble, hdecode⟩ := (hsound frame rfl).decodeAble
    exact ⟨_, bind_eq_ok.mpr ⟨decodeAble, hdecode, rfl⟩⟩

theorem inputFrame_isOk (hm : Collected m) (hcache : ∀ frame ∈ m.frameCache, Sound frame) {frame : Option Frame}
    (hsound : ∀ f ∈ frame, Sound f) : ∃ r, m.inputFrame frame (some []) = .ok r := by
  obtain ⟨flush, hflush⟩ := willFlush_isOk m hsound
  unfold inputFrame
  simp only [hflush]
  cases flush with
  | false => exact cacheFrame_isOk m hsound _ _
  | true =>
    have htrue : (Except.ok true : Except Fault Bool) = pure true := rfl
    rw [htrue, pure_bind, if_pos rfl]
    cases hback : m.frameCache.getLast? with
    | none => exact ⟨_, rfl⟩
    | some back =>
      obtain ⟨keyFrame, hkey⟩ := (hcache back (List.mem_of_getLast? hback)).keyFrame
      have hroom : m.type ≠ .unknown →
          ([] : List Byte).length + m.frameCache.length * (int32Max / (maxFrameCacheSize + 1)) ≤ int32Max := by
        intro htype
        have hsize := Nat.mul_le_mul_right (int32Max / (maxFrameCacheSize + 1)) (hm.size htype)
        rw [List.length_nil, Nat.zero_add]
        exact hsize.trans (Nat.mul_div_le _ _)
      obtain ⟨⟨bytes, haveKeyFrame⟩, hmerge⟩ := mergeCache_isOk keyFrame hcache hroom
      obtain ⟨r, hr⟩ := cacheFrame_isOk m.clear hsound (some bytes)
        [{ dts := back.dts, pts := back.pts.setWidth 32, buffer := bytes, haveKeyFrame }]
      exact ⟨r, bind_eq_ok.mpr ⟨keyFrame, hkey, bind_eq_ok.mpr ⟨(bytes, haveKeyFrame), hmerge, hr⟩⟩⟩

theorem inputFrames_isOk {frames : List (Option Frame)} (hm : Collected m)
    (hcache : ∀ frame ∈ m.frameCache, Sound frame) (hsound : ∀ frame ∈ frames.reduceOption, Sound frame) :
    ∃ r, inputFrames m frames = .ok r := by
  induction frames generalizing m with
  | nil => exact ⟨_, rfl⟩
  | cons frame frames ih =>
    have hframes : (frame :: frames).reduceOption = frame.toList ++ frames.reduceOption := by
      cases frame <;> simp
    rw [hframes, List.forall_mem_append] at hsound
    have hframe : ∀ f ∈ frame, Sound f := fun f hf => hsound.1 f (Option.mem_toList.mpr hf)
    obtain ⟨r, hr⟩ := inputFrame_isOk hm hcache hframe
    have hkept : ∀ frame ∈ r.merger.frameCache, Sound frame := by
      rcases inputFrame_eq_ok hr with ⟨-, -, hcaches⟩ | ⟨-, output, -, -, hcaches⟩
      · rw [hcaches.frameCache, List.forall_mem_append]
        exact ⟨hcache, hsound.1⟩
      · rw [hcaches.frameCache, List.forall_mem_append]
        exact ⟨fun _ hmem => absurd hmem List.not_mem_nil, hsound.1⟩
    obtain ⟨⟨m', outputs⟩, hrest⟩ := ih (inputFrame_delivers hm hr).1 hkept hsound.2
    exact ⟨_, bind_eq_ok.mpr ⟨r, hr, bind_eq_ok.mpr ⟨(m', outputs), hrest, rfl⟩⟩⟩

theorem inputFrames_flushed {frames : List (Option Frame)} {outputs : List MergedFrame}
    (h : inputFrames m (frames ++ [none]) = .ok (m', outputs)) : m'.frameCache = [] := by
  induction frames generalizing m outputs with
  | nil =>
    obtain ⟨r, hinput, h⟩ := bind_eq_ok.mp h
    cases h
    rcases inputFrame_eq_ok hinput with ⟨hflush, -, hcaches⟩ | ⟨-, output, -, -, hcaches⟩
    · rw [hcaches.frameCache, Option.toList_none, List.append_nil]
      by_contra hne
      simp [willFlush, List.getLast?_eq_some_getLast hne] at hflush
    · rw [hcaches.frameCache]
      rfl
  | cons frame frames ih =>
    obtain ⟨r, -, h⟩ := bind_eq_ok.mp h
    obtain ⟨⟨m'', outputs'⟩, hrest, h⟩ := bind_eq_ok.mp h
    cases h
    exact ih hrest

theorem Collected.empty (type : MergeType) : Collected { type } :=
  ⟨fun _ => Nat.zero_le _, fun _ => .nil, fun _ _ hmem => absurd hmem List.not_mem_nil⟩

/-- With a flush at the end, each frame is in one group, in order, and the groups are as `Group`
says; null frames before it are flushes too. -/
theorem inputFrames_groups (type : MergeType) (frames : List (Option Frame)) :
    (∀ m outputs, inputFrames { type } (frames ++ [none]) = .ok (m, outputs) →
      ∃ groups : List (List Frame), groups.flatten = frames.reduceOption ∧
        List.Forall₂ (Merges type) groups outputs ∧ ∀ group ∈ groups, Group type group) ∧
      ((∀ frame ∈ frames.reduceOption, Sound frame) → ∃ r, inputFrames { type } (frames ++ [none]) = .ok r) := by
  have hframes : (frames ++ [none]).reduceOption = frames.reduceOption := by
    rw [List.reduceOption_append]
    exact List.append_nil _
  refine ⟨fun m outputs h => ?_, fun hsound => ?_⟩
  · obtain ⟨-, -, groups, hflat, hmerges, hgroups⟩ := inputFrames_delivers (Collected.empty type) h
    rw [inputFrames_flushed h, List.append_nil, hframes] at hflat
    exact ⟨groups, hflat, hmerges, hgroups⟩
  · refine inputFrames_isOk (Collected.empty type) (fun _ hmem => absurd hmem List.not_mem_nil) ?_
    rwa [hframes]

/-- The first slice of a picture, without a start code. -/
def idrSlice : H264Frame := { data := [0x65, 0x80] }

def spsUnit : H264Frame := { data := [0, 0, 1, 0x67, 0x42], prefixSize := 3 }

theorem sound_toFrame {f : H264Frame} (hnal : f.prefixSize < f.data.length)
    (hsize : f.data.length + 4 ≤ int32Max / (maxFrameCacheSize + 1)) : Sound f.toFrame where
  keyFrame := by
    rw [H264Frame.toFrame, H264Frame.nalByte, List.getElem?_eq_getElem hnal]
    exact ⟨_, rfl⟩
  configFrame := by
    rw [H264Frame.toFrame, H264Frame.nalByte, List.getElem?_eq_getElem hnal]
    exact ⟨_, rfl⟩
  decodeAble := ⟨_, if_neg (Nat.not_lt.mpr (Nat.le_of_lt hnal))⟩
  prefixSize := Nat.le_of_lt hnal
  size := hsize

theorem inputFrames_groups_twoSlices :
    ∃ m outputs, inputFrames { type := .h264Prefix }
        ([some spsUnit.toFrame, some idrSlice.toFrame, some idrSlice.toFrame] ++ [none]) = .ok (m, outputs) ∧
      ∃ groups : List (List Frame), groups.flatten = [spsUnit.toFrame, idrSlice.toFrame, idrSlice.toFrame] ∧
        List.Forall₂ (Merges .h264Prefix) groups outputs ∧ ∀ group ∈ groups, Group .h264Prefix group := by
  obtain ⟨hgroups, hok⟩ := inputFrames_groups .h264Prefix
    [some spsUnit.toFrame, some idrSlice.toFrame, some idrSlice.toFrame]
  have hsps : Sound spsUnit.toFrame := sound_toFrame (by decide) (by decide)
  have hidr : Sound idrSlice.toFrame := sound_toFrame (by decide) (by decide)
  obtain ⟨⟨m, outputs⟩, h⟩ := hok
    (List.forall_mem_cons.mpr ⟨hsps, List.forall_mem_cons.mpr ⟨hidr, List.forall_mem_singleton.mpr hidr⟩⟩)
  exact ⟨m, outputs, h, hgroups m outputs h⟩

/-- Without a start code and with one time stamp, two slices are one group of type `none`. -/
theorem none_twoDecodable :
    ∃ m outputs, inputFrames { type := .none } ([some idrSlice.toFrame, some idrSlice.toFrame] ++ [none]) =
        .ok (m, outputs) ∧
      ¬ ∃ groups : List (List Frame), groups.flatten = [idrSlice.toFrame, idrSlice.toFrame] ∧
        List.Forall₂ (Merges .none) groups outputs ∧ ∀ group ∈ groups, group.countP (·.decodeAble = .ok true) ≤ 1 := by
  refine ⟨{ type := .none }, [{ dts := 0, pts := 0, buffer := [0x65, 0x80, 0x65, 0x80], haveKeyFrame := true }],
    rfl, ?_⟩
  rintro ⟨groups, hflat, hmerges, hcount⟩
  have hlen := hmerges.length_eq
  obtain ⟨group, rfl⟩ := List.length_eq_one_iff.mp hlen
  rw [List.flatten_cons, List.flatten_nil, List.append_nil] at hflat
  have hle := hcount group List.mem_cons_self
  rw [hflat] at hle
  exact absurd hle (by decide)

end FrameMerger

end WifiDisplay
