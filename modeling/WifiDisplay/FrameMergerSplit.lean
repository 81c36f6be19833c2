import WifiDisplay.FrameMergerGroups
import WifiDisplay.SplitH264

/-! What `FrameMerger` merges with start codes, `SplitH264` takes apart again. -/

namespace WifiDisplay

namespace SplitH264

def IsCode (code : List Byte) : Prop := code = startCode ∨ code = 0 :: startCode

/-- The bytes of a NAL unit can be told from the start codes around it. -/
structure Plain (nal : List Byte) : Prop where
  nonempty : nal ≠ []
  interior : ¬ startCode <:+: nal
  last : nal.getLast? ≠ some 0

/-- No start code begins in front of the last three bytes of the code behind the unit. -/
theorem not_codeAt_nal {bytes nal code rest : List Byte} {start j : Nat} (hnal : Plain nal) (hcode : IsCode code)
    (hdrop : bytes.drop start = nal ++ (code ++ rest)) (hj : start ≤ j)
    (hlt : j + 3 < start + nal.length + code.length) : ¬ CodeAt bytes j := by
  intro hat
  obtain ⟨k, rfl⟩ := Nat.exists_eq_add_of_le hj
  have hget : ∀ d, bytes[start + k + d]? = (nal ++ (code ++ rest))[k + d]? := by
    intro d
    rw [← hdrop, List.getElem?_drop, Nat.add_assoc]
  obtain ⟨hzero, -, hone⟩ := codeAt_iff.mp hat
  rw [hget] at hone
  by_cases hinside : k + 3 ≤ nal.length
  · have htake : (bytes.drop start).take nal.length = nal := by rw [hdrop, List.take_left]
    refine hnal.interior (htake ▸ infix_take_iff.mpr ⟨start + k, hj, ?_, hat⟩)
    rw [Nat.add_assoc]
    exact Nat.add_le_add_left hinside start
  · by_cases hlast : k + 1 = nal.length
    · have hget0 := hget 0
      rw [Nat.add_zero, Nat.add_zero, List.getElem?_append_left (by omega)] at hget0
      refine hnal.last ?_
      rw [List.getLast?_eq_getElem?, ← hlast, Nat.add_sub_cancel, ← hget0]
      exact hzero
    · rw [List.getElem?_append_right (by omega), List.getElem?_append_left (by omega)] at hone
      rcases hcode with rfl | rfl
      · have hplace : k + 2 - nal.length = 0 := by
          simp only [startCode, List.length_cons, List.length_nil] at hlt
          omega
        rw [hplace] at hone
        cases hone
      · have hplace : k + 2 - nal.length = 0 ∨ k + 2 - nal.length = 2 := by
          simp only [startCode, List.length_cons, List.length_nil] at hlt
          omega
        rcases hplace with hplace | hplace <;> rw [hplace] at hone <;> cases hone

/-- The search finds the three bytes of the code behind the unit. -/
theorem memFind_nal {bytes nal code rest : List Byte} {start : Nat} (hnal : Plain nal) (hcode : IsCode code)
    (hrest : rest ≠ []) (hdrop : bytes.drop start = nal ++ (code ++ rest)) :
    memFind (bytes.drop start) startCode = some (nal.length + (code.length - 3)) := by
  have hlen : bytes.length - start = nal.length + (code.length + rest.length) := by
    rw [← List.length_drop, hdrop, List.length_append, List.length_append]
  have hpos := List.length_pos_iff.mpr hrest
  have hthree : 3 ≤ code.length := by rcases hcode with rfl | rfl <;> simp [startCode]
  have hat : CodeAt bytes (start + (nal.length + (code.length - 3))) := by
    rw [CodeAt, ← List.drop_drop, hdrop, ← List.drop_drop, List.drop_left]
    rcases hcode with rfl | rfl
    · exact List.prefix_append _ _
    · exact List.prefix_append startCode rest
  cases hfind : memFind (bytes.drop start) startCode with
  | none => exact absurd hat (memFind_eq_none hfind _ (Nat.le_add_right _ _) (by omega))
  | some i =>
    obtain ⟨hfound, -, hbefore⟩ := memFind_eq_some hfind
    rcases Nat.lt_trichotomy i (nal.length + (code.length - 3)) with hlt | heq | hgt
    · exact absurd hfound (not_codeAt_nal hnal hcode hdrop (Nat.le_add_right _ _) (by omega))
    · rw [heq]
    · exact absurd hat (hbefore _ (Nat.le_add_right _ _) (by omega))

theorem memFind_last {bytes nal : List Byte} {start : Nat} (hnal : Plain nal) (hdrop : bytes.drop start = nal) :
    memFind (bytes.drop start) startCode = none := by
  cases hfind : memFind (bytes.drop start) startCode with
  | none => rfl
  | some i =>
    obtain ⟨hfound, hlt, -⟩ := memFind_eq_some hfind
    have hlen : bytes.length - start = nal.length := by rw [← List.length_drop, hdrop]
    refine absurd (infix_take_iff.mpr ⟨start + i, Nat.le_add_right _ _, ?_, hfound⟩)
      (show ¬ startCode <:+: (bytes.drop start).take nal.length by
        rw [hdrop, List.take_length]
        exact hnal.interior)
    omega

/-- The units, each behind its start code. -/
def concatUnits (units : List (List Byte × List Byte)) : List Byte := units.flatMap fun unit => unit.1 ++ unit.2

/-- From a unit on, the loop hands out that unit and those behind it. -/
theorem loop_units {bytes front nal : List Byte} {pre : Nat} {units : List (List Byte × List Byte)}
    (hpre : pre ≤ front.length) (hnal : Plain nal) (hunits : ∀ unit ∈ units, IsCode unit.1 ∧ Plain unit.2)
    (hbytes : bytes = front ++ (nal ++ concatUnits units)) :
    ∃ slices, (∀ fuel, bytes.length - front.length < fuel → loop bytes fuel front.length pre = some slices) ∧
      slices.map (·.nal bytes) = nal :: units.map Prod.snd := by
  have hdrop : bytes.drop front.length = nal ++ concatUnits units := by rw [hbytes, List.drop_left]
  induction units generalizing front nal pre with
  | nil =>
    have hend : concatUnits [] = [] := rfl
    rw [hend, List.append_nil] at hdrop
    have hfind := memFind_last hnal hdrop
    have hlen : bytes.length + pre - front.length = nal.length + pre := by
      rw [hbytes, hend, List.append_nil, List.length_append]
      omega
    refine ⟨[{ offset := front.length - pre, len := nal.length + pre, prefixSize := pre }], fun fuel hfuel => ?_, ?_⟩
    · obtain ⟨fuel, rfl⟩ := Nat.exists_eq_succ_of_ne_zero (Nat.ne_of_gt (Nat.zero_lt_of_lt hfuel))
      simp only [loop, hfind, hlen]
    · rw [List.map_singleton, nal_eq hpre, hdrop, List.take_length]
      rfl
  | cons unit units ih =>
    obtain ⟨code, next⟩ := unit
    obtain ⟨⟨hcode, hnext⟩, hunits⟩ := List.forall_mem_cons.mp hunits
    have hcons : concatUnits ((code, next) :: units) = code ++ (next ++ concatUnits units) :=
      List.append_assoc _ _ _
    rw [hcons] at hdrop hbytes
    have hrest : next ++ concatUnits units ≠ [] := List.append_ne_nil_of_left_ne_nil hnext.nonempty _
    have hfind := memFind_nal hnal hcode hrest hdrop
    have hbytes' : bytes = (front ++ nal ++ code) ++ (next ++ concatUnits units) := by
      rw [hbytes, List.append_assoc, List.append_assoc]
    have hdrop' : bytes.drop (front ++ nal ++ code).length = next ++ concatUnits units := by
      rw [hbytes', List.drop_left]
    have hlen : (front ++ nal ++ code).length = front.length + nal.length + code.length := by
      rw [List.length_append, List.length_append]
    have hcodeLen : code.length ≤ (front ++ nal ++ code).length := by omega
    obtain ⟨slices, hloop, hslices⟩ := ih hcodeLen hnext hunits hbytes' hdrop'
    have hround : ∀ fuel, loop bytes (fuel + 1) front.length pre =
        (loop bytes fuel (front ++ nal ++ code).length code.length).map
          ({ offset := front.length - pre, len := nal.length + pre, prefixSize := pre } :: ·) := by
      intro fuel
      simp only [loop, hfind]
      have hget : ∀ k, bytes[front.length + k]? = (nal ++ (code ++ (next ++ concatUnits units)))[k]? := by
        intro k
        rw [← hdrop, List.getElem?_drop]
      have hpos := List.length_pos_iff.mpr hnal.nonempty
      rcases hcode with rfl | rfl
      · have hthree : startCode.length - 3 = 0 := rfl
        have hback : ¬ (0 < nal.length ∧ bytes[front.length + nal.length - 1]? = some 0) := by
          rintro ⟨-, hzero⟩
          rw [Nat.add_sub_assoc hpos, hget, List.getElem?_append_left (by omega), ← List.getLast?_eq_getElem?] at hzero
          exact hnal.last hzero
        rw [hthree, Nat.add_zero, if_neg hback, hlen]
        rfl
      · have hfour : (0 :: startCode : List Byte).length - 3 = 1 := rfl
        have hback : 0 < nal.length + 1 ∧ bytes[front.length + (nal.length + 1) - 1]? = some 0 := by
          refine ⟨Nat.succ_pos _, ?_⟩
          rw [← Nat.add_assoc, Nat.add_sub_cancel, hget, List.getElem?_append_right (Nat.le_refl _), Nat.sub_self]
          rfl
        rw [hfour, if_pos hback, hlen, ← Nat.add_assoc, Nat.add_sub_cancel, Nat.add_sub_cancel]
        rfl
    refine ⟨{ offset := front.length - pre, len := nal.length + pre, prefixSize := pre } :: slices,
      fun fuel hfuel => ?_, ?_⟩
    · obtain ⟨fuel, rfl⟩ := Nat.exists_eq_succ_of_ne_zero (Nat.ne_of_gt (Nat.zero_lt_of_lt hfuel))
      have hlong : (front ++ nal ++ code).length ≤ bytes.length := by
        rw [hbytes']
        exact (List.prefix_append _ _).length_le
      have hthree : 3 ≤ code.length := by rcases hcode with rfl | rfl <;> simp [startCode]
      rw [hround, hloop fuel (by omega)]
      rfl
    · rw [List.map_cons, nal_eq hpre, hdrop, List.take_left, hslices]
      rfl

theorem prefixSize_unit {code nal rest : List Byte} (hcode : IsCode code) (hnal : nal ≠ []) :
    prefixSize (code ++ (nal ++ rest)) = code.length := by
  obtain ⟨b, nal, rfl⟩ := List.exists_cons_of_ne_nil hnal
  rcases hcode with rfl | rfl <;> simp [prefixSize, startCode]

theorem splitH264_units {units : List (List Byte × List Byte)} (hne : units ≠ [])
    (hunits : ∀ unit ∈ units, IsCode unit.1 ∧ Plain unit.2) :
    ∃ slices, Returns (concatUnits units) 0 slices ∧
      slices.map (·.nal (concatUnits units)) = units.map Prod.snd := by
  obtain ⟨⟨code, nal⟩, units, rfl⟩ := List.exists_cons_of_ne_nil hne
  obtain ⟨⟨hcode, hnal⟩, hunits⟩ := List.forall_mem_cons.mp hunits
  have hcons : concatUnits ((code, nal) :: units) = code ++ (nal ++ concatUnits units) := List.append_assoc _ _ _
  obtain ⟨slices, hloop, hslices⟩ := loop_units (Nat.le_refl code.length) hnal hunits hcons
  refine ⟨slices, fun fuel hfuel => ?_, hslices⟩
  show loop _ fuel (prefixSize _) (prefixSize _) = _
  have hstart : prefixSize (concatUnits ((code, nal) :: units)) = code.length := by
    rw [hcons, prefixSize_unit hcode hnal.nonempty]
  rw [hstart]
  exact hloop fuel (by omega)

end SplitH264

namespace FrameMerger

open SplitH264 (Plain IsCode concatUnits)

/-- The NAL unit of the frame. -/
def nal (frame : Frame) : List Byte := frame.data.drop frame.prefixSize

/-- The frame has a start code or none, and its NAL unit has none inside and no zero at its end. -/
structure Framed (f : H264Frame) : Prop where
  code : f.prefixSize = 0 ∨ f.prefixSize = 3 ∧ SplitH264.startCode <+: f.data ∨
    f.prefixSize = 4 ∧ avcStartCode <+: f.data
  interior : ¬ SplitH264.startCode <:+: f.nal
  last : f.nal.getLast? ≠ some 0

/-- The start code that goes into the buffer. -/
def mergedCode (frame : Frame) : List Byte :=
  if frame.prefixSize ≠ 0 then frame.data.take frame.prefixSize else avcStartCode

theorem mergedBytes_h264Prefix (frame : Frame) : mergedBytes .h264Prefix frame = mergedCode frame ++ nal frame := by
  rw [mergedBytes, mergedCode, nal]
  split
  · exact (List.take_append_drop _ _).symm
  · rename_i hzero
    rw [Nat.eq_zero_of_not_pos (mt Nat.ne_of_gt hzero), List.drop_zero]

theorem isCode_mergedCode {f : H264Frame} (h : Framed f) : IsCode (mergedCode f.toFrame) := by
  rw [mergedCode]
  rcases h.code with hnone | ⟨hsize, hcode⟩ | ⟨hsize, hcode⟩
  · exact .inr (if_neg (not_not.mpr hnone))
  · obtain ⟨rest, hdata⟩ := hcode
    refine .inl ?_
    have hne : f.toFrame.prefixSize ≠ 0 := Nat.ne_of_gt (Nat.lt_of_lt_of_eq (by decide) hsize.symm)
    rw [if_pos hne, H264Frame.toFrame, hsize, ← hdata]
    rfl
  · obtain ⟨rest, hdata⟩ := hcode
    refine .inr ?_
    have hne : f.toFrame.prefixSize ≠ 0 := Nat.ne_of_gt (Nat.lt_of_lt_of_eq (by decide) hsize.symm)
    rw [if_pos hne, H264Frame.toFrame, hsize, ← hdata]
    rfl

/-- A frame whose first byte could be read has a NAL unit. -/
theorem plain_nal {f : H264Frame} (h : Framed f) (hkey : ∃ keyFrame, f.toFrame.keyFrame = .ok keyFrame) :
    Plain (nal f.toFrame) where
  nonempty := by
    obtain ⟨keyFrame, hkey⟩ := hkey
    rw [H264Frame.toFrame, H264Frame.nalByte] at hkey
    cases hget : f.data[f.prefixSize]? with
    | none =>
      rw [hget] at hkey
      cases hkey
    | some b =>
      have hlt := (List.getElem?_eq_some_iff.mp hget).1
      exact List.drop_eq_nil_iff.not.mpr (Nat.not_le.mpr hlt)
  interior := h.interior
  last := h.last

/-- The buffer of a group, taken apart, gives the NAL units of its frames. -/
def Splits (group : List Frame) (output : MergedFrame) : Prop :=
  ∃ slices, SplitH264.Returns output.buffer 0 slices ∧ slices.map (·.nal output.buffer) = group.map nal

theorem Merges.splits {group : List Frame} {output : MergedFrame} (h : Merges .h264Prefix group output)
    (hne : group ≠ []) (hframes : ∀ frame ∈ group, ∃ f : H264Frame, Framed f ∧ f.toFrame = frame) :
    Splits group output := by
  have hbuffer : output.buffer = concatUnits (group.map fun frame => (mergedCode frame, nal frame)) := by
    rw [h.buffer, concatUnits, List.flatMap_map]
    exact List.flatMap_congr fun frame _ => mergedBytes_h264Prefix frame
  have hunits : ∀ unit ∈ group.map fun frame => (mergedCode frame, nal frame), IsCode unit.1 ∧ Plain unit.2 := by
    rintro unit hunit
    obtain ⟨frame, hmem, rfl⟩ := List.mem_map.mp hunit
    obtain ⟨f, hf, rfl⟩ := hframes frame hmem
    exact ⟨isCode_mergedCode hf, plain_nal hf (h.answered _ hmem)⟩
  obtain ⟨slices, hreturns, hslices⟩ := SplitH264.splitH264_units (by simpa using hne) hunits
  rw [Splits, hbuffer]
  refine ⟨slices, hreturns, ?_⟩
  rw [hslices, List.map_map]
  rfl

theorem merges_split {groups : List (List Frame)} {outputs : List MergedFrame}
    (hmerges : List.Forall₂ (Merges .h264Prefix) groups outputs) (hne : ∀ group ∈ groups, group ≠ [])
    (hframes : ∀ group ∈ groups, ∀ frame ∈ group, ∃ f : H264Frame, Framed f ∧ f.toFrame = frame) :
    List.Forall₂ (fun group output => Merges .h264Prefix group output ∧ Splits group output) groups outputs := by
  induction hmerges with
  | nil => exact .nil
  | cons hmerge _ ih =>
    obtain ⟨hgroup, hne⟩ := List.forall_mem_cons.mp hne
    obtain ⟨hgroupFrames, hframes⟩ := List.forall_mem_cons.mp hframes
    exact .cons ⟨hmerge, hmerge.splits hgroup hgroupFrames⟩ (ih hne hframes)

/-- Each buffer that `cb` gets from H.264 frames splits into the NAL units of the frames merged
into it; together, and with those in the cache, these are all the frames, in order. -/
theorem merged_splits (frames : List (Option H264Frame)) (hframes : ∀ f ∈ frames.reduceOption, Framed f) :
    (∀ m outputs, inputFrames { type := .h264Prefix } (frames.map (·.map H264Frame.toFrame)) = .ok (m, outputs) →
      ∃ groups : List (List Frame),
        groups.flatten ++ m.frameCache = frames.reduceOption.map H264Frame.toFrame ∧
        List.Forall₂ (fun group output => Merges .h264Prefix group output ∧ Splits group output) groups outputs) ∧
      ((∀ f ∈ frames.reduceOption, f.nal ≠ [] ∧ f.data.length + 4 ≤ int32Max / (maxFrameCacheSize + 1)) →
        ∃ r, inputFrames { type := .h264Prefix } (frames.map (·.map H264Frame.toFrame)) = .ok r) := by
  have hreduce : (frames.map (·.map H264Frame.toFrame)).reduceOption = frames.reduceOption.map H264Frame.toFrame :=
    List.reduceOption_map
  refine ⟨fun m outputs h => ?_, fun hsound => ?_⟩
  · obtain ⟨-, -, groups, hflat, hmerges, hgroups⟩ := inputFrames_delivers (Collected.empty _) h
    have hall : groups.flatten ++ m.frameCache = frames.reduceOption.map H264Frame.toFrame := by
      rw [hflat, hreduce]
      rfl
    refine ⟨groups, hall, merges_split hmerges (fun group hgroup => (hgroups group hgroup).nonempty) ?_⟩
    intro group hgroup frame hframe
    have hmem : frame ∈ groups.flatten ++ m.frameCache :=
      List.mem_append_left _ (List.mem_flatten.mpr ⟨group, hgroup, hframe⟩)
    rw [hall] at hmem
    obtain ⟨f, hf, rfl⟩ := List.mem_map.mp hmem
    exact ⟨f, hframes f hf, rfl⟩
  · refine inputFrames_isOk (Collected.empty _) (fun _ hmem => absurd hmem List.not_mem_nil) ?_
    rw [hreduce, List.forall_mem_map]
    intro f hf
    obtain ⟨hnal, hsize⟩ := hsound f hf
    exact sound_toFrame (Nat.not_le.mp (mt List.drop_eq_nil_iff.mpr hnal)) hsize

theorem merged_splits_pictures :
    ∃ m outputs, inputFrames { type := .h264Prefix }
        ([some spsUnit, some idrSlice, some idrSlice, none].map (·.map H264Frame.toFrame)) = .ok (m, outputs) ∧
      ∃ groups : List (List Frame),
        groups.flatten ++ m.frameCache = [spsUnit, idrSlice, idrSlice].map H264Frame.toFrame ∧
        List.Forall₂ (fun group output => Merges .h264Prefix group output ∧ Splits group output) groups outputs := by
  have hsps : Framed spsUnit := ⟨.inr (.inl ⟨rfl, by decide⟩), by decide, by decide⟩
  have hidr : Framed idrSlice := ⟨.inl rfl, by decide, by decide⟩
  obtain ⟨hsplits, hok⟩ := merged_splits [some spsUnit, some idrSlice, some idrSlice, none]
    (List.forall_mem_cons.mpr ⟨hsps, List.forall_mem_cons.mpr ⟨hidr, List.forall_mem_singleton.mpr hidr⟩⟩)
  obtain ⟨⟨m, outputs⟩, h⟩ := hok (by decide)
  exact ⟨m, outputs, h, hsplits m outputs h⟩

end FrameMerger

end WifiDisplay
