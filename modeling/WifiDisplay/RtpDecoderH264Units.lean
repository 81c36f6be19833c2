import WifiDisplay.RtpH264RoundTrip

/-! What one packet completes, and what `RtpDecoderH264` puts out of it: the frames
that pass a gate which only a key frame opens. -/

namespace WifiDisplay

/-! A gate over any kind of unit. -/

section Gate

variable {α : Type*} (isKey : α → Bool)

/-- The units that pass. -/
def passGate (closed : Bool) (units : List α) : List α :=
  if closed then units.dropWhile (! isKey ·) else units

/-- Whether the gate is closed behind the units. -/
def closedAfter (closed : Bool) (units : List α) : Bool := closed && ! units.any isKey

variable {isKey} {closed : Bool} {u : α} {us vs : List α}

@[simp] theorem passGate_nil : passGate isKey closed [] = [] := by
  cases closed <;> rfl

@[simp] theorem passGate_open : passGate isKey false us = us := rfl

@[simp] theorem closedAfter_nil : closedAfter isKey closed [] = closed := by
  simp [closedAfter]

@[simp] theorem closedAfter_open : closedAfter isKey false us = false := rfl

theorem passGate_cons :
    passGate isKey closed (u :: us) = passGate isKey closed [u] ++
      passGate isKey (closedAfter isKey closed [u]) us := by
  cases closed with
  | false => rfl
  | true => cases h : isKey u <;> simp [passGate, closedAfter, h]

theorem closedAfter_cons :
    closedAfter isKey closed (u :: us) =
      closedAfter isKey (closedAfter isKey closed [u]) us := by
  simp [closedAfter, Bool.and_assoc]

theorem passGate_subset : passGate isKey closed us ⊆ us := by
  cases closed with
  | false => exact List.Subset.refl us
  | true => exact (List.dropWhile_sublist _).subset

end Gate

/-- Whether a frame of these bytes, start code included, is a key frame. -/
def isKeyUnit (bytes : List Byte) : Bool := ({ data := bytes, prefixSize := 4 } : H264Frame).keyFrame

namespace RtpDecoderH264

/-- The units that the loop of `UnpackStapA` takes. -/
def stapUnits (ptr : List Byte) : List (List Byte) :=
  match ptr with
  | hi :: lo :: rest =>
    if rest = [] then []
    else
      let len := (hi ++ lo).toNat
      if len = 0 ∨ len > rest.length + 2 then []
      else (startCode ++ rest.take len) :: stapUnits (rest.drop len)
  | _ => []
termination_by ptr.length

/-- Whether the loop stops at a length that does not fit. -/
def stapBroken (ptr : List Byte) : Bool :=
  match ptr with
  | hi :: lo :: rest =>
    if rest = [] then false
    else
      let len := (hi ++ lo).toNat
      if len = 0 ∨ len > rest.length + 2 then true else stapBroken (rest.drop len)
  | _ => false
termination_by ptr.length

/-- The unit that a fragment ends. -/
def fuUnits (d : RtpDecoderH264) (ptr : List Byte) (seq : BitVec 16) : List (List Byte) :=
  match ptr with
  | indicator :: flags :: rest =>
    if ¬ flags.getLsbD 6 then []
    else if flags.getLsbD 7 then
      [startCode ++ ((indicator &&& 0xE0) ||| (flags &&& 0x1F)) :: rest]
    else if ¬ d.fuDropped ∧ seq = d.lastSeq + 1 then [d.frame.data ++ rest]
    else []
  | _ => []

/-- The units that a packet completes. -/
def units (d : RtpDecoderH264) (payload : List Byte) (seq : BitVec 16) : List (List Byte) :=
  let nal := h264Type (payload.getD 0 0)
  if nal = 24 then stapUnits (payload.drop 1)
  else if nal = 28 then d.fuUnits payload seq
  else if nal < 24 then [startCode ++ payload]
  else []

/-- Packets that the decoder gives up on. -/
def isBroken (payload : List Byte) : Bool :=
  let nal := h264Type (payload.getD 0 0)
  if nal = 24 then stapBroken (payload.drop 1) else ! (decide (nal = 28) || decide (nal < 24))

/-- What becomes of the units: `broken` closes the gate behind them. -/
structure PutsOut (d d' : RtpDecoderH264) (out : List H264Frame) (units : List (List Byte))
    (broken : Bool) : Prop where
  out : out.map (·.data) = passGate isKeyUnit d.gopDropped units
  gopDropped : d'.gopDropped = (broken || closedAfter isKeyUnit d.gopDropped units)
  prefixSize : d'.frame.prefixSize = 4
  lastSeq : d'.lastSeq = d.lastSeq

theorem keyFrame_eq {frame : H264Frame} (h : frame.prefixSize = 4) :
    frame.keyFrame = isKeyUnit frame.data := by
  obtain ⟨data, prefixSize, dts, pts⟩ := frame
  subst h
  rfl

theorem outputFrame_putsOut (d : RtpDecoderH264) {frame : H264Frame}
    (h : frame.prefixSize = 4) :
    PutsOut d (d.outputFrame frame).1 (d.outputFrame frame).2 [frame.data] false := by
  have hkey := keyFrame_eq h
  refine ⟨?_, ?_, rfl, rfl⟩
  · cases hg : d.gopDropped <;> cases hk : isKeyUnit frame.data <;>
      simp [outputFrame, hg, hk, hkey, passGate]
  · simp [outputFrame, closedAfter, hkey]

theorem unpackSingle_putsOut {d : RtpDecoderH264} (hd : d.frame.prefixSize = 4)
    (ptr : List Byte) (stamp : BitVec 32) :
    PutsOut d (d.unpackSingle ptr stamp).1 (d.unpackSingle ptr stamp).2.1 [startCode ++ ptr]
      false := by
  refine outputFrame_putsOut d ?_
  exact hd

theorem PutsOut.none {d d' : RtpDecoderH264} (hframe : d'.frame.prefixSize = 4)
    (hgop : d'.gopDropped = d.gopDropped) (hseq : d'.lastSeq = d.lastSeq) :
    PutsOut d d' [] [] false := by
  refine ⟨?_, ?_, hframe, hseq⟩ <;> simp [hgop]

theorem PutsOut.congr {d₀ d d' : RtpDecoderH264} {out : List H264Frame}
    {us : List (List Byte)} {broken : Bool} (h : PutsOut d₀ d' out us broken)
    (hgop : d₀.gopDropped = d.gopDropped) (hseq : d₀.lastSeq = d.lastSeq) :
    PutsOut d d' out us broken :=
  ⟨hgop ▸ h.out, hgop ▸ h.gopDropped, h.prefixSize, h.lastSeq.trans hseq⟩

theorem PutsOut.cons {d d₁ d₂ : RtpDecoderH264} {out out' : List H264Frame} {u : List Byte}
    {us : List (List Byte)} {broken : Bool} (h : PutsOut d d₁ out [u] false)
    (h' : PutsOut d₁ d₂ out' us broken) : PutsOut d d₂ (out ++ out') (u :: us) broken := by
  have hgate : d₁.gopDropped = closedAfter isKeyUnit d.gopDropped [u] := h.gopDropped
  refine ⟨?_, ?_, h'.prefixSize, h'.lastSeq.trans h.lastSeq⟩
  · rw [List.map_append, h.out, h'.out, hgate]
    exact passGate_cons.symm
  · rw [h'.gopDropped, hgate]
    exact congrArg (broken || ·) closedAfter_cons.symm

theorem unpackStapA_putsOut {d d' : RtpDecoderH264} (hd : d.frame.prefixSize = 4)
    {ptr : List Byte} {stamp : BitVec 32} {out : List H264Frame} {key : Bool}
    (h : d.unpackStapA ptr stamp = .ok (d', out, key)) :
    PutsOut d d' out (stapUnits ptr) (stapBroken ptr) := by
  fun_induction unpackStapA d ptr stamp generalizing d' out key with
  | case1 d hi lo =>
    simp only [Except.ok.injEq, Prod.mk.injEq] at h
    obtain ⟨rfl, rfl, -⟩ := h
    rw [stapUnits, if_pos rfl, stapBroken, if_pos rfl]
    exact .none hd rfl rfl
  | case2 d hi lo rest hrest len =>
    rename_i hlen
    simp only [Except.ok.injEq, Prod.mk.injEq] at h
    obtain ⟨rfl, rfl, -⟩ := h
    refine ⟨?_, ?_, hd, rfl⟩
    · rw [stapUnits, if_neg hrest, if_pos hlen]
      simp
    · rw [stapBroken, if_neg hrest, if_pos hlen]
      rfl
  | case3 => cases h
  | case4 d hi lo rest hrest len hlen hin d₁ out₁ key₁ hsingle =>
    rename_i ih
    obtain ⟨⟨d₂, out₂, key₂⟩, hrec, hret⟩ := bind_eq_ok.mp h
    simp only [pure, Except.pure, Except.ok.injEq, Prod.mk.injEq] at hret
    obtain ⟨rfl, rfl, -⟩ := hret
    have hfirst := unpackSingle_putsOut hd (rest.take len) stamp
    rw [hsingle] at hfirst
    rw [stapUnits, if_neg hrest, if_neg hlen, stapBroken, if_neg hrest, if_neg hlen]
    exact hfirst.cons (ih hfirst.prefixSize hrec)
  | case5 d ptr hptr =>
    simp only [Except.ok.injEq, Prod.mk.injEq] at h
    obtain ⟨rfl, rfl, -⟩ := h
    have hunits : stapUnits ptr = [] := by rw [stapUnits]; exact hptr
    have hbroken : stapBroken ptr = false := by rw [stapBroken]; exact hptr
    rw [hunits, hbroken]
    exact .none hd rfl rfl

theorem fuUnits_continuing {d : RtpDecoderH264} {indicator flags : Byte} {rest : List Byte}
    {seq : BitVec 16} (hstart : flags.getLsbD 7 = false)
    (hlost : ¬ (¬ d.fuDropped ∧ seq = d.lastSeq + 1)) :
    d.fuUnits (indicator :: flags :: rest) seq = [] := by
  rw [fuUnits, hstart, if_neg Bool.false_ne_true, if_neg hlost]
  split <;> rfl

theorem unpackFuA_putsOut {d d' : RtpDecoderH264} (hd : d.frame.prefixSize = 4)
    {ptr : List Byte} {stamp : BitVec 32} {seq : BitVec 16} {out : List H264Frame} {key : Bool}
    (h : d.unpackFuA ptr stamp seq = .ok (d', out, key)) :
    PutsOut d d' out (d.fuUnits ptr seq) false := by
  match ptr with
  | [] => cases h
  | [b] => cases h
  | indicator :: flags :: rest =>
    have hshut : ¬ flags.getLsbD 6 = true → d.fuUnits (indicator :: flags :: rest) seq = [] :=
      fun hend => by rw [fuUnits, if_pos hend]
    by_cases hstart : flags.getLsbD 7 = true
    · simp only [unpackFuA, hstart, if_true, Bool.false_eq_true, if_false, not_true,
        false_and] at h
      by_cases hend : flags.getLsbD 6 = true
      · rw [if_neg (not_not.mpr hend)] at h
        simp only [Except.ok.injEq, Prod.mk.injEq] at h
        obtain ⟨rfl, rfl, -⟩ := h
        rw [fuUnits, if_neg (not_not.mpr hend), if_pos hstart]
        refine (outputFrame_putsOut _ ?_).congr rfl rfl
        exact hd
      · rw [if_pos hend] at h
        simp only [Except.ok.injEq, Prod.mk.injEq] at h
        obtain ⟨rfl, rfl, -⟩ := h
        rw [hshut hend]
        exact .none hd rfl rfl
    · rw [Bool.not_eq_true] at hstart
      simp only [unpackFuA, hstart, Bool.false_eq_true, if_false, not_false_eq_true, true_and]
        at h
      by_cases hdropped : d.fuDropped = true
      · rw [if_pos hdropped] at h
        simp only [Except.ok.injEq, Prod.mk.injEq] at h
        obtain ⟨rfl, rfl, -⟩ := h
        rw [fuUnits_continuing hstart (fun hin => hin.1 hdropped)]
        exact .none hd rfl rfl
      · rw [if_neg hdropped] at h
        by_cases hseq : seq = d.lastSeq + 1
        · rw [if_neg (not_not.mpr hseq)] at h
          by_cases hend : flags.getLsbD 6 = true
          · rw [if_neg (not_not.mpr hend)] at h
            simp only [Except.ok.injEq, Prod.mk.injEq] at h
            obtain ⟨rfl, rfl, -⟩ := h
            rw [fuUnits, if_neg (not_not.mpr hend), hstart, if_neg Bool.false_ne_true,
              if_pos ⟨hdropped, hseq⟩]
            refine (outputFrame_putsOut _ ?_).congr rfl rfl
            exact hd
          · rw [if_pos hend] at h
            simp only [Except.ok.injEq, Prod.mk.injEq] at h
            obtain ⟨rfl, rfl, -⟩ := h
            rw [hshut hend]
            exact .none hd rfl rfl
        · rw [if_pos hseq] at h
          simp only [Except.ok.injEq, Prod.mk.injEq] at h
          obtain ⟨rfl, rfl, -⟩ := h
          rw [fuUnits_continuing hstart (fun hin => hseq hin.2)]
          exact .none hd rfl rfl

theorem unpack_putsOut {d d' : RtpDecoderH264} (hd : d.frame.prefixSize = 4)
    {payload : List Byte} {stamp : BitVec 32} {seq : BitVec 16} {out : List H264Frame}
    {key : Bool} (h : d.unpack payload stamp seq = .ok (d', out, key)) :
    PutsOut d d' out (d.units payload seq) (isBroken payload) := by
  simp only [unpack] at h
  simp only [units, isBroken]
  by_cases h24 : h264Type (payload.getD 0 0) = 24
  · rw [if_pos h24] at h
    rw [if_pos h24, if_pos h24]
    exact unpackStapA_putsOut hd h
  · rw [if_neg h24] at h
    rw [if_neg h24, if_neg h24]
    by_cases h28 : h264Type (payload.getD 0 0) = 28
    · rw [if_pos h28] at h
      rw [if_pos h28, decide_eq_true h28]
      exact unpackFuA_putsOut hd h
    · rw [if_neg h28] at h
      rw [if_neg h28, decide_eq_false h28]
      by_cases hlt : h264Type (payload.getD 0 0) < 24
      · rw [if_pos hlt] at h
        rw [if_pos hlt, decide_eq_true hlt]
        simp only [Except.ok.injEq] at h
        have hsingle := unpackSingle_putsOut hd payload stamp
        rw [h] at hsingle
        exact hsingle
      · rw [if_neg hlt] at h
        rw [if_neg hlt, decide_eq_false hlt]
        simp only [Except.ok.injEq, Prod.mk.injEq] at h
        obtain ⟨rfl, rfl, -⟩ := h
        refine ⟨?_, ?_, hd, rfl⟩ <;> simp

/-- The decoder after the sequence numbers are compared. -/
def compareSeq (d : RtpDecoderH264) (seq : BitVec 16) : RtpDecoderH264 :=
  { d with
    gopDropped := d.gopDropped ||
      ! d.gopDropped && decide (seq ≠ d.lastSeq + 1) && decide (d.lastSeq ≠ 0)
    lastSeq := seq }

theorem inputRtp_of_unpack {d d' : RtpDecoderH264} {rtp : RtpPacket} {payload : List Byte}
    {out : List H264Frame} {key : Bool}
    (hpayload : rtp.getPayload.take rtp.getPayloadSize = payload) (hne : payload ≠ [])
    (h : d.unpack payload rtp.getStampMS rtp.getSeq = .ok (d', out, key)) :
    d.inputRtp (some rtp) = .ok (d'.compareSeq rtp.getSeq, out) := by
  simp only [inputRtp, hpayload, if_neg hne, h]
  rfl

end RtpDecoderH264

end WifiDisplay
