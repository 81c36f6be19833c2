import WifiDisplay.GuardedRuns
import WifiDisplay.RtpPacketSortor

/-! `RtpUnpackImpl`: a sortor and a decoder for each payload type. -/

namespace WifiDisplay

inductive RtpPayloadStream where
  | h264
  | mpeg4Generic
  | mpeg2Ts
  | mpeg2Ps
  | pcma
  | pcmu
  deriving DecidableEq, Repr

/-- `extra` is the text of an `AACExtra`. -/
structure RtpPlaylodParam where
  pt : BitVec 32 := 0
  sampleRate : BitVec 32 := 90000
  ps : RtpPayloadStream := .h264
  extra : Option (List Char) := none

/-- The classes behind `RtpDecoder`: what their constructors build, the frames that `InputRtp` hands
to `onFrame_`, and those that a thread of the decoder hands to it at its own choice. -/
structure RtpDecoders (σ F : Type) where
  h264 : σ
  aac : RtpPlaylodParam → σ
  g711 : σ
  ts : σ
  inputRtp : σ → RtpPacket → σ × List F
  thread : σ → Nat → σ × List F

/-- The maps hold pointers; `operator[]` makes null ones. -/
structure RtpUnpackImpl (σ : Type) where
  nextOutSeq : BitVec 16 := 0
  rtpDecoder : OrderedMap Byte (Option σ) := .empty
  rtpSort : OrderedMap Byte (Option RtpPacketSortor) := .empty
  onRtpUnpack : Bool := false

namespace RtpUnpackImpl

variable {σ F : Type} (D : RtpDecoders σ F)

/-- The arguments of one `onRtpUnpack_` call. There is no SSRC if there is no sortor to ask. -/
abbrev Unpacked (F : Type) := Option (BitVec 32) × F

/-- The `switch` of `CreateRtpDecoder`. -/
def make (rpp : RtpPlaylodParam) : Option σ :=
  match rpp.ps with
  | .h264 => some D.h264
  | .mpeg4Generic => some (D.aac rpp)
  | .pcma | .pcmu => some D.g711
  | .mpeg2Ts => some D.ts
  | .mpeg2Ps => none

def createRtpDecoder (u : RtpUnpackImpl σ) (rpp : RtpPlaylodParam) : RtpUnpackImpl σ :=
  let pt : Byte := rpp.pt.setWidth 8
  let rtpDecoder := match make D rpp with
    | some decoder => u.rtpDecoder.assign pt (some decoder)
    | none => u.rtpDecoder.emplace pt none
  match rtpDecoder.pointer pt with
  | none => { u with rtpDecoder }
  | some _ =>
    { u with rtpDecoder, rtpSort := u.rtpSort.assign pt (some (.create rpp.sampleRate)) }

/-- The two constructors. -/
def create (rpp : Option RtpPlaylodParam) : RtpUnpackImpl σ :=
  match rpp with
  | none => {}
  | some rpp => createRtpDecoder D {} rpp

def onRtpDecode (u : RtpUnpackImpl σ) (pt : Byte) (frames : List F) : List (Unpacked F) :=
  if u.onRtpUnpack then frames.map fun frame => ((u.rtpSort.pointer pt).map (·.ssrc), frame) else []

def payloadType (bytes : List Byte) : Byte := BitVec.ofNat 8 (RtpHeader.pt bytes)

def onRtpSorted (u : RtpUnpackImpl σ) (rtp : RtpPacket) : RtpUnpackImpl σ × List (Unpacked F) :=
  let pt := payloadType rtp.data
  let u := { u with rtpDecoder := u.rtpDecoder.emplace pt none }
  match u.rtpDecoder.pointer pt with
  | none => (u, [])
  | some decoder =>
    let nextOutSeq := if u.nextOutSeq = 0xFFFF then 1 else rtp.getSeq + 1
    let (decoder, frames) := D.inputRtp decoder rtp
    let u := { u with nextOutSeq, rtpDecoder := u.rtpDecoder.assign pt (some decoder) }
    (u, u.onRtpDecode pt frames)

def onSort (u : RtpUnpackImpl σ) : List RtpPacketSortor.Sorted → RtpUnpackImpl σ × List (Unpacked F)
  | [] => (u, [])
  | (_, rtp) :: rest =>
    let (u, out) := onRtpSorted D u rtp
    let (u, out') := onSort u rest
    (u, out ++ out')

/-- The end of `ParseRtp`. The sortor has its new SSRC before it hands anything out. -/
def inputSort (u : RtpUnpackImpl σ) (pt : Byte) (bytes : List Byte) :
    RtpUnpackImpl σ × List (Unpacked F) :=
  let u := { u with rtpSort := u.rtpSort.emplace pt none }
  match u.rtpSort.pointer pt with
  | none => (u, [])
  | some sort =>
    let (sort, emitted) := sort.inputRtp .trackVideo (some bytes)
    onSort D { u with rtpSort := u.rtpSort.assign pt (some sort) }
      (emitted.flushed.getD [] ++ emitted.sorted)

/-- `RtpHeader` ends with the first byte of the payload. -/
def sizeofRtpHeader : Nat := 13

def parseRtp (u : RtpUnpackImpl σ) (data : Option (List Byte)) :
    RtpUnpackImpl σ × List (Unpacked F) :=
  match data with
  | none => (u, [])
  | some bytes =>
    if bytes.length < sizeofRtpHeader then (u, [])
    else
      let pt := payloadType bytes
      let u := { u with rtpDecoder := u.rtpDecoder.emplace pt none }
      match u.rtpDecoder.pointer pt with
      | some _ => inputSort D u pt bytes
      | none =>
        if u.rtpDecoder.size > 2 then (u, [])
        else if pt = 33 then
          inputSort D (createRtpDecoder D u { pt := 33, sampleRate := 90000, ps := .mpeg2Ts }) pt bytes
        else (u, [])

inductive Call where
  | setOnRtpUnpack
  | parseRtp (data : Option (List Byte))
  | thread (pt : Byte) (choice : Nat)
  deriving DecidableEq

def step (u : RtpUnpackImpl σ) : Call → RtpUnpackImpl σ × List (Unpacked F)
  | .setOnRtpUnpack => ({ u with onRtpUnpack := true }, [])
  | .parseRtp data => parseRtp D u data
  | .thread pt choice =>
    match u.rtpDecoder.pointer pt with
    | none => (u, [])
    | some decoder =>
      let (decoder, frames) := D.thread decoder choice
      let u := { u with rtpDecoder := u.rtpDecoder.assign pt (some decoder) }
      (u, u.onRtpDecode pt frames)

/-- What a run hands to the callback. -/
def delivered (u : RtpUnpackImpl σ) : List Call → List (Unpacked F)
  | [] => []
  | call :: calls => (step D u call).2 ++ delivered (step D u call).1 calls

/-- Packets of a payload type that has no decoder from the beginning and gets none later. -/
def Foreign (rpp : Option RtpPlaylodParam) : Call → Prop
  | .parseRtp (some bytes) => sizeofRtpHeader ≤ bytes.length ∧ payloadType bytes ≠ 33 ∧
      (create D rpp).rtpDecoder.pointer (payloadType bytes) = none
  | _ => False

/-- A packet of type 33 that asks for a decoder finds at most one other entry in the map. -/
def HasRoom (u : RtpUnpackImpl σ) : Call → Prop
  | .parseRtp (some bytes) => sizeofRtpHeader ≤ bytes.length → payloadType bytes = 33 →
      u.rtpDecoder.pointer 33 = none → (u.rtpDecoder.emplace 33 none).size ≤ 2
  | _ => True

/-! Unpackers that differ in null pointers only. -/

structure Alike (u v : RtpUnpackImpl σ) : Prop where
  nextOutSeq : u.nextOutSeq = v.nextOutSeq
  rtpDecoder : ∀ pt, u.rtpDecoder.pointer pt = v.rtpDecoder.pointer pt
  rtpSort : ∀ pt, u.rtpSort.pointer pt = v.rtpSort.pointer pt
  onRtpUnpack : u.onRtpUnpack = v.onRtpUnpack

/-- Both calls hand out the same and leave the unpackers alike. -/
def Agrees (r r' : RtpUnpackImpl σ × List (Unpacked F)) : Prop := Alike r.1 r'.1 ∧ r.2 = r'.2

namespace Alike

variable {D} {u v : RtpUnpackImpl σ}

theorem refl (u : RtpUnpackImpl σ) : Alike u u := ⟨rfl, fun _ => rfl, fun _ => rfl, rfl⟩

theorem symm (h : Alike u v) : Alike v u :=
  ⟨h.nextOutSeq.symm, fun pt => (h.rtpDecoder pt).symm, fun pt => (h.rtpSort pt).symm, h.onRtpUnpack.symm⟩

theorem trans {w : RtpUnpackImpl σ} (h : Alike u v) (h' : Alike v w) : Alike u w :=
  ⟨h.nextOutSeq.trans h'.nextOutSeq, fun pt => (h.rtpDecoder pt).trans (h'.rtpDecoder pt),
    fun pt => (h.rtpSort pt).trans (h'.rtpSort pt), h.onRtpUnpack.trans h'.onRtpUnpack⟩

/-- A look at the decoder of a payload type. -/
theorem index (u : RtpUnpackImpl σ) (pt : Byte) :
    Alike { u with rtpDecoder := u.rtpDecoder.emplace pt none } u :=
  ⟨rfl, OrderedMap.pointer_emplace _ _, fun _ => rfl, rfl⟩

theorem index_both (h : Alike u v) (pt : Byte) :
    Alike { u with rtpDecoder := u.rtpDecoder.emplace pt none }
      { v with rtpDecoder := v.rtpDecoder.emplace pt none } :=
  ((index u pt).trans h).trans (index v pt).symm

theorem assign (h : Alike u v) (pt : Byte) (decoder : Option σ) :
    Alike { u with rtpDecoder := u.rtpDecoder.assign pt decoder }
      { v with rtpDecoder := v.rtpDecoder.assign pt decoder } := by
  refine ⟨h.nextOutSeq, fun pt' => ?_, h.rtpSort, h.onRtpUnpack⟩
  rw [OrderedMap.pointer_assign, OrderedMap.pointer_assign, h.rtpDecoder]

theorem assignSort (h : Alike u v) (pt : Byte) (sort : Option RtpPacketSortor) :
    Alike { u with rtpSort := u.rtpSort.assign pt sort }
      { v with rtpSort := v.rtpSort.assign pt sort } := by
  refine ⟨h.nextOutSeq, h.rtpDecoder, fun pt' => ?_, h.onRtpUnpack⟩
  rw [OrderedMap.pointer_assign, OrderedMap.pointer_assign, h.rtpSort]

theorem onRtpDecode (h : Alike u v) (pt : Byte) (frames : List F) :
    u.onRtpDecode pt frames = v.onRtpDecode pt frames := by
  rw [RtpUnpackImpl.onRtpDecode, RtpUnpackImpl.onRtpDecode, h.onRtpUnpack, h.rtpSort]

theorem onRtpSorted (h : Alike u v) (rtp : RtpPacket) :
    Agrees (RtpUnpackImpl.onRtpSorted D u rtp) (RtpUnpackImpl.onRtpSorted D v rtp) := by
  have hindex := h.index_both (payloadType rtp.data)
  simp only [RtpUnpackImpl.onRtpSorted, hindex.rtpDecoder]
  cases hpointer : (v.rtpDecoder.emplace (payloadType rtp.data) none).pointer (payloadType rtp.data) with
  | none => exact ⟨hindex, rfl⟩
  | some decoder =>
    have hassign := hindex.assign (payloadType rtp.data) (some (D.inputRtp decoder rtp).1)
    rw [h.nextOutSeq]
    exact ⟨⟨rfl, hassign.rtpDecoder, hassign.rtpSort, hassign.onRtpUnpack⟩,
      hassign.onRtpDecode (payloadType rtp.data) _⟩

theorem onSort (h : Alike u v) (sorted : List RtpPacketSortor.Sorted) :
    Agrees (RtpUnpackImpl.onSort D u sorted) (RtpUnpackImpl.onSort D v sorted) := by
  induction sorted generalizing u v with
  | nil => exact ⟨h, rfl⟩
  | cons entry rest ih =>
    obtain ⟨hfirst, hout⟩ := h.onRtpSorted (D := D) entry.2
    obtain ⟨hrest, hout'⟩ := ih hfirst
    exact ⟨hrest, congrArg₂ (· ++ ·) hout hout'⟩

theorem inputSort (h : Alike u v) (pt : Byte) (bytes : List Byte) :
    Agrees (RtpUnpackImpl.inputSort D u pt bytes) (RtpUnpackImpl.inputSort D v pt bytes) := by
  have hindex : Alike { u with rtpSort := u.rtpSort.emplace pt none }
      { v with rtpSort := v.rtpSort.emplace pt none } := by
    refine ⟨h.nextOutSeq, h.rtpDecoder, fun pt' => ?_, h.onRtpUnpack⟩
    rw [OrderedMap.pointer_emplace, OrderedMap.pointer_emplace, h.rtpSort]
  simp only [RtpUnpackImpl.inputSort, hindex.rtpSort]
  cases hpointer : (v.rtpSort.emplace pt none).pointer pt with
  | none => exact ⟨hindex, rfl⟩
  | some sort =>
    exact (hindex.assignSort pt (some (sort.inputRtp .trackVideo (some bytes)).1)).onSort _

/-- The end of `CreateRtpDecoder`, which makes a sortor if there is a decoder. -/
theorem addSort (h : Alike u v) (pt : Byte) (sort : Option RtpPacketSortor) :
    Alike (match u.rtpDecoder.pointer pt with
      | none => u
      | some _ => { u with rtpSort := u.rtpSort.assign pt sort })
    (match v.rtpDecoder.pointer pt with
      | none => v
      | some _ => { v with rtpSort := v.rtpSort.assign pt sort }) := by
  rw [h.rtpDecoder pt]
  cases v.rtpDecoder.pointer pt with
  | none => exact h
  | some _ => exact h.assignSort pt sort

theorem createRtpDecoder (h : Alike u v) (rpp : RtpPlaylodParam) :
    Alike (RtpUnpackImpl.createRtpDecoder D u rpp) (RtpUnpackImpl.createRtpDecoder D v rpp) := by
  simp only [RtpUnpackImpl.createRtpDecoder]
  cases make D rpp with
  | none => exact (h.index_both (rpp.pt.setWidth 8)).addSort _ _
  | some decoder => exact (h.assign (rpp.pt.setWidth 8) (some decoder)).addSort _ _

end Alike

/-! Which payload types have a decoder. -/

variable {D} {rpp : Option RtpPlaylodParam} {u v : RtpUnpackImpl σ}

/-- Only type 33 may have got a decoder after the constructor. -/
def Known (D : RtpDecoders σ F) (rpp : Option RtpPlaylodParam) (u : RtpUnpackImpl σ) : Prop :=
  ∀ pt, pt ≠ 33 → (u.rtpDecoder.pointer pt).isSome = ((create D rpp).rtpDecoder.pointer pt).isSome

theorem known_index (h : Known D rpp u) (pt : Byte) :
    Known D rpp { u with rtpDecoder := u.rtpDecoder.emplace pt none } := by
  intro pt' hpt'
  rw [OrderedMap.pointer_emplace, h pt' hpt']

/-- A decoder takes the place of one of the same type. -/
theorem known_assign (h : Known D rpp u) {pt : Byte} (hsome : (u.rtpDecoder.pointer pt).isSome)
    (decoder : σ) : Known D rpp { u with rtpDecoder := u.rtpDecoder.assign pt (some decoder) } := by
  intro pt' hpt'
  rw [OrderedMap.pointer_assign, ← h pt' hpt']
  split
  · rename_i heq
    rw [heq, hsome]
    rfl
  · rfl

theorem known_onRtpSorted (h : Known D rpp u) (rtp : RtpPacket) : Known D rpp (onRtpSorted D u rtp).1 := by
  have hindex := known_index h (payloadType rtp.data)
  rw [onRtpSorted]
  dsimp only
  cases hpointer : (u.rtpDecoder.emplace (payloadType rtp.data) none).pointer (payloadType rtp.data) with
  | none => exact hindex
  | some decoder => exact known_assign hindex (by simp [hpointer]) (D.inputRtp decoder rtp).1

theorem known_onSort (h : Known D rpp u) (sorted : List RtpPacketSortor.Sorted) :
    Known D rpp (onSort D u sorted).1 := by
  induction sorted generalizing u with
  | nil => exact h
  | cons entry rest ih => exact ih (known_onRtpSorted h entry.2)

theorem known_inputSort (h : Known D rpp u) (pt : Byte) (bytes : List Byte) :
    Known D rpp (inputSort D u pt bytes).1 := by
  rw [inputSort]
  dsimp only
  split
  · exact h
  · refine known_onSort ?_ _
    exact h

theorem known_step (h : Known D rpp u) (call : Call) : Known D rpp (step D u call).1 := by
  cases call with
  | setOnRtpUnpack => exact h
  | thread pt choice =>
    rw [step]
    cases hpointer : u.rtpDecoder.pointer pt with
    | none => exact h
    | some decoder => exact known_assign h (by simp [hpointer]) (D.thread decoder choice).1
  | parseRtp data =>
    cases data with
    | none => exact h
    | some bytes =>
      simp only [step, parseRtp]
      have hindex := known_index h (payloadType bytes)
      split
      · exact h
      · split
        · exact known_inputSort hindex _ _
        · split
          · exact hindex
          · split
            · rename_i hpt
              refine known_inputSort ?_ _ _
              intro pt' hpt'
              have hne : pt' ≠ BitVec.setWidth 8 (33 : BitVec 32) := hpt'
              rw [← hindex pt' hpt']
              simp only [createRtpDecoder, make]
              split <;> simp only [OrderedMap.pointer_assign, if_neg hne]
            · exact hindex

/-- A packet without a decoder leaves a null pointer behind. -/
theorem foreign_step (h : Known D rpp u) {call : Call} (hforeign : Foreign D rpp call) :
    Alike (step D u call).1 u ∧ (step D u call).2 = [] := by
  cases call with
  | setOnRtpUnpack => exact hforeign.elim
  | thread pt choice => exact hforeign.elim
  | parseRtp data =>
    cases data with
    | none => exact hforeign.elim
    | some bytes =>
      obtain ⟨hsize, hpt, hnone⟩ := hforeign
      have hpointer : u.rtpDecoder.pointer (payloadType bytes) = none := by
        have hsome := h _ hpt
        rw [hnone] at hsome
        exact Option.not_isSome_iff_eq_none.mp (by simp [hsome])
      simp only [step, parseRtp, if_neg (Nat.not_lt.mpr hsize), OrderedMap.pointer_emplace, hpointer,
        if_neg hpt]
      split <;> exact ⟨.index u _, rfl⟩

/-- Any other call does the same to both unpackers. -/
theorem Alike.step (h : Alike u v) (hknown : Known D rpp u) {call : Call}
    (hforeign : ¬ Foreign D rpp call) (hu : u.HasRoom call) (hv : v.HasRoom call) :
    Agrees (RtpUnpackImpl.step D u call) (RtpUnpackImpl.step D v call) := by
  cases call with
  | setOnRtpUnpack => exact ⟨⟨h.nextOutSeq, h.rtpDecoder, h.rtpSort, rfl⟩, rfl⟩
  | thread pt choice =>
    simp only [RtpUnpackImpl.step, h.rtpDecoder pt]
    cases hpointer : v.rtpDecoder.pointer pt with
    | none => exact ⟨h, rfl⟩
    | some decoder =>
      have hassign := h.assign pt (some (D.thread decoder choice).1)
      exact ⟨hassign, hassign.onRtpDecode pt _⟩
  | parseRtp data =>
    cases data with
    | none => exact ⟨h, rfl⟩
    | some bytes =>
      by_cases hsize : bytes.length < sizeofRtpHeader
      · simp only [RtpUnpackImpl.step, parseRtp, if_pos hsize]
        exact ⟨h, rfl⟩
      have hindex := h.index_both (payloadType bytes)
      simp only [RtpUnpackImpl.step, parseRtp, if_neg hsize, OrderedMap.pointer_emplace, h.rtpDecoder]
      cases hpointer : v.rtpDecoder.pointer (payloadType bytes) with
      | some decoder => exact hindex.inputSort _ _
      | none =>
        have hpt : payloadType bytes = 33 := by
          by_contra hpt
          refine hforeign ⟨Nat.not_lt.mp hsize, hpt, ?_⟩
          have hsome := hknown _ hpt
          rw [h.rtpDecoder, hpointer] at hsome
          exact Option.not_isSome_iff_eq_none.mp (by simp [← hsome])
        rw [hpt] at hpointer hindex ⊢
        have hroom := hu (Nat.not_lt.mp hsize) hpt (by rw [h.rtpDecoder, hpointer])
        have hroom' := hv (Nat.not_lt.mp hsize) hpt hpointer
        simp only [gt_iff_lt, Nat.not_lt.mpr hroom, Nat.not_lt.mpr hroom', if_false, if_true]
        exact (hindex.createRtpDecoder _).inputSort _ _

/-! Runs. -/

/-- The calls are the same apart from some that meet `p`, which stand anywhere. -/
inductive SameApart (p : Call → Prop) : List Call → List Call → Prop where
  | nil : SameApart p [] []
  | both (call : Call) {calls calls' : List Call} (rest : SameApart p calls calls') :
    SameApart p (call :: calls) (call :: calls')
  | left {call : Call} (hp : p call) {calls calls' : List Call} (rest : SameApart p calls calls') :
    SameApart p (call :: calls) calls'
  | right {call : Call} (hp : p call) {calls calls' : List Call} (rest : SameApart p calls calls') :
    SameApart p calls (call :: calls')

theorem delivered_alike {calls calls' : List Call} (hsame : SameApart (Foreign D rpp) calls calls')
    {u v : RtpUnpackImpl σ} (h : Alike u v) (hu : Known D rpp u) (hv : Known D rpp v)
    (hroom : AllMeet (fun u call => (step D u call).1) HasRoom u calls)
    (hroom' : AllMeet (fun u call => (step D u call).1) HasRoom v calls') :
    delivered D u calls = delivered D v calls' := by
  induction hsame generalizing u v with
  | nil => rfl
  | both call rest ih =>
    have hrest := ih (u := (step D u call).1) (v := (step D v call).1)
    by_cases hforeign : Foreign D rpp call
    · obtain ⟨hu', hnone⟩ := foreign_step hu hforeign
      obtain ⟨hv', hnone'⟩ := foreign_step hv hforeign
      rw [delivered, delivered, hnone, hnone']
      exact hrest ((hu'.trans h).trans hv'.symm) (known_step hu call) (known_step hv call) hroom.2 hroom'.2
    · obtain ⟨hstep, hout⟩ := h.step hu hforeign hroom.1 hroom'.1
      rw [delivered, delivered, hout]
      exact congrArg _ (hrest hstep (known_step hu call) (known_step hv call) hroom.2 hroom'.2)
  | left hp rest ih =>
    obtain ⟨hu', hnone⟩ := foreign_step hu hp
    rw [delivered, hnone]
    exact ih (hu'.trans h) (known_step hu _) hv hroom.2 hroom'
  | right hp rest ih =>
    obtain ⟨hv', hnone⟩ := foreign_step hv hp
    rw [delivered, hnone]
    exact ih (h.trans hv'.symm) hu (known_step hv _) hroom hroom'.2

/-- Foreign packets change nothing in what is handed out, as long as the first packet of type 33
still finds room in the map. -/
theorem delivered_isolated (D : RtpDecoders σ F) (rpp : Option RtpPlaylodParam) {calls calls' : List Call}
    (hsame : SameApart (Foreign D rpp) calls calls')
    (hroom : AllMeet (fun u call => (step D u call).1) HasRoom (create D rpp) calls)
    (hroom' : AllMeet (fun u call => (step D u call).1) HasRoom (create D rpp) calls') :
    delivered D (create D rpp) calls = delivered D (create D rpp) calls' :=
  delivered_alike hsame (.refl _) (fun _ _ => rfl) (fun _ _ => rfl) hroom hroom'

/-- Decoders with a queue, whose threads hand out some of the packets in it. -/
def queueDecoders : RtpDecoders (List RtpPacket) RtpPacket where
  h264 := []
  aac _ := []
  g711 := []
  ts := []
  inputRtp queue rtp := (queue ++ [rtp], [])
  thread queue count := (queue.drop count, queue.take count)

/-- A packet of one byte with sequence number 1 and SSRC 7. -/
def smallPacket (pt : Byte) : List Byte := [0x80, pt, 0, 1, 0, 0, 0, 0, 0, 0, 0, 7, 0x47]

/-- Three foreign packets around one of type 33, for which the constructor has made a decoder. -/
theorem delivered_isolated_threeForeign :
    delivered queueDecoders (create queueDecoders (some { pt := 33, ps := .mpeg2Ts }))
      [.setOnRtpUnpack, .parseRtp (some (smallPacket 33)), .thread 33 1] =
    delivered queueDecoders (create queueDecoders (some { pt := 33, ps := .mpeg2Ts }))
      [.setOnRtpUnpack, .parseRtp (some (smallPacket 97)), .parseRtp (some (smallPacket 98)),
        .parseRtp (some (smallPacket 33)), .parseRtp (some (smallPacket 99)), .thread 33 1] := by
  have hforeign (pt : Byte) (hpt : pt = 97 ∨ pt = 98 ∨ pt = 99) :
      Foreign queueDecoders (some { pt := 33, ps := .mpeg2Ts }) (.parseRtp (some (smallPacket pt))) := by
    rcases hpt with rfl | rfl | rfl <;> exact ⟨by decide, by decide, by decide⟩
  refine delivered_isolated queueDecoders (some { pt := 33, ps := .mpeg2Ts })
    (.both _ (.right (hforeign 97 (by simp)) (.right (hforeign 98 (by simp)) (.both _
      (.right (hforeign 99 (by simp)) (.both _ .nil)))))) ?_ ?_
  · refine ⟨trivial, fun _ _ h => ?_, trivial, trivial⟩
    cases h
  · refine ⟨trivial, fun _ h => ?_, fun _ h => ?_, fun _ _ h => ?_, fun _ h => ?_, trivial, trivial⟩
    all_goals cases h

/-- One packet of type 97 keeps an unpacker with a decoder for type 96 from making one for type 33. -/
theorem foreignPacket_delivered_ne : ¬ ∀ (σ F : Type) (D : RtpDecoders σ F) (rpp : Option RtpPlaylodParam)
    (calls calls' : List Call), SameApart (Foreign D rpp) calls calls' →
      delivered D (create D rpp) calls = delivered D (create D rpp) calls' := by
  intro hall
  have hforeign : Foreign queueDecoders (some { pt := 96 }) (.parseRtp (some (smallPacket 97))) :=
    ⟨by decide, by decide, by decide⟩
  have h := congrArg List.length (hall _ _ queueDecoders (some { pt := 96 }) _ _
    (.both .setOnRtpUnpack (.right hforeign (.both (.parseRtp (some (smallPacket 33)))
      (.both (.thread 33 1) .nil)))))
  revert h
  decide +kernel

end RtpUnpackImpl

end WifiDisplay
