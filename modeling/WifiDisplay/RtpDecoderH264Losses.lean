import WifiDisplay.RtpDecoderH264Units
import Mathlib.Data.List.Chain

/-! Streams of single NAL unit packets, STAP-A and FU-A, some of whose packets are
lost: a frame that `RtpDecoderH264` puts out of the rest is a NAL unit of the stream. -/

namespace WifiDisplay

/-- NAL units on their way: alone in a packet, together in a STAP-A, or one of them cut
into the chunks of a FU-A behind its first byte. -/
inductive StreamUnit where
  | single (nal : List Byte)
  | stapA (indicator : Byte) (nals : List (List Byte))
  | fuA (header : Byte) (chunks : List (List Byte))
  deriving DecidableEq, Repr

namespace StreamUnit

def nals : StreamUnit → List (List Byte)
  | single nal => [nal]
  | stapA _ nals => nals
  | fuA header chunks => [header :: chunks.flatten]

def WellFormed : StreamUnit → Prop
  | single nal => nal ≠ [] ∧ h264Type (nal.getD 0 0) < 24
  | stapA indicator nals =>
    h264Type indicator = 24 ∧ ∀ nal ∈ nals, nal ≠ [] ∧ nal.length < 2 ^ 16
  | fuA _ chunks => chunks ≠ []

instance : DecidablePred WellFormed := fun u => by
  cases u <;> unfold WellFormed <;> infer_instance

end StreamUnit

/-- The bytes of a STAP-A behind its first one. -/
def stapBytes (nals : List (List Byte)) : List Byte :=
  nals.flatMap fun nal => RtpMaker.octets16 (BitVec.ofNat 16 nal.length) ++ nal

/-- The second byte of a FU-A. -/
def fuFlags (header : Byte) (isFirst isLast : Bool) : Byte :=
  (header &&& 0x1F) ||| (if isFirst then 0x80 else 0) ||| (if isLast then 0x40 else 0)

/-- What one packet carries. `before` are the chunks of a FU-A that went ahead. -/
inductive StreamPiece where
  | single (nal : List Byte)
  | stapA (indicator : Byte) (nals : List (List Byte))
  | fuA (header : Byte) (before : List Byte) (isFirst isLast : Bool) (chunk : List Byte)
  deriving DecidableEq, Repr

namespace StreamPiece

def payload : StreamPiece → List Byte
  | single nal => nal
  | stapA indicator nals => indicator :: stapBytes nals
  | fuA header _ isFirst isLast chunk =>
    ((header &&& 0xE0) ||| 28) :: fuFlags header isFirst isLast :: chunk

/-- The NAL units that end in the packet. -/
def ended : StreamPiece → List (List Byte)
  | single nal => [nal]
  | stapA _ nals => nals
  | fuA header before _ isLast chunk => if isLast then [header :: (before ++ chunk)] else []

/-- The fragment behind `p`, if there is one, goes on where `p` stops. -/
def Before (p : StreamPiece) : StreamPiece → Prop
  | fuA header before false _ _ => ∃ ahead isFirst chunk,
      p = fuA header ahead isFirst false chunk ∧ before = ahead ++ chunk
  | _ => True

def WellFormed : StreamPiece → Prop
  | single nal => nal ≠ [] ∧ h264Type (nal.getD 0 0) < 24
  | stapA indicator nals =>
    h264Type indicator = 24 ∧ ∀ nal ∈ nals, nal ≠ [] ∧ nal.length < 2 ^ 16
  | fuA _ before isFirst _ _ => isFirst → before = []

def Starts : StreamPiece → Prop
  | fuA _ _ isFirst _ _ => isFirst
  | _ => True

end StreamPiece

def fragments (header : Byte) (before : List Byte) (isFirst : Bool) :
    List (List Byte) → List StreamPiece
  | [] => []
  | chunk :: chunks => .fuA header before isFirst chunks.isEmpty chunk ::
      fragments header (before ++ chunk) false chunks

namespace StreamUnit

def pieces : StreamUnit → List StreamPiece
  | single nal => [.single nal]
  | stapA indicator nals => [.stapA indicator nals]
  | fuA header chunks => fragments header [] true chunks

end StreamUnit

/-- The packets carry the units in order, numbered from `start`. -/
structure Transmits (start : BitVec 16) (units : List StreamUnit) (rtps : List RtpPacket) :
    Prop where
  payloads : rtps.map (fun p => p.getPayload.take p.getPayloadSize) =
    (units.flatMap StreamUnit.pieces).map StreamPiece.payload
  seqs : ∀ i (hi : i < rtps.length), rtps[i].getSeq = start + BitVec.ofNat 16 i

/-- Fewer than 2^16 packets are lost between two that arrive. -/
def ShortGaps {n : Nat} (kept : List (Fin n)) : Prop :=
  kept.IsChain fun i j => i.val < j.val ∧ j.val ≤ i.val + 2 ^ 16

namespace StreamPiece

theorem starts_before {p q : StreamPiece} (h : q.Starts) : p.Before q := by
  cases q with
  | single => trivial
  | stapA => trivial
  | fuA header before isFirst isLast chunk =>
    cases isFirst with
    | true => trivial
    | false => cases h

end StreamPiece

theorem fragments_chain (header : Byte) (before : List Byte) (isFirst : Bool)
    (chunks : List (List Byte)) :
    (fragments header before isFirst chunks).IsChain StreamPiece.Before := by
  induction chunks generalizing before isFirst with
  | nil => exact .nil
  | cons chunk chunks ih =>
    cases chunks with
    | nil => exact .singleton _
    | cons next rest => exact .cons_cons ⟨_, _, _, rfl, rfl⟩ (ih (before ++ chunk) false)

theorem fragments_ended {header : Byte} {before : List Byte} {isFirst : Bool}
    {chunks : List (List Byte)} :
    ∀ p ∈ fragments header before isFirst chunks, p.ended ⊆ [header :: (before ++ chunks.flatten)] := by
  induction chunks generalizing before isFirst with
  | nil => simp [fragments]
  | cons chunk chunks ih =>
    intro p hp
    rw [fragments, List.mem_cons] at hp
    rcases hp with rfl | hp
    · cases chunks with
      | nil => simp [StreamPiece.ended]
      | cons next rest => simp [StreamPiece.ended]
    · simpa using ih p hp

namespace StreamUnit

theorem pieces_chain (u : StreamUnit) : u.pieces.IsChain StreamPiece.Before := by
  cases u with
  | single => exact .singleton _
  | stapA => exact .singleton _
  | fuA header chunks => exact fragments_chain header [] true chunks

theorem pieces_start (u : StreamUnit) : ∀ p ∈ u.pieces.head?, p.Starts := by
  cases u with
  | single => simp [pieces, StreamPiece.Starts]
  | stapA => simp [pieces, StreamPiece.Starts]
  | fuA header chunks => cases chunks <;> simp [pieces, fragments, StreamPiece.Starts]

theorem pieces_ended (u : StreamUnit) : ∀ p ∈ u.pieces, p.ended ⊆ u.nals := by
  cases u with
  | single => simp [pieces, StreamPiece.ended, nals]
  | stapA => simp [pieces, StreamPiece.ended, nals]
  | fuA header chunks =>
    intro p hp
    simpa [nals] using fragments_ended p hp

end StreamUnit

theorem fragments_wellFormed {header : Byte} {before : List Byte} {isFirst : Bool}
    {chunks : List (List Byte)} (h : isFirst → before = []) :
    ∀ p ∈ fragments header before isFirst chunks, p.WellFormed := by
  induction chunks generalizing before isFirst with
  | nil => simp [fragments]
  | cons chunk chunks ih =>
    intro p hp
    rw [fragments, List.mem_cons] at hp
    rcases hp with rfl | hp
    · exact h
    · exact ih (fun hfalse => by cases hfalse) p hp

theorem stream_wellFormed {units : List StreamUnit} (h : ∀ u ∈ units, u.WellFormed) :
    ∀ p ∈ units.flatMap StreamUnit.pieces, p.WellFormed := by
  intro p hp
  obtain ⟨u, hu, hp⟩ := List.mem_flatMap.mp hp
  have hwf := h u hu
  cases u with
  | single nal =>
    rw [StreamUnit.pieces, List.mem_singleton] at hp
    exact hp ▸ hwf
  | stapA indicator nals =>
    rw [StreamUnit.pieces, List.mem_singleton] at hp
    exact hp ▸ hwf
  | fuA header chunks => exact fragments_wellFormed (fun _ => rfl) p hp

theorem stream_ended {units : List StreamUnit} {p : StreamPiece}
    (hp : p ∈ units.flatMap StreamUnit.pieces) : p.ended ⊆ units.flatMap StreamUnit.nals := by
  intro nal hnal
  obtain ⟨u, hu, hp⟩ := List.mem_flatMap.mp hp
  exact List.mem_flatMap.mpr ⟨u, hu, u.pieces_ended p hp hnal⟩

theorem StreamPiece.WellFormed.payload_ne_nil {p : StreamPiece} (h : p.WellFormed) :
    p.payload ≠ [] := by
  cases p with
  | single nal => exact h.1
  | stapA => exact List.cons_ne_nil _ _
  | fuA => exact List.cons_ne_nil _ _

theorem stream_start (units : List StreamUnit) :
    ∀ p ∈ (units.flatMap StreamUnit.pieces).head?, p.Starts := by
  induction units with
  | nil => simp
  | cons u units ih =>
    intro p hp
    rw [List.flatMap_cons, List.head?_append] at hp
    cases hu : u.pieces.head? with
    | none => exact ih p (by simpa [hu] using hp)
    | some q => exact u.pieces_start p (by simpa [hu] using hp)

theorem stream_chain (units : List StreamUnit) :
    (units.flatMap StreamUnit.pieces).IsChain StreamPiece.Before := by
  induction units with
  | nil => exact .nil
  | cons u units ih =>
    rw [List.flatMap_cons, List.isChain_append]
    exact ⟨u.pieces_chain, ih, fun _ _ q hq => StreamPiece.starts_before (stream_start units q hq)⟩

theorem fuFlags_first (header : Byte) (isFirst isLast : Bool) :
    (fuFlags header isFirst isLast).getLsbD 7 = isFirst := by
  cases isFirst <;> cases isLast <;> simp [fuFlags]

theorem fuFlags_last (header : Byte) (isFirst isLast : Bool) :
    (fuFlags header isFirst isLast).getLsbD 6 = isLast := by
  cases isFirst <;> cases isLast <;> simp [fuFlags]

theorem fuFlags_header (header : Byte) (isFirst isLast : Bool) :
    ((((header &&& 0xE0) ||| 28) &&& 0xE0) ||| (fuFlags header isFirst isLast &&& 0x1F) : Byte) =
      header := by
  revert header isFirst isLast
  decide +kernel

theorem fu_type (header : Byte) : h264Type ((header &&& 0xE0) ||| 28) = 28 := by
  revert header
  decide +kernel

namespace RtpDecoderH264

theorem stapBytes_cons (nal : List Byte) (nals : List (List Byte)) :
    stapBytes (nal :: nals) = (BitVec.ofNat 16 nal.length).extractLsb' 8 8 ::
      (BitVec.ofNat 16 nal.length).extractLsb' 0 8 :: (nal ++ stapBytes nals) := by
  simp [stapBytes, RtpMaker.octets16]

theorem stap_length {n : Nat} (h : n < 2 ^ 16) :
    ((BitVec.ofNat 16 n).extractLsb' 8 8 ++ (BitVec.ofNat 16 n).extractLsb' 0 8).toNat = n := by
  rw [RtpMaker.octets16_append, BitVec.toNat_ofNat]
  exact Nat.mod_eq_of_lt h

theorem stapUnits_nals {nals : List (List Byte)}
    (h : ∀ nal ∈ nals, nal ≠ [] ∧ nal.length < 2 ^ 16) :
    stapUnits (stapBytes nals) = nals.map (startCode ++ ·) := by
  induction nals with
  | nil => simp [stapUnits, stapBytes]
  | cons nal nals ih =>
    obtain ⟨hne, hlt⟩ := h nal List.mem_cons_self
    have hpos : 0 < nal.length := List.length_pos_iff.mpr hne
    have hfits : ¬ (nal.length = 0 ∨ nal.length > (nal ++ stapBytes nals).length + 2) := by
      rw [List.length_append]
      omega
    rw [stapBytes_cons, stapUnits, if_neg (by simp [hne])]
    simp only [stap_length hlt]
    rw [if_neg hfits, List.take_left, List.drop_left,
      ih fun nal' hnal' => h nal' (List.mem_cons_of_mem _ hnal'), List.map_cons]

theorem unpackStapA_ok {nals : List (List Byte)}
    (h : ∀ nal ∈ nals, nal ≠ [] ∧ nal.length < 2 ^ 16) (d : RtpDecoderH264) (stamp : BitVec 32) :
    ∃ r, d.unpackStapA (stapBytes nals) stamp = .ok r := by
  induction nals generalizing d with
  | nil => exact ⟨(d, [], false), by simp [unpackStapA, stapBytes]⟩
  | cons nal nals ih =>
    obtain ⟨hne, hlt⟩ := h nal List.mem_cons_self
    have hpos : 0 < nal.length := List.length_pos_iff.mpr hne
    have hfits : ¬ (nal.length = 0 ∨ nal.length > (nal ++ stapBytes nals).length + 2) := by
      rw [List.length_append]
      omega
    have hin : ¬ nal.length > (nal ++ stapBytes nals).length := by
      rw [List.length_append]
      omega
    obtain ⟨r, hr⟩ := ih (fun nal' hnal' => h nal' (List.mem_cons_of_mem _ hnal'))
      (d.unpackSingle nal stamp).1
    rw [stapBytes_cons, unpackStapA, if_neg (by simp [hne])]
    simp only [stap_length hlt]
    rw [if_neg hfits, if_neg hin, List.take_left, List.drop_left, hr]
    exact ⟨_, rfl⟩

/-- The fragments held back belong to the NAL unit that `p` does not end. -/
def Holds (d : RtpDecoderH264) (p : StreamPiece) : Prop :=
  ∀ header before isFirst chunk, p = .fuA header before isFirst false chunk →
    d.fuDropped = false → d.frame.data = startCode ++ header :: (before ++ chunk)

/-- If `p` is the next packet by its number and goes on with a NAL unit, the fragments
ahead of it are held back. -/
def Ready (d : RtpDecoderH264) (p : StreamPiece) (seq : BitVec 16) : Prop :=
  ∀ header before isLast chunk, p = .fuA header before false isLast chunk →
    d.fuDropped = false → seq = d.lastSeq + 1 → d.frame.data = startCode ++ header :: before

theorem Holds.ready {d : RtpDecoderH264} {p q : StreamPiece} {seq : BitVec 16} (h : d.Holds p)
    (hpq : seq = d.lastSeq + 1 → p.Before q) : d.Ready q seq := by
  rintro header before isLast chunk rfl hdropped hseq
  obtain ⟨ahead, isFirst, chunk', rfl, rfl⟩ := hpq hseq
  exact h header ahead isFirst chunk' rfl hdropped

theorem unpackFuA_held {d d' : RtpDecoderH264} {indicator flags : Byte} {rest : List Byte}
    {stamp : BitVec 32} {seq : BitVec 16} {out : List H264Frame} {key : Bool}
    (h : d.unpackFuA (indicator :: flags :: rest) stamp seq = .ok (d', out, key))
    (hd' : d'.fuDropped = false) :
    if flags.getLsbD 7 then
      d'.frame.data = startCode ++ ((indicator &&& 0xE0) ||| (flags &&& 0x1F)) :: rest
    else d.fuDropped = false ∧ seq = d.lastSeq + 1 ∧ d'.frame.data = d.frame.data ++ rest := by
  cases hstart : flags.getLsbD 7 with
  | true =>
    simp only [unpackFuA, hstart, if_true, Bool.false_eq_true, if_false, not_true,
      false_and] at h
    split at h
    · simp only [Except.ok.injEq, Prod.mk.injEq] at h
      rw [if_pos rfl, ← h.1]
      rfl
    · simp only [Except.ok.injEq, Prod.mk.injEq] at h
      rw [← h.1] at hd'
      cases hd'
  | false =>
    simp only [unpackFuA, hstart, Bool.false_eq_true, if_false, not_false_eq_true, true_and] at h
    rw [if_neg Bool.false_ne_true]
    split at h
    next hdropped =>
      simp only [Except.ok.injEq, Prod.mk.injEq] at h
      rw [← h.1, hdropped] at hd'
      cases hd'
    next hdropped =>
      split at h
      · simp only [Except.ok.injEq, Prod.mk.injEq] at h
        rw [← h.1] at hd'
        cases hd'
      next hseq =>
        split at h
        · simp only [Except.ok.injEq, Prod.mk.injEq] at h
          rw [← h.1]
          exact ⟨by simpa using hdropped, not_not.mp hseq, rfl⟩
        · simp only [Except.ok.injEq, Prod.mk.injEq] at h
          rw [← h.1] at hd'
          cases hd'

theorem unpackFuA_ok (d : RtpDecoderH264) (indicator flags : Byte) (rest : List Byte)
    (stamp : BitVec 32) (seq : BitVec 16) :
    ∃ r, d.unpackFuA (indicator :: flags :: rest) stamp seq = .ok r := by
  simp only [unpackFuA]
  split
  · split
    · exact ⟨_, rfl⟩
    · split
      · exact ⟨_, rfl⟩
      · split <;> exact ⟨_, rfl⟩
  · split
    · exact ⟨_, rfl⟩
    · split
      · exact ⟨_, rfl⟩
      · split <;> exact ⟨_, rfl⟩

/-- What an arriving packet leaves, whatever was lost ahead of it. -/
theorem unpack_piece {d : RtpDecoderH264} {p : StreamPiece}
    (hp : p.WellFormed) {seq : BitVec 16} (hready : d.Ready p seq) (stamp : BitVec 32) :
    ∃ d' out key, d.unpack p.payload stamp seq = .ok (d', out, key) ∧ d'.Holds p ∧
      ∀ u ∈ d.units p.payload seq, ∃ nal ∈ p.ended, u = startCode ++ nal := by
  cases p with
  | single nal =>
    obtain ⟨hne, hlt⟩ := hp
    have h24 : ¬ h264Type (nal.getD 0 0) = 24 := by omega
    have h28 : ¬ h264Type (nal.getD 0 0) = 28 := by omega
    refine ⟨(d.unpackSingle nal stamp).1, (d.unpackSingle nal stamp).2.1,
      (d.unpackSingle nal stamp).2.2, ?_, ?_, ?_⟩
    · rw [StreamPiece.payload, unpack, if_neg h24, if_neg h28, if_pos hlt]
    · rintro _ _ _ _ ⟨⟩
    · intro u hu
      rw [StreamPiece.payload, units, if_neg h24, if_neg h28, if_pos hlt,
        List.mem_singleton] at hu
      exact ⟨nal, List.mem_singleton_self nal, hu⟩
  | stapA indicator nals =>
    obtain ⟨htype, hnals⟩ := hp
    have h24 : h264Type ((indicator :: stapBytes nals).getD 0 0) = 24 := htype
    obtain ⟨⟨d', out, key⟩, hok⟩ := unpackStapA_ok hnals d stamp
    refine ⟨d', out, key, ?_, ?_, ?_⟩
    · rw [StreamPiece.payload, unpack, if_pos h24]
      exact hok
    · rintro _ _ _ _ ⟨⟩
    · intro u hu
      rw [StreamPiece.payload, units, if_pos h24, List.drop_one, List.tail_cons,
        stapUnits_nals hnals] at hu
      obtain ⟨nal, hnal, rfl⟩ := List.mem_map.mp hu
      exact ⟨nal, hnal, rfl⟩
  | fuA header before isFirst isLast chunk =>
    have h28 : h264Type (((header &&& 0xE0 ||| 28) ::
        fuFlags header isFirst isLast :: chunk).getD 0 0) = 28 := fu_type header
    have h24 : ¬ h264Type (((header &&& 0xE0 ||| 28) ::
        fuFlags header isFirst isLast :: chunk).getD 0 0) = 24 := by omega
    obtain ⟨⟨d', out, key⟩, hok⟩ := unpackFuA_ok d (header &&& 0xE0 ||| 28)
      (fuFlags header isFirst isLast) chunk stamp seq
    refine ⟨d', out, key, ?_, ?_, ?_⟩
    · rw [StreamPiece.payload, unpack, if_neg h24, if_pos h28]
      exact hok
    · rintro header' before' isFirst' chunk' ⟨⟩ hd'
      have hheld := unpackFuA_held hok hd'
      rw [fuFlags_first, fuFlags_header] at hheld
      cases isFirst with
      | true =>
        rw [if_pos rfl] at hheld
        rw [hheld, hp rfl, List.nil_append]
      | false =>
        rw [if_neg Bool.false_ne_true] at hheld
        obtain ⟨hdropped, hseq, hdata⟩ := hheld
        rw [hdata, hready header before false chunk rfl hdropped hseq]
        simp
    · intro u hu
      rw [StreamPiece.payload, units, if_neg h24, if_pos h28, fuUnits, fuFlags_first,
        fuFlags_last, fuFlags_header] at hu
      cases isLast with
      | false => simp at hu
      | true =>
        refine ⟨header :: (before ++ chunk), by simp [StreamPiece.ended], ?_⟩
        cases isFirst with
        | true =>
          rw [if_neg (not_not.mpr rfl), if_pos rfl, List.mem_singleton] at hu
          rw [hu, hp rfl, List.nil_append]
        | false =>
          rw [if_neg (not_not.mpr rfl), if_neg Bool.false_ne_true] at hu
          split at hu
          next hin =>
            have hdropped : d.fuDropped = false := by simpa using hin.1
            rw [List.mem_singleton,
              hready header before true chunk rfl hdropped hin.2] at hu
            rw [hu]
            simp
          next => simp at hu

theorem inputRtp_piece {d : RtpDecoderH264} (hd : d.frame.prefixSize = 4) {p : StreamPiece}
    (hp : p.WellFormed) {rtp : RtpPacket}
    (hpayload : rtp.getPayload.take rtp.getPayloadSize = p.payload)
    (hready : d.Ready p rtp.getSeq) :
    ∃ d' out, d.inputRtp (some rtp) = .ok (d', out) ∧ d'.frame.prefixSize = 4 ∧
      d'.lastSeq = rtp.getSeq ∧ d'.Holds p ∧ ∀ f ∈ out, ∃ nal ∈ p.ended, f.data = startCode ++ nal := by
  obtain ⟨d', out, key, hok, hholds, hunits⟩ := unpack_piece hp hready rtp.getStampMS
  have hput := unpack_putsOut hd hok
  refine ⟨d'.compareSeq rtp.getSeq, out, inputRtp_of_unpack hpayload hp.payload_ne_nil hok,
    hput.prefixSize, rfl, hholds, ?_⟩
  intro f hf
  have hmem : f.data ∈ out.map (·.data) := List.mem_map_of_mem hf
  rw [hput.out] at hmem
  exact hunits f.data (passGate_subset hmem)

end RtpDecoderH264

theorem Transmits.length {start : BitVec 16} {units : List StreamUnit} {rtps : List RtpPacket}
    (h : Transmits start units rtps) :
    rtps.length = (units.flatMap StreamUnit.pieces).length := by
  have hlength := congrArg List.length h.payloads
  rwa [List.length_map, List.length_map] at hlength

theorem succ_of_seq {start : BitVec 16} {i j : Nat} (hlt : i < j) (hle : j ≤ i + 2 ^ 16)
    (h : start + BitVec.ofNat 16 j = start + BitVec.ofNat 16 i + 1) : j = i + 1 := by
  have hnat := congrArg BitVec.toNat h
  simp only [BitVec.toNat_add, BitVec.toNat_ofNat] at hnat
  have hone : (1 : BitVec 16).toNat = 1 := rfl
  omega

namespace RtpDecoderH264

theorem inputAll_kept {start : BitVec 16} {units : List StreamUnit} {rtps : List RtpPacket}
    (h : Transmits start units rtps) (hwf : ∀ u ∈ units, u.WellFormed)
    {kept : List (Fin rtps.length)} (hkept : ShortGaps kept) {d : RtpDecoderH264}
    (hd : d.frame.prefixSize = 4)
    (hready : ∀ i ∈ kept.head?, ∀ p, (units.flatMap StreamUnit.pieces)[i.val]? = some p →
      d.Ready p rtps[i].getSeq) :
    ∃ d' frames, d.inputAll (kept.map fun i => some rtps[i]) = .ok (d', frames) ∧
      ∀ f ∈ frames, ∃ nal ∈ units.flatMap StreamUnit.nals, f.data = startCode ++ nal := by
  induction kept generalizing d with
  | nil => exact ⟨d, [], rfl, by simp⟩
  | cons i kept ih =>
    have hi : i.val < (units.flatMap StreamUnit.pieces).length := h.length ▸ i.isLt
    set p := (units.flatMap StreamUnit.pieces)[i.val] with hp
    have hget : (units.flatMap StreamUnit.pieces)[i.val]? = some p := List.getElem?_eq_getElem hi
    have hmem : p ∈ units.flatMap StreamUnit.pieces := List.getElem_mem hi
    have hpayload : rtps[i].getPayload.take rtps[i].getPayloadSize = p.payload := by
      have := congrArg (·[i.val]?) h.payloads
      simpa [hget] using this
    obtain ⟨d₁, out, hstep, hd₁, hseq, hholds, hout⟩ :=
      inputRtp_piece hd (stream_wellFormed hwf p hmem) hpayload (hready i rfl p hget)
    have hready₁ : ∀ j ∈ kept.head?, ∀ q, (units.flatMap StreamUnit.pieces)[j.val]? = some q →
        d₁.Ready q rtps[j].getSeq := by
      intro j hj q hq
      refine hholds.ready fun hnext => ?_
      cases kept with
      | nil => cases hj
      | cons k kept =>
        cases hj
        have hij := (List.isChain_cons_cons.mp hkept).1
        rw [hseq] at hnext
        have hjlt : j.val < rtps.length := j.isLt
        have hsucc : j.val = i.val + 1 :=
          succ_of_seq hij.1 hij.2 ((h.seqs j j.isLt).symm.trans (hnext.trans
            (congrArg (· + 1) (h.seqs i i.isLt))))
        have hj' : i.val + 1 < (units.flatMap StreamUnit.pieces).length := by
          rw [← h.length, ← hsucc]
          exact j.isLt
        rw [hsucc, List.getElem?_eq_getElem hj'] at hq
        cases hq
        exact List.isChain_iff_getElem.mp (stream_chain units) i.val hj'
    obtain ⟨d₂, frames, hrun, hframes⟩ := ih hkept.tail hd₁ hready₁
    refine ⟨d₂, out ++ frames, ?_, ?_⟩
    · rw [List.map_cons, inputAll, hstep]
      simp only [bind, Except.bind, hrun, pure, Except.pure]
    · intro f hf
      rcases List.mem_append.mp hf with hf | hf
      · obtain ⟨nal, hnal, hdata⟩ := hout f hf
        exact ⟨nal, stream_ended hmem hnal, hdata⟩
      · exact hframes f hf

/-- Every frame put out is a NAL unit of the stream behind a start code, whatever is lost. -/
theorem inputAll_complete {start : BitVec 16} {units : List StreamUnit} {rtps : List RtpPacket}
    (h : Transmits start units rtps) (hwf : ∀ u ∈ units, u.WellFormed)
    {kept : List (Fin rtps.length)} (hkept : ShortGaps kept) :
    ∃ d frames, ({} : RtpDecoderH264).inputAll (kept.map fun i => some rtps[i]) =
        .ok (d, frames) ∧
      ∀ f ∈ frames, ∃ nal ∈ units.flatMap StreamUnit.nals, f.data = startCode ++ nal := by
  refine inputAll_kept h hwf hkept rfl fun i hi p hp => ?_
  rintro header before isLast chunk rfl hdropped
  cases hdropped

/-- A key frame in three fragments, a slice alone, a STAP-A and a slice in two fragments. -/
def mixedStream : List StreamUnit :=
  [.fuA 0x65 [[0x88, 1], [2], [3]], .single [0x41, 0x9A, 4], .stapA 24 [[0x41, 0x9B], [6, 5]],
    .fuA 0x41 [[0x9C], [7]]]

/-- Its packets, numbered over the wrap. -/
def mixedPackets : List RtpPacket :=
  (mixedStream.flatMap StreamUnit.pieces).mapIdx fun i p =>
    (RtpMaker.create 0 1 1400 96 90000 (65534 + BitVec.ofNat 16 i) 0).built p.payload false 0

/-- The first fragment of the last slice is lost. -/
def mixedKept : List (Fin mixedPackets.length) :=
  [⟨0, by decide⟩, ⟨1, by decide⟩, ⟨2, by decide⟩, ⟨3, by decide⟩, ⟨4, by decide⟩, ⟨6, by decide⟩]

theorem inputAll_complete_wrap :
    ∃ d frames, ({} : RtpDecoderH264).inputAll (mixedKept.map fun i => some mixedPackets[i]) =
        .ok (d, frames) ∧
      ∀ f ∈ frames, ∃ nal ∈ mixedStream.flatMap StreamUnit.nals, f.data = startCode ++ nal := by
  have hsent : Transmits 65534 mixedStream mixedPackets := ⟨by decide +kernel, by decide +kernel⟩
  have hkept : ShortGaps mixedKept := by
    simp [ShortGaps, mixedKept, List.isChain_cons_cons]
  exact inputAll_complete hsent (by decide) hkept

end RtpDecoderH264

end WifiDisplay
