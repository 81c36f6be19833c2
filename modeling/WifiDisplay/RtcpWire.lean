import WifiDisplay.RtcpBye

/-! Sender and receiver reports as the bytes that go out, beside the diagrams of their packets. -/

namespace WifiDisplay

def rtcpTypeSR : Byte := 200

def rtcpTypeRR : Byte := 201

/-- `seqMax_`, `seqCycles_`, `ssrc_`, `jitter_`, `lastSrStamp_`, the unit of the two bit fields,
`delaySinceLastSr_`. -/
def reportItemFields : List FieldType := [⟨2, 2⟩, ⟨2, 2⟩, ⟨4, 4⟩, ⟨4, 4⟩, ⟨4, 4⟩, ⟨4, 4⟩, ⟨4, 4⟩]

def sizeofReportItem : ℕ := structSize reportItemFields

/-- The header, `ssrc_`, `rtpts_`, `ntpmsw_`, `ntplsw_`, `octetCount_`, `packetCount_`, `items_`. -/
def rtcpSRFields : List FieldType :=
  [⟨sizeofRtcpHeader, 2⟩, ⟨4, 4⟩, ⟨4, 4⟩, ⟨4, 4⟩, ⟨4, 4⟩, ⟨4, 4⟩, ⟨4, 4⟩, ⟨sizeofReportItem, 4⟩]

/-- The header, `ssrc_`, `items_`. -/
def rtcpRRFields : List FieldType := [⟨sizeofRtcpHeader, 2⟩, ⟨4, 4⟩, ⟨sizeofReportItem, 4⟩]

namespace RtcpWire

open RtcpBye (getSize setupHeader setupPadding)

/-- The place of a field, by its number. -/
def place (fields : List FieldType) (i : ℕ) : ℕ := (fieldOffsets 0 fields).getD i 0

def storeWord (offset : ℕ) (x : BitVec 32) (p : ByteBlock) : Option ByteBlock :=
  p.store offset (ByteBlock.littleEndian 4 x.toNat)

def storeHalf (offset : ℕ) (x : BitVec 16) (p : ByteBlock) : Option ByteBlock :=
  p.store offset (ByteBlock.littleEndian 2 x.toNat)

/-- `Create` of a report with its items, over what the allocation holds before. -/
def create (memory : ℕ → Byte) (fields : List FieldType) (type : Byte) (itemCount : ℕ) :
    Option (Option ByteBlock) := do
  let realSize := structSize fields - sizeofReportItem + itemCount * sizeofReportItem
  let bytes := alignSize (BitVec.ofNat 32 realSize)
  if bytes.toInt ≤ 0 then return none
  let p ← setupHeader ((List.range bytes.toNat).map memory) type itemCount bytes
  let p ← setupPadding p (bytes.signExtend 64 - BitVec.ofNat 64 realSize)
  return some p

/-- The members that `CreateRtcpSR` sets, in its order. -/
def storeSR (sr : RtcpSR) (p : ByteBlock) : Option ByteBlock :=
  storeWord (place rtcpSRFields 3) sr.ntpmsw p >>= storeWord (place rtcpSRFields 4) sr.ntplsw >>=
    storeWord (place rtcpSRFields 2) sr.rtpts >>= storeWord (place rtcpSRFields 1) sr.ssrc >>=
    storeWord (place rtcpSRFields 6) sr.packetCount >>= storeWord (place rtcpSRFields 5) sr.octetCount

/-- `cumulative_` is in the low bits of its unit. -/
def storeItem (base : ℕ) (item : ReportItem) (p : ByteBlock) : Option ByteBlock :=
  storeWord (base + place reportItemFields 2) item.ssrc p >>=
    storeWord (base + place reportItemFields 5) (item.fractionLost ++ item.cumulative) >>=
    storeHalf (base + place reportItemFields 1) item.seqCycles >>=
    storeHalf (base + place reportItemFields 0) item.seqMax >>=
    storeWord (base + place reportItemFields 3) item.jitter >>=
    storeWord (base + place reportItemFields 4) item.lastSrStamp >>=
    storeWord (base + place reportItemFields 6) item.delaySinceLastSr

/-- What `PushData` copies. -/
def pushPacket (p : ByteBlock) : Option (List Byte) := do
  let size ← getSize p
  p.load 0 size

/-- The buffer that `CreateRtcpSR` returns. -/
def senderBuffer (memory : ℕ → Byte) (s : RtcpSenderContext) (rtcpSSRC : BitVec 32) (now : BitVec 64) :
    Option (Option (List Byte)) := do
  match ← create memory rtcpSRFields rtcpTypeSR 0 with
  | none => return none
  | some p =>
    let p ← storeSR (s.createRtcpSR rtcpSSRC now).2 p
    let bytes ← pushPacket p
    return some bytes

/-- The buffer that `CreateRtcpRR` returns. -/
def receiverBuffer (memory : ℕ → Byte) (r : RtcpReceiverContext) (rtcpSSRC rtpSSRC : BitVec 32)
    (now : BitVec 64) : Option (Option (List Byte)) := do
  match ← create memory rtcpRRFields rtcpTypeRR 1 with
  | none => return none
  | some p =>
    let rr := (r.createRtcpRR rtcpSSRC rtpSSRC now).2
    let p ← storeWord (place rtcpRRFields 1) rr.ssrc p
    let p ← rr.items.foldlM (fun p item => storeItem (place rtcpRRFields 2) item p) p
    let bytes ← pushPacket p
    return some bytes

/-! The accessors. -/

def setSsrc (p : RtcpSR) (ssrc : BitVec 32) : RtcpSR := { p with ssrc := htonl ssrc }

def getSsrc (p : RtcpSR) : BitVec 32 := ntohl p.ssrc

def setPacketCount (p : RtcpSR) (count : BitVec 32) : RtcpSR := { p with packetCount := htonl count }

def getPacketCount (p : RtcpSR) : BitVec 32 := ntohl p.packetCount

def setNtpStamp (p : RtcpSR) (unixStampMs : BitVec 64) : RtcpSR :=
  { p with ntpmsw := (ntpStamp unixStampMs).1, ntplsw := (ntpStamp unixStampMs).2 }

/-- The divisor is exact, as in `ntpStamp`. -/
def getNtpUnixStampMS (p : RtcpSR) : BitVec 64 :=
  if p.ntpmsw < ntpEpoch then 0
  else
    let sec := (p.ntpmsw - ntpEpoch).toNat
    let usec := ⌊toDouble (p.ntplsw.toNat / (2 ^ 32 * toDouble (1 / 1000000)))⌋.toNat
    BitVec.ofNat 64 (1000 * sec + usec / 1000)

/-! The diagrams. -/

/-- A word, the highest byte first. -/
def bigEndian (x : BitVec 32) : List Byte :=
  [x.extractLsb' 24 8, x.extractLsb' 16 8, x.extractLsb' 8 8, x.extractLsb' 0 8]

/-- `V=2`, `P`, `RC`, `PT`, `length`. -/
def headerDiagram (reportCount : BitVec 5) (type : Byte) (length : BitVec 16) : List Byte :=
  [(2 : BitVec 2) ++ (0 : BitVec 1) ++ reportCount, type, length.extractLsb' 8 8, length.extractLsb' 0 8]

/-- From the values in the order of the host, as in the next one. -/
def senderDiagram (sr : RtcpSR) : List Byte :=
  headerDiagram 0 rtcpTypeSR 6 ++ bigEndian (ntohl sr.ssrc) ++ bigEndian (ntohl sr.ntpmsw) ++
    bigEndian (ntohl sr.ntplsw) ++ bigEndian (ntohl sr.rtpts) ++ bigEndian (ntohl sr.packetCount) ++
    bigEndian (ntohl sr.octetCount)

/-- Source, fraction and loss, extended sequence number, jitter, last SR, delay. -/
def blockDiagram (lost : BitVec 24) (item : ReportItem) : List Byte :=
  bigEndian (ntohl item.ssrc) ++ bigEndian (item.fractionLost ++ lost) ++
    bigEndian (htons item.seqCycles ++ htons item.seqMax) ++ bigEndian (ntohl item.jitter) ++
    bigEndian (ntohl item.lastSrStamp) ++ bigEndian (ntohl item.delaySinceLastSr)

def receiverDiagram (lost : BitVec 24) (rr : RtcpRR) : List Byte :=
  headerDiagram 1 rtcpTypeRR 7 ++ bigEndian (ntohl rr.ssrc) ++ rr.items.flatMap (blockDiagram lost)

/-- The buffers are as the diagrams, and the getters give back what was set. -/
structure Wired (memory : ℕ → Byte) (s : RtcpSenderContext) (r : RtcpReceiverContext)
    (rtcpSSRC rtpSSRC : BitVec 32) (now : BitVec 64) (p : RtcpSR) (ssrc count : BitVec 32) (ms : BitVec 64) :
    Prop where
  sender : senderBuffer memory s rtcpSSRC now = some (some (senderDiagram (s.createRtcpSR rtcpSSRC now).2))
  receiver : receiverBuffer memory r rtcpSSRC rtpSSRC now = some (some
    (receiverDiagram (r.getLost.setWidth 24) (r.createRtcpRR rtcpSSRC rtpSSRC now).2))
  ntpStamp : getNtpUnixStampMS (setNtpStamp p ms) = ms
  ssrc : getSsrc (setSsrc p ssrc) = ssrc
  packetCount : getPacketCount (setPacketCount p count) = count

/-! Stores in memory that is a header and words. -/

/-- Words of memory. -/
structure Words (count : ℕ) (words : List (List Byte)) : Prop where
  count : words.length = count
  length : ∀ word ∈ words, word.length = 4

theorem Words.set {count : ℕ} {words : List (List Byte)} (h : Words count words) (k : ℕ) {word : List Byte}
    (hword : word.length = 4) : Words count (words.set k word) where
  count := by rw [List.length_set, h.count]
  length word' hmem := by
    rcases List.mem_or_eq_of_mem_set hmem with hmem | rfl
    · exact h.length word' hmem
    · exact hword

/-- A store inside one of the words. -/
theorem store_word (header : List Byte) {words : List (List Byte)} {k : ℕ} {front old back new : List Byte}
    (hwords : ∀ word ∈ words, word.length = 4) (hk : words[k]? = some (front ++ (old ++ back)))
    (hnew : new.length = old.length) :
    ByteBlock.store (header ++ words.flatten) (header.length + 4 * k + front.length) new =
      some (header ++ (words.set k (front ++ (new ++ back))).flatten) := by
  induction words generalizing header k with
  | nil => cases hk
  | cons word words ih =>
    obtain ⟨hword, hrest⟩ := List.forall_mem_cons.mp hwords
    cases k with
    | zero =>
      obtain rfl : word = front ++ (old ++ back) := Option.some.inj hk
      have hplace : header.length + 4 * 0 + front.length = (header ++ front).length := by
        rw [Nat.mul_zero, Nat.add_zero, List.length_append]
      have hmemory : header ++ ((front ++ (old ++ back)) :: words).flatten =
          (header ++ front) ++ (old ++ (back ++ words.flatten)) := by
        simp only [List.flatten_cons, List.append_assoc]
      rw [hplace, hmemory, ByteBlock.store, if_pos (by simp only [List.length_append]; omega), List.take_left,
        ← List.drop_drop, List.drop_left, hnew, List.drop_left]
      simp only [List.set_cons_zero, List.flatten_cons, List.append_assoc]
    | succ k =>
      have hplace : header.length + 4 * (k + 1) + front.length = (header ++ word).length + 4 * k + front.length := by
        rw [List.length_append, hword]
        omega
      rw [List.flatten_cons, ← List.append_assoc, hplace, ih _ hrest hk, List.set_cons_succ, List.flatten_cons,
        List.append_assoc]

theorem storeWord_word (header : List Byte) {count : ℕ} {words : List (List Byte)} (h : Words count words) {k : ℕ}
    (hk : k < count) (x : BitVec 32) :
    storeWord (header.length + 4 * k) x (header ++ words.flatten) =
      some (header ++ (words.set k (ByteBlock.littleEndian 4 x.toNat)).flatten) := by
  have hlt : k < words.length := h.count.symm ▸ hk
  have hword := h.length _ (List.getElem_mem hlt)
  have hget : words[k]? = some ([] ++ (words[k] ++ [])) := by
    rw [List.nil_append, List.append_nil]
    exact List.getElem?_eq_getElem hlt
  have hnew : (ByteBlock.littleEndian 4 x.toNat).length = words[k].length := by
    rw [ByteBlock.littleEndian_length, hword]
  have hstore := store_word header h.length hget hnew
  rwa [List.nil_append, List.append_nil] at hstore

/-- The upper half first, then the lower one. -/
theorem storeHalves_word (header : List Byte) {count : ℕ} {words : List (List Byte)} (h : Words count words) {k : ℕ}
    (hk : k < count) (upper lower : BitVec 16) :
    (storeHalf (header.length + 4 * k + 2) upper (header ++ words.flatten) >>=
        storeHalf (header.length + 4 * k) lower) =
      some (header ++ (words.set k
        (ByteBlock.littleEndian 2 lower.toNat ++ ByteBlock.littleEndian 2 upper.toNat)).flatten) := by
  have hlt : k < words.length := h.count.symm ▸ hk
  have hword := h.length _ (List.getElem_mem hlt)
  have hhalf : ∀ x : BitVec 16, (ByteBlock.littleEndian 2 x.toNat).length = 2 := fun x =>
    ByteBlock.littleEndian_length 2 _
  have hget : words[k]? = some (words[k].take 2 ++ (words[k].drop 2 ++ [])) := by
    rw [List.append_nil, List.take_append_drop]
    exact List.getElem?_eq_getElem hlt
  have htake : (words[k].take 2).length = 2 := by
    rw [List.length_take, hword]
    rfl
  have hdrop : (ByteBlock.littleEndian 2 upper.toNat).length = (words[k].drop 2).length := by
    rw [hhalf, List.length_drop, hword]
  have hupper := store_word header h.length hget hdrop
  rw [htake, List.append_nil] at hupper
  have hboth : (words[k].take 2 ++ ByteBlock.littleEndian 2 upper.toNat).length = 4 := by
    rw [List.length_append, htake, hhalf]
  have hset := h.set k hboth
  have hget' : (words.set k (words[k].take 2 ++ ByteBlock.littleEndian 2 upper.toNat))[k]? =
      some ([] ++ (words[k].take 2 ++ ByteBlock.littleEndian 2 upper.toNat)) :=
    List.getElem?_set_self hlt
  have hlower := store_word header hset.length hget' ((hhalf lower).trans htake.symm)
  rw [List.set_set] at hlower
  rw [storeHalf, hupper]
  exact hlower

/-- Memory in words. -/
theorem exists_words (n : ℕ) {memory : List Byte} (h : memory.length = 4 * n) :
    ∃ words : List (List Byte), memory = words.flatten ∧ Words n words := by
  induction n generalizing memory with
  | zero => exact ⟨[], List.length_eq_zero_iff.mp h, rfl, fun _ hmem => absurd hmem List.not_mem_nil⟩
  | succ n ih =>
    have hrest : (memory.drop 4).length = 4 * n := by
      rw [List.length_drop]
      omega
    obtain ⟨words, hmemory, hcount, hlength⟩ := ih hrest
    refine ⟨memory.take 4 :: words, ?_, congrArg Nat.succ hcount, List.forall_mem_cons.mpr ⟨?_, hlength⟩⟩
    · rw [List.flatten_cons, ← hmemory, List.take_append_drop]
    · rw [List.length_take]
      omega

theorem littleEndian_word (x : BitVec 32) : ByteBlock.littleEndian 4 x.toNat =
    [x.extractLsb' 0 8, x.extractLsb' 8 8, x.extractLsb' 16 8, x.extractLsb' 24 8] := by
  simp only [ByteBlock.littleEndian, BitVec.extractLsb', Nat.shiftRight_eq_div_pow, Nat.div_div_eq_div_mul,
    Nat.pow_zero, Nat.div_one]

theorem littleEndian_half (x : BitVec 16) : ByteBlock.littleEndian 2 x.toNat =
    [x.extractLsb' 0 8, x.extractLsb' 8 8] := by
  simp only [ByteBlock.littleEndian, BitVec.extractLsb', Nat.shiftRight_eq_div_pow, Nat.pow_zero, Nat.div_one]

/-- A word that was turned lies in memory as on the wire. -/
theorem littleEndian_htonl (x : BitVec 32) : ByteBlock.littleEndian 4 (htonl x).toNat = bigEndian x := by
  rw [littleEndian_word, bigEndian]
  simp only [List.cons.injEq, and_true]
  refine ⟨?_, ?_, ?_, ?_⟩
  all_goals
    apply BitVec.eq_of_getLsbD_eq
    intro i hi
    simp only [htonl, BitVec.getLsbD_append, BitVec.getLsbD_extractLsb']
    interval_cases i <;> simp

theorem littleEndian_eq (x : BitVec 32) : ByteBlock.littleEndian 4 x.toNat = bigEndian (ntohl x) := by
  rw [← littleEndian_htonl, ntohl, htonl_htonl]

/-- Two halves that were turned. -/
theorem littleEndian_htons (a b : BitVec 16) :
    ByteBlock.littleEndian 2 (htons a).toNat ++ ByteBlock.littleEndian 2 (htons b).toNat = bigEndian (a ++ b) := by
  rw [littleEndian_half, littleEndian_half, bigEndian]
  simp only [List.cons_append, List.nil_append, List.cons.injEq, and_true]
  refine ⟨?_, ?_, ?_, ?_⟩
  all_goals
    apply BitVec.eq_of_getLsbD_eq
    intro i hi
    simp only [htons, BitVec.getLsbD_append, BitVec.getLsbD_extractLsb']
    interval_cases i <;> simp

/-- The unit of the bit fields, with the loss as `CreateRtcpRR` turns it. -/
theorem littleEndian_unit (fraction : BitVec 8) (lost : BitVec 32) :
    ByteBlock.littleEndian 4 (fraction ++ (htonl lost >>> 8).setWidth 24 : BitVec 32).toNat =
      bigEndian (lost.setWidth 24 ++ fraction) := by
  rw [littleEndian_word, bigEndian]
  simp only [List.cons.injEq, and_true]
  refine ⟨?_, ?_, ?_, ?_⟩
  all_goals
    apply BitVec.eq_of_getLsbD_eq
    intro i hi
    simp only [htonl, BitVec.getLsbD_append, BitVec.getLsbD_extractLsb', BitVec.getLsbD_setWidth,
      BitVec.getLsbD_ushiftRight]
    interval_cases i <;> simp

theorem setupHeader_sender (b0 b1 b2 b3 : Byte) (body : List Byte) :
    setupHeader (b0 :: b1 :: b2 :: b3 :: body) rtcpTypeSR 0 28 = some ([200, 4, 0, 6] ++ body) := by
  simp [setupHeader, RtcpBye.readBits, RtcpBye.writeBits, bitsOffset, ptOffset, lengthOffset, rtcpHeaderFields,
    fieldOffsets, ByteBlock.store, RtcpBye.setSize, rtcpTypeSR]
  exact ⟨by decide, rfl⟩

theorem setupHeader_receiver (b0 b1 b2 b3 : Byte) (body : List Byte) :
    setupHeader (b0 :: b1 :: b2 :: b3 :: body) rtcpTypeRR 1 32 = some ([201, 12, 0, 7] ++ body) := by
  simp [setupHeader, RtcpBye.readBits, RtcpBye.writeBits, bitsOffset, ptOffset, lengthOffset, rtcpHeaderFields,
    fieldOffsets, ByteBlock.store, RtcpBye.setSize, rtcpTypeRR]
  exact ⟨by decide, rfl⟩

theorem setupPadding_none {b0 b1 : Byte} (body : List Byte)
    (hbits : { RtcpBits.ofByte b1 with padding := 0 }.toByte = b1) :
    setupPadding (b0 :: b1 :: body) 0 = some (b0 :: b1 :: body) := by
  simp [setupPadding, RtcpBye.readBits, RtcpBye.writeBits, bitsOffset, rtcpHeaderFields, fieldOffsets,
    ByteBlock.store]
  exact hbits

/-- The packet before its members are set: words that hold anything behind the header. -/
theorem create_sender (memory : ℕ → Byte) :
    ∃ words : List (List Byte), create memory rtcpSRFields rtcpTypeSR 0 =
        some (some ([200, 4, 0, 6] ++ words.flatten)) ∧
      Words 6 words := by
  have hbody : ((List.range 24).map fun i => memory (i + 4)).length = 4 * 6 := rfl
  obtain ⟨words, hmemory, hwords⟩ := exists_words 6 hbody
  refine ⟨words, ?_, hwords⟩
  have hreal : structSize rtcpSRFields - sizeofReportItem + 0 * sizeofReportItem = 28 := rfl
  have hbytes : alignSize (BitVec.ofNat 32 28) = 28 := by decide
  have hstart : (List.range (28 : BitVec 32).toNat).map memory =
      memory 0 :: memory 1 :: memory 2 :: memory 3 :: words.flatten := by rw [← hmemory]; rfl
  have hpadding : (28 : BitVec 32).signExtend 64 - BitVec.ofNat 64 28 = 0 := by decide
  simp only [create, hreal, hbytes, hstart, setupHeader_sender, hpadding, Option.bind_eq_bind, Option.bind_some,
    if_neg (show ¬ (28 : BitVec 32).toInt ≤ 0 by decide)]
  rw [List.cons_append, List.cons_append, setupPadding_none _ (by decide)]
  rfl

theorem create_receiver (memory : ℕ → Byte) :
    ∃ words : List (List Byte), create memory rtcpRRFields rtcpTypeRR 1 =
        some (some ([201, 12, 0, 7] ++ words.flatten)) ∧
      Words 7 words := by
  have hbody : ((List.range 28).map fun i => memory (i + 4)).length = 4 * 7 := rfl
  obtain ⟨words, hmemory, hwords⟩ := exists_words 7 hbody
  refine ⟨words, ?_, hwords⟩
  have hreal : structSize rtcpRRFields - sizeofReportItem + 1 * sizeofReportItem = 32 := rfl
  have hbytes : alignSize (BitVec.ofNat 32 32) = 32 := by decide
  have hstart : (List.range (32 : BitVec 32).toNat).map memory =
      memory 0 :: memory 1 :: memory 2 :: memory 3 :: words.flatten := by rw [← hmemory]; rfl
  have hpadding : (32 : BitVec 32).signExtend 64 - BitVec.ofNat 64 32 = 0 := by decide
  simp only [create, hreal, hbytes, hstart, setupHeader_receiver, hpadding, Option.bind_eq_bind, Option.bind_some,
    if_neg (show ¬ (32 : BitVec 32).toInt ≤ 0 by decide)]
  rw [List.cons_append, List.cons_append, setupPadding_none _ (by decide)]
  rfl

/-- The size in the header is that of the memory. -/
theorem pushPacket_header {b0 b1 b2 b3 : Byte} {count : ℕ} {words : List (List Byte)} (h : Words count words)
    (hsize : getSize [b0, b1, b2, b3] = some (4 + 4 * count)) :
    pushPacket ([b0, b1, b2, b3] ++ words.flatten) = some ([b0, b1, b2, b3] ++ words.flatten) := by
  have hlength : words.flatten.length = 4 * count := by
    rw [← h.count, List.length_flatten, List.map_congr_left h.length, List.map_const', List.sum_replicate_nat, Nat.mul_comm]
  have hsame : getSize ([b0, b1, b2, b3] ++ words.flatten) = getSize [b0, b1, b2, b3] := by
    simp [RtcpBye.getSize, ByteBlock.load, lengthOffset, rtcpHeaderFields, fieldOffsets]
  rw [pushPacket, hsame, hsize]
  refine ByteBlock.load_eq_some.mpr ⟨?_, ?_⟩
  · rw [List.length_append, hlength]
    exact (Nat.zero_add _).le
  · rw [List.drop_zero, List.take_of_length_le]
    rw [List.length_append, hlength]
    rfl

/-! The buffers. -/

/-- The RTP stamp is in front of the NTP stamp, the octets are in front of the packets. -/
theorem senderBuffer_eq (memory : ℕ → Byte) (s : RtcpSenderContext) (rtcpSSRC : BitVec 32) (now : BitVec 64) :
    senderBuffer memory s rtcpSSRC now = some (some ([200, 4, 0, 6] ++ bigEndian rtcpSSRC ++
      bigEndian s.lastRtpStamp ++ bigEndian (ntohl (ntpStamp s.lastNtpStampMs).1) ++
      bigEndian (ntohl (ntpStamp s.lastNtpStampMs).2) ++ bigEndian (s.bytes.setWidth 32) ++
      bigEndian (s.packets.setWidth 32))) := by
  obtain ⟨words, hcreate, hwords⟩ := create_sender memory
  generalize hsr : (s.createRtcpSR rtcpSSRC now).2 = sr
  have hset : ∀ (k : ℕ) (x : BitVec 32) {words : List (List Byte)}, Words 6 words → k < 6 →
      storeWord (place rtcpSRFields (k + 1)) x ([200, 4, 0, 6] ++ words.flatten) =
        some ([200, 4, 0, 6] ++ (words.set k (ByteBlock.littleEndian 4 x.toNat)).flatten) := by
    intro k x words hwords hk
    have hplace : place rtcpSRFields (k + 1) = ([200, 4, 0, 6] : List Byte).length + 4 * k := by
      interval_cases k <;> rfl
    rw [hplace]
    exact storeWord_word _ hwords hk x
  have hword : ∀ x : BitVec 32, (ByteBlock.littleEndian 4 x.toNat).length = 4 := fun x =>
    ByteBlock.littleEndian_length 4 _
  have h₁ := hwords.set 2 (hword sr.ntpmsw)
  have h₂ := h₁.set 3 (hword sr.ntplsw)
  have h₃ := h₂.set 1 (hword sr.rtpts)
  have h₄ := h₃.set 0 (hword sr.ssrc)
  have h₅ := h₄.set 5 (hword sr.packetCount)
  have h₆ := h₅.set 4 (hword sr.octetCount)
  have hstore : storeSR sr ([200, 4, 0, 6] ++ words.flatten) = some ([200, 4, 0, 6] ++
      ((((((words.set 2 (ByteBlock.littleEndian 4 sr.ntpmsw.toNat)).set 3
        (ByteBlock.littleEndian 4 sr.ntplsw.toNat)).set 1 (ByteBlock.littleEndian 4 sr.rtpts.toNat)).set 0
        (ByteBlock.littleEndian 4 sr.ssrc.toNat)).set 5 (ByteBlock.littleEndian 4 sr.packetCount.toNat)).set 4
        (ByteBlock.littleEndian 4 sr.octetCount.toNat)).flatten) := by
    simp only [storeSR, hset 2 sr.ntpmsw hwords (by decide), hset 3 sr.ntplsw h₁ (by decide),
      hset 1 sr.rtpts h₂ (by decide), hset 0 sr.ssrc h₃ (by decide), hset 5 sr.packetCount h₄ (by decide),
      hset 4 sr.octetCount h₅ (by decide), Option.bind_eq_bind, Option.bind_some]
  have hsize : getSize [200, 4, 0, 6] = some (4 + 4 * 6) := by decide
  simp only [senderBuffer, hcreate, hsr, hstore, pushPacket_header h₆ hsize, Option.bind_eq_bind, Option.bind_some,
    Option.pure_def]
  have hall : ∀ {words : List (List Byte)} (a b c d e f : List Byte), words.length = 6 →
      (((((words.set 2 a).set 3 b).set 1 c).set 0 d).set 5 e).set 4 f = [d, c, a, b, f, e] := by
    intro words a b c d e f hcount
    match words, hcount with
    | [_, _, _, _, _, _], _ => rfl
  rw [hall _ _ _ _ _ _ hwords.count, ← hsr]
  simp only [littleEndian_eq, RtcpSenderContext.createRtcpSR, ntohl, htonl_htonl, List.flatten_cons, List.flatten_nil,
    List.append_nil, List.append_assoc]

/-- The words behind the header of a receiver report once a block is stored. -/
def setItem (item : ReportItem) (words : List (List Byte)) : List (List Byte) :=
  (((((words.set 2 (ByteBlock.littleEndian 4 item.ssrc.toNat)).set 5
    (ByteBlock.littleEndian 4 (item.fractionLost ++ item.cumulative : BitVec 32).toNat)).set 1
    (ByteBlock.littleEndian 2 item.seqMax.toNat ++ ByteBlock.littleEndian 2 item.seqCycles.toNat)).set 3
    (ByteBlock.littleEndian 4 item.jitter.toNat)).set 4 (ByteBlock.littleEndian 4 item.lastSrStamp.toNat)).set 6
    (ByteBlock.littleEndian 4 item.delaySinceLastSr.toNat)

theorem storeItem_words (header : List Byte) (hheader : header.length = 4) (item : ReportItem)
    {words : List (List Byte)} (h : Words 7 words) :
    storeItem (place rtcpRRFields 2) item (header ++ words.flatten) = some (header ++ (setItem item words).flatten) ∧
      Words 7 (setItem item words) := by
  have hword : ∀ x : BitVec 32, (ByteBlock.littleEndian 4 x.toNat).length = 4 := fun x =>
    ByteBlock.littleEndian_length 4 _
  have hset : ∀ (k offset : ℕ) (x : BitVec 32) {words : List (List Byte)}, Words 7 words → k < 7 →
      offset = 4 + 4 * k → storeWord offset x (header ++ words.flatten) =
        some (header ++ (words.set k (ByteBlock.littleEndian 4 x.toNat)).flatten) := by
    intro k offset x words hwords hk hoffset
    have hstore := storeWord_word header hwords hk x
    rwa [hheader, ← hoffset] at hstore
  have h₁ := h.set 2 (hword item.ssrc)
  have h₂ := h₁.set 5 (hword (item.fractionLost ++ item.cumulative))
  have hhalves : (ByteBlock.littleEndian 2 item.seqMax.toNat ++
      ByteBlock.littleEndian 2 item.seqCycles.toNat).length = 4 := by
    rw [List.length_append, ByteBlock.littleEndian_length, ByteBlock.littleEndian_length]
  have h₃ := h₂.set 1 hhalves
  have h₄ := h₃.set 3 (hword item.jitter)
  have h₅ := h₄.set 4 (hword item.lastSrStamp)
  have hpair := storeHalves_word header h₂ (show 1 < 7 by decide) item.seqCycles item.seqMax
  rw [hheader] at hpair
  obtain ⟨p, hcycles, hmax⟩ := Option.bind_eq_some_iff.mp hpair
  refine ⟨?_, h₅.set 6 (hword item.delaySinceLastSr)⟩
  have hplaceCycles : place rtcpRRFields 2 + place reportItemFields 1 = 4 + 4 * 1 + 2 := rfl
  have hplaceMax : place rtcpRRFields 2 + place reportItemFields 0 = 4 + 4 * 1 := rfl
  simp only [storeItem, hset 2 (place rtcpRRFields 2 + place reportItemFields 2) item.ssrc h (by decide) rfl,
    hset 5 (place rtcpRRFields 2 + place reportItemFields 5) (item.fractionLost ++ item.cumulative) h₁ (by decide) rfl,
    hplaceCycles, hplaceMax, hcycles, hmax,
    hset 3 (place rtcpRRFields 2 + place reportItemFields 3) item.jitter h₃ (by decide) rfl,
    hset 4 (place rtcpRRFields 2 + place reportItemFields 4) item.lastSrStamp h₄ (by decide) rfl,
    hset 6 (place rtcpRRFields 2 + place reportItemFields 6) item.delaySinceLastSr h₅ (by decide) rfl,
    Option.bind_eq_bind, Option.bind_some]
  rfl

theorem setItem_words (item : ReportItem) (word : List Byte) {words : List (List Byte)} (h : words.length = 7) :
    setItem item (words.set 0 word) = [word, ByteBlock.littleEndian 2 item.seqMax.toNat ++
      ByteBlock.littleEndian 2 item.seqCycles.toNat, ByteBlock.littleEndian 4 item.ssrc.toNat,
      ByteBlock.littleEndian 4 item.jitter.toNat, ByteBlock.littleEndian 4 item.lastSrStamp.toNat,
      ByteBlock.littleEndian 4 (item.fractionLost ++ item.cumulative : BitVec 32).toNat,
      ByteBlock.littleEndian 4 item.delaySinceLastSr.toNat] := by
  match words, h with
  | [_, _, _, _, _, _, _], _ => rfl

/-- A block begins with the sequence number and its cycles; loss and fraction are behind the last SR. -/
theorem receiverBuffer_eq (memory : ℕ → Byte) (r : RtcpReceiverContext) (rtcpSSRC rtpSSRC : BitVec 32)
    (now : BitVec 64) : ∃ item, (r.createRtcpRR rtcpSSRC rtpSSRC now).2.items = [item] ∧
      receiverBuffer memory r rtcpSSRC rtpSSRC now = some (some ([201, 12, 0, 7] ++ bigEndian rtcpSSRC ++
        bigEndian (r.seqMax ++ r.seqCycles) ++ bigEndian rtpSSRC ++ bigEndian (ntohl item.jitter) ++
        bigEndian r.lastSrLsr ++ bigEndian (r.getLost.setWidth 24 ++ item.fractionLost) ++
        bigEndian (ntohl item.delaySinceLastSr))) := by
  obtain ⟨words, hcreate, hwords⟩ := create_receiver memory
  refine ⟨_, rfl, ?_⟩
  have hssrc := hwords.set 0 (ByteBlock.littleEndian_length 4 (htonl rtcpSSRC).toNat)
  have hfirst := storeWord_word [201, 12, 0, 7] hwords (show 0 < 7 by decide) (htonl rtcpSSRC)
  have hsize : getSize [201, 12, 0, 7] = some (4 + 4 * 7) := by decide
  have hplace : place rtcpRRFields 1 = ([201, 12, 0, 7] : List Byte).length + 4 * 0 := rfl
  simp only [receiverBuffer, hcreate, RtcpReceiverContext.createRtcpRR, hplace, hfirst, List.foldlM_cons,
    List.foldlM_nil, (storeItem_words [201, 12, 0, 7] rfl _ hssrc).1,
    pushPacket_header (storeItem_words [201, 12, 0, 7] rfl _ hssrc).2 hsize,
    Option.bind_eq_bind, Option.bind_some, Option.pure_def]
  rw [setItem_words _ _ hwords.count]
  simp only [littleEndian_htons, littleEndian_unit, List.flatten_cons, List.flatten_nil, List.append_nil]
  simp only [littleEndian_eq, ntohl, htonl_htonl, List.append_assoc,
    BitVec.setWidth_setWidth_of_le _ (show 24 ≤ 32 by decide)]

/-! Against the diagrams. -/

theorem sender_ne_diagram (memory : ℕ → Byte) (s : RtcpSenderContext) (rtcpSSRC : BitVec 32) (now : BitVec 64) :
    senderBuffer memory s rtcpSSRC now ≠ some (some (senderDiagram (s.createRtcpSR rtcpSSRC now).2)) := by
  intro h
  rw [senderBuffer_eq] at h
  have hfirst := congrArg List.head? (Option.some.inj (Option.some.inj h))
  simp [senderDiagram, headerDiagram] at hfirst

theorem receiver_ne_diagram (memory : ℕ → Byte) (r : RtcpReceiverContext) (rtcpSSRC rtpSSRC : BitVec 32)
    (now : BitVec 64) (lost : BitVec 24) :
    receiverBuffer memory r rtcpSSRC rtpSSRC now ≠
      some (some (receiverDiagram lost (r.createRtcpRR rtcpSSRC rtpSSRC now).2)) := by
  intro h
  obtain ⟨item, -, hbuffer⟩ := receiverBuffer_eq memory r rtcpSSRC rtpSSRC now
  rw [hbuffer] at h
  have hfirst := congrArg List.head? (Option.some.inj (Option.some.inj h))
  simp [receiverDiagram, headerDiagram] at hfirst

/-- No report goes out as in its diagram: the packet type is the first byte. The getters of the
source and of the packet count do give back what was set. -/
theorem reports_not_wired (memory : ℕ → Byte) (s : RtcpSenderContext) (r : RtcpReceiverContext)
    (rtcpSSRC rtpSSRC : BitVec 32) (now : BitVec 64) (p : RtcpSR) (ssrc count : BitVec 32) (ms : BitVec 64) :
    ¬ Wired memory s r rtcpSSRC rtpSSRC now p ssrc count ms ∧
      getSsrc (setSsrc p ssrc) = ssrc ∧ getPacketCount (setPacketCount p count) = count :=
  ⟨fun h => sender_ne_diagram _ _ _ _ h.sender, htonl_htonl ssrc, htonl_htonl count⟩

/-- One second after 1970 the getter of the stamp answers zero. -/
theorem firstReports_not_wired :
    ¬ Wired (fun _ => 0) {} {} 1 2 1000 (RtcpSenderContext.createRtcpSR {} 1 1000).2 1 1 1000 ∧
      receiverBuffer (fun _ => 0) {} 1 2 1000 ≠
        some (some (receiverDiagram 1 (RtcpReceiverContext.createRtcpRR {} 1 2 1000).2)) ∧
      getNtpUnixStampMS (setNtpStamp (RtcpSenderContext.createRtcpSR {} 1 1000).2 1000) = 0 := by
  refine ⟨fun h => sender_ne_diagram _ _ _ _ h.sender, receiver_ne_diagram _ _ _ _ _ _, ?_⟩
  rw [getNtpUnixStampMS]
  exact if_pos (show htonl (BitVec.ofNat 32 1 + ntpEpoch) < ntpEpoch by decide)

end RtcpWire

end WifiDisplay
