import WifiDisplay.Basic
import WifiDisplay.ByteBlock
import WifiDisplay.RtcpRoundTrip

/-! The packet of a goodbye as the bytes of its allocation, from a little-endian host
with natural alignment. -/

namespace WifiDisplay

def rtcpTypeBye : Byte := 203

/-- `pt_`, the byte of the bit fields, `length_`. -/
def rtcpHeaderFields : List FieldType := [⟨1, 1⟩, ⟨1, 1⟩, ⟨2, 2⟩]

def sizeofRtcpHeader : ℕ := structSize rtcpHeaderFields

/-- The header, then `reason_`, `reasonLen_` and `ssrc_`. -/
def rtcpByeFields : List FieldType := [⟨sizeofRtcpHeader, 2⟩, ⟨1, 1⟩, ⟨1, 1⟩, ⟨4, 4⟩]

def ptOffset : ℕ := (fieldOffsets 0 rtcpHeaderFields).getD 0 0

def bitsOffset : ℕ := (fieldOffsets 0 rtcpHeaderFields).getD 1 0

def lengthOffset : ℕ := (fieldOffsets 0 rtcpHeaderFields).getD 2 0

def ssrcOffset : ℕ := (fieldOffsets 0 rtcpByeFields).getD 3 0

/-- The bit fields of a byte, `padding_` in its lowest bit. -/
structure RtcpBits where
  padding : BitVec 1
  version : BitVec 2
  reportCount : BitVec 5

namespace RtcpBits

def ofByte (b : Byte) : RtcpBits :=
  { padding := b.extractLsb' 0 1, version := b.extractLsb' 1 2, reportCount := b.extractLsb' 3 5 }

def toByte (bits : RtcpBits) : Byte := bits.reportCount ++ (bits.version ++ bits.padding)

@[simp]
theorem ofByte_toByte (bits : RtcpBits) : ofByte bits.toByte = bits := by
  obtain ⟨padding, version, reportCount⟩ := bits
  simp only [ofByte, toByte, mk.injEq]
  refine ⟨?_, ?_, ?_⟩ <;> apply BitVec.eq_of_getLsbD_eq <;> intro i hi <;>
    simp only [BitVec.getLsbD_append, BitVec.getLsbD_extractLsb'] <;> grind

end RtcpBits

def alignSize (bytes : BitVec 32) : BitVec 32 := ((bytes + 3) >>> 2) <<< 2

namespace RtcpBye

def readBits (p : ByteBlock) : Option RtcpBits := p[bitsOffset]?.map RtcpBits.ofByte

def writeBits (p : ByteBlock) (bits : RtcpBits) : Option ByteBlock :=
  p.store bitsOffset [bits.toByte]

def getSize (p : ByteBlock) : Option ℕ := do
  let length ← p.load lengthOffset 2
  return (1 + (htons (BitVec.ofNat 16 (ByteBlock.ofLittleEndian length))).toNat) * 4

def setSize (p : ByteBlock) (size : BitVec 32) : Option ByteBlock :=
  p.store lengthOffset (ByteBlock.littleEndian 2 (htons (((size >>> 2) - 1).setWidth 16)).toNat)

def setupHeader (p : ByteBlock) (type : Byte) (reportCount : ℕ) (totalBytes : BitVec 32) :
    Option ByteBlock := do
  let bits ← readBits p
  let bits := { bits with version := 2, padding := 0 }
  let p ← writeBits p bits
  if reportCount > 0x1F then return p
  let p ← writeBits p { bits with reportCount := BitVec.ofNat 5 reportCount }
  let p ← p.store ptOffset [type]
  setSize p totalBytes

def setupPadding (p : ByteBlock) (paddingSize : BitVec 64) : Option ByteBlock := do
  let bits ← readBits p
  if paddingSize = 0 then writeBits p { bits with padding := 0 }
  else
    let p ← writeBits p { bits with padding := 1 }
    let size ← getSize p
    if size < 1 then return p
    p.store (size - 1) [paddingSize.setWidth 8]

/-- The words of the sources as they lie in memory. -/
def sourceWords (ssrcs : List (BitVec 32)) : List (List Byte) :=
  ssrcs.map fun ssrc => ByteBlock.littleEndian 4 (htonl ssrc).toNat

/-- Behind the sources. `memcpy_s` refuses a destination without room. -/
def writeReason (p : ByteBlock) (sources : ℕ) (reason : List Byte) : Option (Option ByteBlock) :=
  if reason = [] then some (some p)
  else do
    let reasonLen := sizeofRtcpHeader + 4 * sources
    let length := BitVec.ofNat 8 reason.length
    let p ← p.store reasonLen [length]
    if length = 0 then return none
    let p ← p.store (reasonLen + 1) (reason.take length.toNat)
    return some p

/-- The packet in memory with any bytes before, or a null pointer. There is no value
when an access leaves the allocated bytes. -/
def create (memory : ℕ → Byte) (ssrcs : List (BitVec 32)) (reason : List Byte) :
    Option (Option ByteBlock) := do
  let realSize := sizeofRtcpHeader + 4 * ssrcs.length + 1 + reason.length
  let bytes := alignSize (BitVec.ofNat 32 realSize)
  if bytes.toInt ≤ 0 then return none
  let p := (List.range bytes.toNat).map memory
  let p ← setupHeader p rtcpTypeBye ssrcs.length bytes
  let p ← setupPadding p (bytes.signExtend 64 - BitVec.ofNat 64 realSize)
  let p ← p.storeEach ssrcOffset (sourceWords ssrcs)
  writeReason p ssrcs.length reason

def getSSRC (p : ByteBlock) : Option (List (BitVec 32)) := do
  let bits ← readBits p
  let words ← p.loadEach 4 ssrcOffset bits.reportCount.toNat
  return words.map fun word => ntohl (BitVec.ofNat 32 (ByteBlock.ofLittleEndian word))

def getReason (p : ByteBlock) : Option (List Byte) := do
  let bits ← readBits p
  let reasonLen := ssrcOffset + 4 * bits.reportCount.toNat
  let size ← getSize p
  if reasonLen + 1 ≥ size then return []
  let length ← p[reasonLen]?
  p.load (reasonLen + 1) length.toNat

/-- The getters give back what the packet was made of, and its size is that of the
allocation. -/
def RoundTrips (memory : ℕ → Byte) (ssrcs : List (BitVec 32)) (reason : List Byte) : Prop :=
  ∃ p, create memory ssrcs reason = some (some p) ∧ getSSRC p = some ssrcs ∧
    getReason p = some reason ∧ getSize p = some p.length

theorem ssrcOffset_eq : ssrcOffset = 8 := rfl

theorem sizeofRtcpHeader_eq : sizeofRtcpHeader = 4 := rfl

/-- A packet whose header has its number of sources and of bytes. -/
structure Headed (sources size : ℕ) (p : ByteBlock) : Prop where
  length : p.length = size
  bits : ∃ bits, readBits p = some bits ∧ bits.reportCount.toNat = sources
  size : getSize p = some size

variable {p p' : ByteBlock} {sources size offset : ℕ} {bytes : List Byte}

theorem readBits_store (h : p.store offset bytes = some p')
    (hi : 1 < offset ∨ offset + bytes.length ≤ 1) : readBits p' = readBits p := by
  rw [readBits, readBits]
  exact congrArg _ (ByteBlock.getElem?_store h hi)

theorem getSize_store (h : p.store offset bytes = some p')
    (hi : 4 ≤ offset ∨ offset + bytes.length ≤ 2) : getSize p' = getSize p := by
  rw [getSize, getSize]
  congr 1
  exact ByteBlock.load_store_disjoint h (by
    change 2 + 2 ≤ offset ∨ offset + bytes.length ≤ 2
    omega)

theorem writeBits_spec (bits : RtcpBits) (hp : 2 ≤ p.length) :
    ∃ p', writeBits p bits = some p' ∧ p'.length = p.length ∧ readBits p' = some bits ∧
      getSize p' = getSize p := by
  obtain ⟨p', hp'⟩ := ByteBlock.store_isSome p bitsOffset
    [bits.toByte] hp
  refine ⟨p', hp', ByteBlock.store_length hp', ?_, getSize_store hp' (.inr le_rfl)⟩
  have hload := (ByteBlock.load_eq_some.mp (ByteBlock.load_store_same hp')).2
  have hbyte := congrArg (·[0]?) hload
  simp only [List.length_singleton, List.getElem?_take_of_lt Nat.zero_lt_one, List.getElem?_drop,
    Nat.add_zero, List.getElem?_cons_zero] at hbyte
  rw [readBits, hbyte, Option.map_some, RtcpBits.ofByte_toByte]

theorem htons_htons (x : BitVec 16) : htons (htons x) = x := by
  apply BitVec.eq_of_getLsbD_eq
  intro i hi
  simp only [htons, BitVec.getLsbD_append, BitVec.getLsbD_extractLsb']
  grind

theorem setSize_spec {n : BitVec 32} {words : ℕ} (hn : n.toNat = 4 * words) (hwords : 0 < words)
    (hbound : words ≤ 2 ^ 16) (hp : 4 ≤ p.length) :
    ∃ p', setSize p n = some p' ∧ p'.length = p.length ∧ readBits p' = readBits p ∧
      getSize p' = some n.toNat := by
  obtain ⟨p', hp'⟩ := ByteBlock.store_isSome p lengthOffset
    (ByteBlock.littleEndian 2 (htons (((n >>> 2) - 1).setWidth 16)).toNat)
    (by rwa [ByteBlock.littleEndian_length])
  refine ⟨p', hp', ByteBlock.store_length hp', readBits_store hp' (.inl (by decide)), ?_⟩
  have hload := ByteBlock.load_store_same hp'
  rw [ByteBlock.littleEndian_length] at hload
  rw [getSize, hload, Option.bind_eq_bind, Option.bind_some,
    ByteBlock.ofLittleEndian_littleEndian (BitVec.isLt _), BitVec.ofNat_toNat, BitVec.setWidth_eq,
    htons_htons]
  have hshift : (n >>> 2).toNat = words := by
    rw [BitVec.toNat_ushiftRight, hn, Nat.shiftRight_eq_div_pow]
    omega
  have hvalue : (((n >>> 2) - 1).setWidth 16).toNat = words - 1 := by
    rw [BitVec.toNat_setWidth, BitVec.toNat_sub, hshift]
    simp
    omega
  rw [hvalue, hn]
  congr 1
  omega

theorem Headed.store (h : Headed sources size p) (hs : p.store offset bytes = some p')
    (hoffset : 4 ≤ offset) : Headed sources size p' where
  length := (ByteBlock.store_length hs).trans h.length
  bits := by
    rw [readBits_store hs (.inl (by omega))]
    exact h.bits
  size := (getSize_store hs (.inl hoffset)).trans h.size

theorem setupHeader_headed {n : BitVec 32} {words : ℕ} (hn : n.toNat = 4 * words)
    (hwords : 0 < words) (hbound : words ≤ 2 ^ 16) (hp : p.length = n.toNat)
    (hsources : sources ≤ 31) (type : Byte) :
    ∃ p', setupHeader p type sources n = some p' ∧ Headed sources n.toNat p' := by
  have hbyte : ∃ b, p[bitsOffset]? = some b := ⟨_, List.getElem?_eq_getElem (by
    change 1 < p.length
    omega)⟩
  obtain ⟨b, hb⟩ := hbyte
  obtain ⟨p₁, h₁, hlength₁, -⟩ := writeBits_spec (p := p)
    { RtcpBits.ofByte b with version := 2, padding := 0 } (by omega)
  obtain ⟨p₂, h₂, hlength₂, hbits₂, -⟩ := writeBits_spec (p := p₁)
    { RtcpBits.ofByte b with
      version := 2, padding := 0, reportCount := BitVec.ofNat 5 sources } (by omega)
  obtain ⟨p₃, h₃⟩ := ByteBlock.store_isSome p₂ ptOffset [type] (by
    change 0 + 1 ≤ p₂.length
    omega)
  have hlength₃ := ByteBlock.store_length h₃
  obtain ⟨p₄, h₄, hlength₄, hbits₄, hsize₄⟩ := setSize_spec (p := p₃) hn hwords hbound (by omega)
  refine ⟨p₄, ?_, by omega, ⟨_, hbits₄.trans ((readBits_store h₃ (.inr le_rfl)).trans hbits₂), ?_⟩,
    hsize₄⟩
  · have hread : readBits p = some (RtcpBits.ofByte b) := by rw [readBits, hb, Option.map_some]
    simp only [setupHeader, hread, h₁, h₂, h₃, h₄, Option.bind_eq_bind, Option.bind_some,
      if_neg (show ¬ sources > 0x1F by omega)]
  · rw [BitVec.toNat_ofNat]
    omega

theorem setupPadding_headed (h : Headed sources size p) (hsize : 8 ≤ size) (paddingSize : BitVec 64) :
    ∃ p', setupPadding p paddingSize = some p' ∧ Headed sources size p' := by
  obtain ⟨hlength, ⟨bits, hbits, hsources⟩, hgetSize⟩ := h
  by_cases hzero : paddingSize = 0
  · obtain ⟨p₁, h₁, hlength₁, hbits₁, hsize₁⟩ := writeBits_spec (p := p)
      { bits with padding := 0 } (by omega)
    refine ⟨p₁, ?_, by omega, ⟨_, hbits₁, hsources⟩, hsize₁.trans hgetSize⟩
    simp only [setupPadding, hbits, Option.bind_eq_bind, Option.bind_some, if_pos hzero, h₁]
  · obtain ⟨p₁, h₁, hlength₁, hbits₁, hsize₁⟩ := writeBits_spec (p := p)
      { bits with padding := 1 } (by omega)
    have hheaded : Headed sources size p₁ :=
      ⟨by omega, ⟨_, hbits₁, hsources⟩, hsize₁.trans hgetSize⟩
    obtain ⟨p₂, h₂⟩ := ByteBlock.store_isSome p₁ (size - 1)
      [paddingSize.setWidth 8] (by
        rw [List.length_singleton]
        omega)
    refine ⟨p₂, ?_, hheaded.store h₂ (by omega)⟩
    simp only [setupPadding, hbits, Option.bind_eq_bind, Option.bind_some, if_neg hzero, h₁,
      hheaded.size, if_neg (show ¬ size < 1 by omega), h₂]

theorem alignSize_toNat {n : ℕ} (h : n + 3 < 2 ^ 32) :
    (alignSize (BitVec.ofNat 32 n)).toNat = 4 * ((n + 3) / 4) := by
  have hsum : (BitVec.ofNat 32 n + 3).toNat = n + 3 := by
    rw [BitVec.toNat_add, BitVec.toNat_ofNat]
    simp
    omega
  rw [alignSize, BitVec.toNat_shiftLeft, BitVec.toNat_ushiftRight, hsum, Nat.shiftRight_eq_div_pow,
    Nat.shiftLeft_eq]
  omega

theorem length_of_mem_sourceWords {ssrcs : List (BitVec 32)} {word : List Byte}
    (h : word ∈ sourceWords ssrcs) : word.length = 4 := by
  obtain ⟨ssrc, -, rfl⟩ := List.mem_map.mp h
  exact ByteBlock.littleEndian_length 4 _

theorem sourceWords_flatten_length (ssrcs : List (BitVec 32)) :
    (sourceWords ssrcs).flatten.length = 4 * ssrcs.length := by
  induction ssrcs with
  | nil => rfl
  | cons ssrc ssrcs ih =>
    rw [sourceWords, List.map_cons, List.flatten_cons, List.length_append]
    change _ + (sourceWords ssrcs).flatten.length = _
    rw [ih, ByteBlock.littleEndian_length, List.length_cons]
    omega

/-- Up to the reason everything is stored inside the allocation, and the sources end
where it may end. -/
theorem create_sources (memory : ℕ → Byte) {ssrcs : List (BitVec 32)} (hsources : ssrcs.length ≤ 31)
    {reason : List Byte} (hreason : reason.length ≤ 255) :
    ∃ p, create memory ssrcs reason = writeReason p ssrcs.length reason ∧
      Headed ssrcs.length (4 * ((4 * ssrcs.length + reason.length + 8) / 4)) p ∧
      p.load ssrcOffset (sourceWords ssrcs).flatten.length = some (sourceWords ssrcs).flatten := by
  generalize hreal : sizeofRtcpHeader + 4 * ssrcs.length + 1 + reason.length = realSize
  rw [sizeofRtcpHeader_eq] at hreal
  have hbytes := alignSize_toNat (n := realSize) (by omega)
  rw [show realSize + 3 = 4 * ssrcs.length + reason.length + 8 by omega] at hbytes
  generalize hn : alignSize (BitVec.ofNat 32 realSize) = n at hbytes
  have hpositive : ¬ n.toInt ≤ 0 := by
    rw [BitVec.toInt_eq_toNat_of_lt (by omega)]
    omega
  obtain ⟨p₁, h₁, hheaded₁⟩ := setupHeader_headed (p := (List.range n.toNat).map memory) hbytes
    (by omega) (by omega) (by rw [List.length_map, List.length_range]) hsources rtcpTypeBye
  obtain ⟨p₂, h₂, hheaded₂⟩ := setupPadding_headed hheaded₁ (by omega)
    (n.signExtend 64 - BitVec.ofNat 64 realSize)
  have hwords := sourceWords_flatten_length ssrcs
  obtain ⟨p₃, h₃⟩ := ByteBlock.store_isSome p₂ ssrcOffset
    (sourceWords ssrcs).flatten (by
      rw [ssrcOffset_eq, hwords, hheaded₂.length]
      omega)
  have heach : ByteBlock.storeEach p₂ ssrcOffset (sourceWords ssrcs) =
      ByteBlock.store p₂ ssrcOffset (sourceWords ssrcs).flatten := by
    refine ByteBlock.storeEach_eq_store ?_
    rw [ssrcOffset_eq, hheaded₂.length]
    omega
  refine ⟨p₃, ?_, hbytes ▸ hheaded₂.store h₃ (by decide), ByteBlock.load_store_same h₃⟩
  simp only [create, sizeofRtcpHeader_eq, hreal, hn, if_neg hpositive, h₁, h₂, heach.trans h₃,
    Option.bind_eq_bind, Option.bind_some]

/-- What the reason is stored over: the length goes into the last source. -/
theorem writeReason_headed (h : Headed sources size p) {reason : List Byte} (hne : reason ≠ [])
    (hreason : reason.length ≤ 255) (hsize : 4 * sources + 5 + reason.length ≤ size) :
    ∃ p', writeReason p sources reason = some (some p') ∧ Headed sources size p' := by
  have hpositive := List.length_pos_iff.mpr hne
  have hlength : (BitVec.ofNat 8 reason.length).toNat = reason.length := by
    rw [BitVec.toNat_ofNat]
    omega
  obtain ⟨p₁, h₁⟩ := ByteBlock.store_isSome p (4 + 4 * sources)
    [BitVec.ofNat 8 reason.length] (by
      rw [List.length_singleton, h.length]
      omega)
  have hheaded₁ := h.store h₁ (by omega)
  obtain ⟨p₂, h₂⟩ := ByteBlock.store_isSome p₁ (4 + 4 * sources + 1)
    reason (by
      rw [hheaded₁.length]
      omega)
  refine ⟨p₂, ?_, hheaded₁.store h₂ (by omega)⟩
  have hlength_ne : BitVec.ofNat 8 reason.length ≠ 0 := by
    intro h0
    rw [h0] at hlength
    simp at hlength
    omega
  simp only [writeReason, if_neg hne, sizeofRtcpHeader_eq, h₁, if_neg hlength_ne, hlength,
    List.take_length, h₂, Option.bind_eq_bind, Option.bind_some, Option.pure_def]

theorem Headed.getSSRC (h : Headed sources size p) {ssrcs : List (BitVec 32)}
    (hsources : ssrcs.length = sources)
    (hwords : p.load ssrcOffset (sourceWords ssrcs).flatten.length = some (sourceWords ssrcs).flatten) :
    getSSRC p = some ssrcs := by
  obtain ⟨bits, hbits, hcount⟩ := h.bits
  have heach : ByteBlock.loadEach p 4 ssrcOffset (sourceWords ssrcs).length =
      some (sourceWords ssrcs) :=
    ByteBlock.loadEach_of_load (fun _ => length_of_mem_sourceWords) hwords
  rw [sourceWords, List.length_map, hsources] at heach
  rw [RtcpBye.getSSRC, hbits, Option.bind_eq_bind, Option.bind_some, hcount, heach,
    Option.bind_eq_bind, Option.bind_some, Option.pure_def, List.map_map]
  congr 1
  conv_rhs => rw [← List.map_id ssrcs]
  apply List.map_congr_left
  intro ssrc _
  change ntohl (BitVec.ofNat 32 (ByteBlock.ofLittleEndian
    (ByteBlock.littleEndian 4 (htonl ssrc).toNat))) = ssrc
  rw [ByteBlock.ofLittleEndian_littleEndian (BitVec.isLt _), BitVec.ofNat_toNat, BitVec.setWidth_eq,
    ntohl, htonl_htonl]

/-- The reader looks for the reason four bytes behind the place where it starts. -/
theorem Headed.getReason (h : Headed sources size p) {reason : List Byte}
    (hreason : getReason p = some reason) :
    reason = [] ∨ 4 * sources + 9 + reason.length ≤ size := by
  obtain ⟨bits, hbits, hcount⟩ := h.bits
  rw [RtcpBye.getReason, hbits, Option.bind_eq_bind, Option.bind_some, hcount, h.size,
    Option.bind_eq_bind, Option.bind_some] at hreason
  by_cases hend : ssrcOffset + 4 * sources + 1 ≥ size
  · rw [if_pos hend] at hreason
    exact .inl (Option.some.inj hreason).symm
  · rw [if_neg hend] at hreason
    obtain ⟨length, -, hload⟩ := Option.bind_eq_some_iff.mp hreason
    have hfits := (ByteBlock.load_eq_some.mp hload).1
    rw [ByteBlock.load_length hload, h.length.symm]
    rw [ssrcOffset_eq] at hfits
    right
    omega

/-- A goodbye comes back as it was made if and only if it gives no reason. -/
theorem byeRoundTrips_iff (memory : ℕ → Byte) {ssrcs : List (BitVec 32)}
    (hsources : ssrcs.length ≤ 31) {reason : List Byte} (hreason : reason.length ≤ 255) :
    RoundTrips memory ssrcs reason ↔ reason = [] := by
  obtain ⟨p, hcreate, hheaded, hwords⟩ := create_sources memory hsources hreason
  constructor
  · intro ⟨p', hp', _, hgetReason, _⟩
    by_contra hsome
    obtain ⟨p₁, h₁, hheaded₁⟩ := writeReason_headed hheaded hsome hreason (by omega)
    rw [hcreate, h₁] at hp'
    obtain rfl : p₁ = p' := Option.some.inj (Option.some.inj hp')
    rcases hheaded₁.getReason hgetReason with hnil | hfits
    · exact hsome hnil
    · omega
  · intro hnil
    subst hnil
    rw [writeReason, if_pos rfl] at hcreate
    refine ⟨p, hcreate, hheaded.getSSRC rfl hwords, ?_, by rw [hheaded.size, hheaded.length]⟩
    obtain ⟨bits, hbits, hcount⟩ := hheaded.bits
    rw [RtcpBye.getReason, hbits, Option.bind_eq_bind, Option.bind_some, hcount, hheaded.size,
      Option.bind_eq_bind, Option.bind_some, if_pos]
    · rfl
    · rw [ssrcOffset_eq, List.length_nil]
      omega

theorem byeRoundTrips_twoSources : RoundTrips (fun _ => 0xA5) [1, 2] [] ↔ ([] : List Byte) = [] :=
  byeRoundTrips_iff _ (by decide) (by decide)

/-- One source and the reason `bye`. The reader starts behind the last byte. -/
theorem bye_not_roundTrips : ¬ ∀ (memory : ℕ → Byte) (ssrcs : List (BitVec 32)) (reason : List Byte),
    ssrcs ≠ [] → ssrcs.length ≤ 31 → reason.length ≤ 255 → RoundTrips memory ssrcs reason := by
  intro h
  obtain ⟨p, hcreate, -, hreason, -⟩ :=
    h (fun _ => 0) [1] [0x62, 0x79, 0x65] (by decide) (by decide) (by decide)
  have hread : ((create (fun _ => 0) [1] [0x62, 0x79, 0x65]).bind fun p => p.bind getReason) = some [] := by
    decide +kernel
  rw [hcreate] at hread
  cases hreason.symm.trans hread

end RtcpBye

end WifiDisplay
