import WifiDisplay.RtcpBye

/-! The packet of a source description. Its chunks lie one behind the other, each as
long as the length in it says. -/

namespace WifiDisplay

namespace RtcpSdes

open RtcpBye (setupHeader setupPadding Headed)

def rtcpTypeSdes : Byte := 202

def rtcpSdesMinBytes : ℕ := 16

/-- `text_`, `end_`, `txtLen_`, `ssrc_` and `type_`. -/
def sdesChunkFields : List FieldType := [⟨1, 1⟩, ⟨1, 1⟩, ⟨1, 1⟩, ⟨4, 4⟩, ⟨1, 1⟩]

def sizeofSdesChunk : ℕ := structSize sdesChunkFields

def rtcpSdesFields : List FieldType := [⟨sizeofRtcpHeader, 2⟩, ⟨sizeofSdesChunk, 4⟩]

def sizeofRtcpSdes : ℕ := structSize rtcpSdesFields

def textOffset : ℕ := (fieldOffsets 0 sdesChunkFields).getD 0 0

def txtLenOffset : ℕ := (fieldOffsets 0 sdesChunkFields).getD 2 0

def chunksOffset : ℕ := (fieldOffsets 0 rtcpSdesFields).getD 1 0

/-- Without `text_`. -/
def minSize : ℕ := sizeofSdesChunk - 1

def totalBytes (txtLen : Byte) : ℕ := (alignSize (BitVec.ofNat 32 (minSize + txtLen.toNat))).toNat

def itemTotalSize (itemText : List (List Byte)) : ℕ :=
  (itemText.map fun text => totalBytes (BitVec.ofNat 8 text.length)).sum

/-- The text is copied with the zero behind it. -/
def writeChunk (p : ByteBlock) (item : ℕ) (text : List Byte) : Option ByteBlock := do
  let length := BitVec.ofNat 8 text.length
  let p ← p.store (item + txtLenOffset) [length]
  p.store (item + textOffset) ((text ++ [0]).take (length.toNat + 1))

/-- The loop of `Create`. The chunk that has been written is asked for its size. -/
def writeChunks (p : ByteBlock) (item : ℕ) : List (List Byte) → Option ByteBlock
  | [] => some p
  | text :: texts => do
    let p ← writeChunk p item text
    let txtLen ← p[item + txtLenOffset]?
    writeChunks p (item + totalBytes txtLen) texts

/-- The packet in memory, or a null pointer. There is no value when an access leaves
the allocated bytes. -/
def create (itemText : List (List Byte)) : Option (Option ByteBlock) := do
  let realSize := sizeofRtcpSdes - sizeofSdesChunk + itemTotalSize itemText
  let bytes := alignSize (BitVec.ofNat 32 realSize)
  if bytes.toInt < rtcpSdesMinBytes then return none
  let p ← writeChunks (List.replicate bytes.toNat 0) chunksOffset itemText
  let p ← setupHeader p rtcpTypeSdes itemText.length bytes
  let p ← setupPadding p (bytes.signExtend 64 - BitVec.ofNat 64 realSize)
  return some p

/-- The loop of `GetChunkList`, with the places of the chunks. -/
def chunkList (p : ByteBlock) (chunk : ℕ) : ℕ → Option (List ℕ)
  | 0 => some []
  | count + 1 => do
    let txtLen ← p[chunk + txtLenOffset]?
    let chunks ← chunkList p (chunk + totalBytes txtLen) count
    return chunk :: chunks

def getChunkList (p : ByteBlock) : Option (List ℕ) := do
  let bits ← RtcpBye.readBits p
  chunkList p chunksOffset bits.reportCount.toNat

/-- The chunk has the text and its length and ends inside the packet. -/
structure ChunkHolds (p : ByteBlock) (chunk : ℕ) (text : List Byte) : Prop where
  length : (p[chunk + txtLenOffset]?).map (·.toNat) = some text.length
  text : p.load (chunk + textOffset) text.length = some text
  inside : ∀ txtLen, p[chunk + txtLenOffset]? = some txtLen → chunk + totalBytes txtLen ≤ p.length

/-- The packet has one chunk for each item, in their order. -/
def RoundTrips (itemText : List (List Byte)) : Prop :=
  ∃ p chunks, create itemText = some (some p) ∧ getChunkList p = some chunks ∧
    List.Forall₂ (ChunkHolds p) chunks itemText

/-- `txtLen_` lies where the third byte of the text does. -/
def KeepsLength (text : List Byte) : Prop :=
  text.length ≤ 1 ∨ text[2]? = some (BitVec.ofNat 8 text.length)

def storedLength (text : List Byte) : Byte :=
  if text.length ≤ 1 then BitVec.ofNat 8 text.length else (text ++ [0]).getD 2 0

theorem txtLenOffset_eq : txtLenOffset = 2 := rfl

theorem textOffset_eq : textOffset = 0 := rfl

theorem chunksOffset_eq : chunksOffset = 4 := rfl

theorem totalBytes_eq (txtLen : Byte) : totalBytes txtLen = 4 * ((txtLen.toNat + 14) / 4) := by
  have hlt := txtLen.isLt
  change (alignSize (BitVec.ofNat 32 (11 + txtLen.toNat))).toNat = _
  rw [RtcpBye.alignSize_toNat (by omega)]
  omega

theorem toNat_length {text : List Byte} (h : text.length ≤ 255) :
    (BitVec.ofNat 8 text.length).toNat = text.length := by
  simp only [BitVec.toNat_ofNat]
  omega

theorem storedLength_eq_iff {text : List Byte} (h : text.length ≤ 255) :
    storedLength text = BitVec.ofNat 8 text.length ↔ KeepsLength text := by
  match text with
  | [] => simp [storedLength, KeepsLength]
  | [a] => simp [storedLength, KeepsLength]
  | [a, b] => simp [storedLength, KeepsLength]
  | a :: b :: c :: rest => simp [storedLength, KeepsLength]

variable {p p' : ByteBlock} {item : ℕ} {text : List Byte} {texts : List (List Byte)}

theorem writeChunk_isSome (hlength : text.length ≤ 255) (hfits : item + text.length + 3 ≤ p.length) :
    ∃ p', writeChunk p item text = some p' := by
  obtain ⟨p₁, h₁⟩ := ByteBlock.store_isSome p (item + txtLenOffset) [BitVec.ofNat 8 text.length] (by
    simp only [txtLenOffset_eq, List.length_singleton]
    omega)
  have hlength₁ := ByteBlock.store_length h₁
  obtain ⟨p₂, h₂⟩ := ByteBlock.store_isSome p₁ (item + textOffset)
    ((text ++ [0]).take ((BitVec.ofNat 8 text.length).toNat + 1)) (by
      simp only [textOffset_eq, List.length_take, List.length_append, List.length_singleton]
      omega)
  exact ⟨p₂, by simp only [writeChunk, h₁, h₂, Option.bind_eq_bind, Option.bind_some]⟩

/-- The copy writes over the length that was stored before it. -/
theorem writeChunk_spec (hlength : text.length ≤ 255) (h : writeChunk p item text = some p') :
    p'.length = p.length ∧ (∀ i < item, p'[i]? = p[i]?) ∧
      p'[item + txtLenOffset]? = some (storedLength text) ∧
      p'.load (item + textOffset) text.length = some text := by
  have hcopy : (text ++ [0]).take ((BitVec.ofNat 8 text.length).toNat + 1) = text ++ [0] := by
    apply List.take_of_length_le
    simp [toNat_length hlength]
  obtain ⟨p₁, h₁, h₂⟩ := Option.bind_eq_some_iff.mp h
  rw [hcopy] at h₂
  refine ⟨(ByteBlock.store_length h₂).trans (ByteBlock.store_length h₁), fun i hi => ?_, ?_, ?_⟩
  · have hcopied := ByteBlock.getElem?_store h₂ (i := i) (.inl (by omega))
    exact hcopied.trans (ByteBlock.getElem?_store h₁ (.inl (by omega)))
  · by_cases hshort : text.length ≤ 1
    · have hbehind := ByteBlock.getElem?_store h₂ (i := item + txtLenOffset) (.inr (by
        simp only [List.length_append, List.length_singleton, txtLenOffset_eq, textOffset_eq]
        omega))
      have hwritten := ByteBlock.getElem?_store_same h₁ (i := 0) (by simp)
      rw [hbehind, storedLength, if_pos hshort]
      simpa using hwritten
    · have htwo : 2 < (text ++ [0]).length := by
        simp only [List.length_append, List.length_singleton]
        omega
      have hover := ByteBlock.getElem?_store_same h₂ htwo
      rw [storedLength, if_neg hshort, List.getD_eq_getElem?_getD]
      change p'[item + 2]? = _ at hover
      change p'[item + 2]? = _
      rw [hover, List.getElem?_eq_getElem htwo, Option.getD_some]
  · have hload := ByteBlock.load_store_same h₂
    rw [List.length_append] at hload
    exact (ByteBlock.load_append hload).1

/-- The lengths that the chunks have in memory. -/
def StoredLengths (p : ByteBlock) : ℕ → List (List Byte) → Prop
  | _, [] => True
  | item, text :: texts => p[item + txtLenOffset]? = some (storedLength text) ∧
      StoredLengths p (item + totalBytes (storedLength text)) texts

theorem StoredLengths.congr (hsame : ∀ i, item ≤ i → p'[i]? = p[i]?)
    (h : StoredLengths p item texts) : StoredLengths p' item texts := by
  induction texts generalizing item with
  | nil => trivial
  | cons text texts ih =>
    exact ⟨(hsame _ (by omega)).trans h.1, ih (fun i hi => hsame i (by omega)) h.2⟩

/-- The writer goes on behind the length of each chunk and never comes back to it. -/
theorem writeChunks_spec (hlength : ∀ text ∈ texts, text.length ≤ 255)
    (h : writeChunks p item texts = some p') :
    p'.length = p.length ∧ (∀ i < item, p'[i]? = p[i]?) ∧ StoredLengths p' item texts := by
  induction texts generalizing p item with
  | nil =>
    cases h
    exact ⟨rfl, fun _ _ => rfl, trivial⟩
  | cons text texts ih =>
    obtain ⟨p₁, h₁, h⟩ := Option.bind_eq_some_iff.mp h
    obtain ⟨hlength₁, hbefore, hstored, -⟩ := writeChunk_spec (hlength text List.mem_cons_self) h₁
    rw [hstored] at h
    obtain ⟨hlength', hkept, hrest⟩ := ih (fun t ht => hlength t (List.mem_cons_of_mem _ ht)) h
    have hbytes := totalBytes_eq (storedLength text)
    refine ⟨hlength'.trans hlength₁, fun i hi => (hkept i (by omega)).trans (hbefore i hi), ?_, hrest⟩
    exact (hkept _ (by rw [txtLenOffset_eq]; omega)).trans hstored

/-- The reader follows the lengths in memory. -/
theorem storedLength_of_chunkList {chunks : List ℕ} (hstored : StoredLengths p item texts)
    (hlength : ∀ text ∈ texts, text.length ≤ 255)
    (hchunks : chunkList p item texts.length = some chunks)
    (hholds : List.Forall₂ (ChunkHolds p) chunks texts) : ∀ text ∈ texts, KeepsLength text := by
  induction texts generalizing item chunks with
  | nil => simp
  | cons text texts ih =>
    obtain ⟨hfirst, hrest⟩ := hstored
    simp only [List.length_cons, chunkList, hfirst, Option.bind_eq_bind, Option.bind_some] at hchunks
    obtain ⟨rest, hread, hcons⟩ := Option.bind_eq_some_iff.mp hchunks
    cases hcons
    obtain ⟨hchunk, hholds⟩ := List.forall₂_cons.mp hholds
    have hfit := hlength text List.mem_cons_self
    have heq := hchunk.length
    rw [hfirst, Option.map_some, Option.some.injEq, ← toNat_length hfit] at heq
    have hkept := (storedLength_eq_iff hfit).mp (BitVec.eq_of_toNat_eq heq)
    intro t ht
    rcases List.mem_cons.mp ht with rfl | ht
    · exact hkept
    · exact ih hrest (fun t ht => hlength t (List.mem_cons_of_mem _ ht)) hread hholds t ht

theorem itemTotalSize_bounds (itemText : List (List Byte)) :
    4 ∣ itemTotalSize itemText ∧ 12 * itemText.length ≤ itemTotalSize itemText ∧
      itemTotalSize itemText ≤ 268 * itemText.length := by
  induction itemText with
  | nil => simp [itemTotalSize]
  | cons text texts ih =>
    have hlt := (BitVec.ofNat 8 text.length).isLt
    have hbytes := totalBytes_eq (BitVec.ofNat 8 text.length)
    simp only [itemTotalSize, List.map_cons, List.sum_cons, List.length_cons] at ih ⊢
    omega

theorem writeBits_behind {bits : RtcpBits} (h : RtcpBye.writeBits p bits = some p') {i : ℕ}
    (hi : 4 ≤ i) : p'[i]? = p[i]? :=
  ByteBlock.getElem?_store h (.inr (by change 1 + 1 ≤ i; omega))

theorem setupHeader_behind {type : Byte} {count : ℕ} {n : BitVec 32} (hcount : count ≤ 31)
    (h : setupHeader p type count n = some p') {i : ℕ} (hi : 4 ≤ i) : p'[i]? = p[i]? := by
  obtain ⟨bits, -, h⟩ := Option.bind_eq_some_iff.mp h
  obtain ⟨p₁, h₁, h⟩ := Option.bind_eq_some_iff.mp h
  rw [if_neg (by omega)] at h
  obtain ⟨p₂, h₂, h⟩ := Option.bind_eq_some_iff.mp h
  obtain ⟨p₃, h₃, h₄⟩ := Option.bind_eq_some_iff.mp h
  have htype : p₃[i]? = p₂[i]? :=
    ByteBlock.getElem?_store h₃ (.inr (by change 0 + 1 ≤ i; omega))
  have hsize : p'[i]? = p₃[i]? := ByteBlock.getElem?_store h₄ (.inr (by
    rw [ByteBlock.littleEndian_length]
    change 2 + 2 ≤ i
    omega))
  calc p'[i]? = p₃[i]? := hsize
    _ = p₂[i]? := htype
    _ = p₁[i]? := writeBits_behind h₂ hi
    _ = p[i]? := writeBits_behind h₁ hi

theorem setupPadding_behind (h : setupPadding p 0 = some p') {i : ℕ} (hi : 4 ≤ i) :
    p'[i]? = p[i]? := by
  obtain ⟨bits, -, h⟩ := Option.bind_eq_some_iff.mp h
  rw [if_pos rfl] at h
  exact writeBits_behind h hi

/-- The sizes of the chunks are multiples of four, so nothing is padded. -/
theorem create_eq {itemText : List (List Byte)} (hne : itemText ≠ []) (hcount : itemText.length ≤ 31) :
    ∃ n : BitVec 32, n.toNat = 4 + itemTotalSize itemText ∧
      create itemText = (writeChunks (List.replicate n.toNat 0) chunksOffset itemText).bind fun p =>
        (setupHeader p rtcpTypeSdes itemText.length n).bind fun p =>
          (setupPadding p 0).bind fun p => some (some p) := by
  obtain ⟨⟨words, hwords⟩, hleast, hmost⟩ := itemTotalSize_bounds itemText
  have hpositive := List.length_pos_iff.mpr hne
  have hbytes : (alignSize (BitVec.ofNat 32 (4 + itemTotalSize itemText))).toNat =
      4 + itemTotalSize itemText := by
    rw [RtcpBye.alignSize_toNat (by omega)]
    omega
  refine ⟨alignSize (BitVec.ofNat 32 (4 + itemTotalSize itemText)), hbytes, ?_⟩
  have hreal : sizeofRtcpSdes - sizeofSdesChunk + itemTotalSize itemText =
      4 + itemTotalSize itemText := rfl
  rw [create, hreal]
  generalize alignSize (BitVec.ofNat 32 (4 + itemTotalSize itemText)) = n at hbytes
  have hlarge : ¬ n.toInt < (rtcpSdesMinBytes : ℤ) := by
    rw [BitVec.toInt_eq_toNat_of_lt (by omega), rtcpSdesMinBytes]
    omega
  have hpadding : n.signExtend 64 - BitVec.ofNat 64 (4 + itemTotalSize itemText) = 0 := by
    have hsign : n.msb = false := BitVec.msb_eq_false_iff_two_mul_lt.mpr (by omega)
    rw [BitVec.signExtend_eq_setWidth_of_msb_false hsign, ← hbytes, BitVec.ofNat_toNat]
    exact BitVec.sub_self _
  simp only [hlarge, hpadding, if_false]
  rfl

/-- The chunks in the packet with the texts, as the reader finds them. -/
def HoldsAll (p : ByteBlock) : ℕ → List (List Byte) → Prop
  | _, [] => True
  | item, text :: texts => p[item + txtLenOffset]? = some (BitVec.ofNat 8 text.length) ∧
      p.load (item + textOffset) text.length = some text ∧
      item + totalBytes (BitVec.ofNat 8 text.length) ≤ p.length ∧
      HoldsAll p (item + totalBytes (BitVec.ofNat 8 text.length)) texts

theorem load_congr (hsame : ∀ i, item ≤ i → p'[i]? = p[i]?) (hlength : p'.length = p.length) {count : ℕ} :
    p'.load item count = p.load item count := by
  have hdrop : p'.drop item = p.drop item := by
    apply List.ext_getElem?
    intro i
    simpa using hsame (item + i) (by omega)
  simp only [ByteBlock.load, hdrop, hlength]

theorem HoldsAll.congr (hsame : ∀ i, item ≤ i → p'[i]? = p[i]?) (hlength : p'.length = p.length)
    (h : HoldsAll p item texts) : HoldsAll p' item texts := by
  induction texts generalizing item with
  | nil => trivial
  | cons text texts ih =>
    obtain ⟨hlen, htext, hinside, hrest⟩ := h
    refine ⟨(hsame _ (by omega)).trans hlen, ?_, hlength ▸ hinside, ih (fun i hi => hsame i (by omega)) hrest⟩
    rw [load_congr (fun i hi => hsame i (by omega)) hlength, htext]

theorem load_of_before {count : ℕ} (hsame : ∀ i < item + count, p'[i]? = p[i]?)
    (hlength : p'.length = p.length) : p'.load item count = p.load item count := by
  have htake : (p'.drop item).take count = (p.drop item).take count := by
    apply List.ext_getElem?
    intro i
    by_cases hi : i < count
    · simpa [List.getElem?_take_of_lt hi] using hsame (item + i) (by omega)
    · rw [List.getElem?_take_eq_none (by omega), List.getElem?_take_eq_none (by omega)]
  simp only [ByteBlock.load, htake, hlength]

/-- When every text keeps its length the writer stays in the bytes that were counted. -/
theorem writeChunks_holdsAll (hlength : ∀ text ∈ texts, text.length ≤ 255)
    (hkeeps : ∀ text ∈ texts, KeepsLength text) (hfits : item + itemTotalSize texts ≤ p.length) :
    ∃ p', writeChunks p item texts = some p' ∧ p'.length = p.length ∧
      (∀ i < item, p'[i]? = p[i]?) ∧ HoldsAll p' item texts := by
  induction texts generalizing p item with
  | nil => exact ⟨p, rfl, rfl, fun _ _ => rfl, trivial⟩
  | cons text texts ih =>
    have hfit := hlength text List.mem_cons_self
    have hbytes := totalBytes_eq (BitVec.ofNat 8 text.length)
    rw [toNat_length hfit] at hbytes
    simp only [itemTotalSize, List.map_cons, List.sum_cons] at hfits
    obtain ⟨p₁, h₁⟩ := writeChunk_isSome hfit (show item + text.length + 3 ≤ p.length by omega)
    obtain ⟨hlength₁, hbefore₁, hstored, htext⟩ := writeChunk_spec hfit h₁
    rw [(storedLength_eq_iff hfit).mpr (hkeeps text List.mem_cons_self)] at hstored
    have hnext : item + totalBytes (BitVec.ofNat 8 text.length) + itemTotalSize texts ≤ p₁.length := by
      simp only [itemTotalSize]
      omega
    obtain ⟨p₂, h₂, hlength₂, hbefore₂, hrest⟩ :=
      ih (fun t ht => hlength t (List.mem_cons_of_mem _ ht))
        (fun t ht => hkeeps t (List.mem_cons_of_mem _ ht)) hnext
    refine ⟨p₂, ?_, hlength₂.trans hlength₁, fun i hi => (hbefore₂ i (by omega)).trans (hbefore₁ i hi),
      (hbefore₂ _ (by rw [txtLenOffset_eq]; omega)).trans hstored, ?_, by omega, hrest⟩
    · simp only [writeChunks, h₁, hstored, Option.bind_eq_bind, Option.bind_some, h₂]
    · rw [load_of_before (fun i hi => hbefore₂ i (by rw [textOffset_eq] at hi; omega)) hlength₂, htext]

theorem HoldsAll.chunkList (h : HoldsAll p item texts) (hlength : ∀ text ∈ texts, text.length ≤ 255) :
    ∃ chunks, chunkList p item texts.length = some chunks ∧
      List.Forall₂ (ChunkHolds p) chunks texts := by
  induction texts generalizing item with
  | nil => exact ⟨[], rfl, .nil⟩
  | cons text texts ih =>
    obtain ⟨hlen, htext, hinside, hrest⟩ := h
    obtain ⟨chunks, hchunks, hholds⟩ := ih hrest fun t ht => hlength t (List.mem_cons_of_mem _ ht)
    refine ⟨item :: chunks, ?_, .cons ⟨?_, htext, ?_⟩ hholds⟩
    · simp only [List.length_cons, RtcpSdes.chunkList, hlen, hchunks, Option.bind_eq_bind,
        Option.bind_some, Option.pure_def]
    · rw [hlen, Option.map_some, toNat_length (hlength text List.mem_cons_self)]
    · intro txtLen htxtLen
      rw [hlen] at htxtLen
      cases htxtLen
      exact hinside

/-- A description comes back as it was made if and only if each text keeps its length. -/
theorem sdesRoundTrips_iff {itemText : List (List Byte)} (hne : itemText ≠ [])
    (hcount : itemText.length ≤ 31) (hlength : ∀ text ∈ itemText, text.length ≤ 255) :
    RoundTrips itemText ↔ ∀ text ∈ itemText, KeepsLength text := by
  obtain ⟨n, hn, hcreate⟩ := create_eq hne hcount
  obtain ⟨⟨words, hwords⟩, hleast, hmost⟩ := itemTotalSize_bounds itemText
  have hpositive := List.length_pos_iff.mpr hne
  have hwhole : n.toNat = 4 * (1 + words) := by omega
  have hlarge : 8 ≤ n.toNat := by omega
  have hheader : ∀ p₁ p₂ p₃, p₁.length = n.toNat →
      setupHeader p₁ rtcpTypeSdes itemText.length n = some p₂ → setupPadding p₂ 0 = some p₃ →
      Headed itemText.length n.toNat p₃ ∧ ∀ i, chunksOffset ≤ i → p₃[i]? = p₁[i]? := by
    intro p₁ p₂ p₃ hlength₁ h₂ h₃
    obtain ⟨p₂', h₂', hheaded₂⟩ := RtcpBye.setupHeader_headed hwhole (by omega) (by omega) hlength₁
      hcount rtcpTypeSdes
    obtain rfl : p₂ = p₂' := Option.some.inj (h₂.symm.trans h₂')
    obtain ⟨p₃', h₃', hheaded₃⟩ := RtcpBye.setupPadding_headed hheaded₂ hlarge 0
    obtain rfl : p₃ = p₃' := Option.some.inj (h₃.symm.trans h₃')
    exact ⟨hheaded₃, fun i hi => (setupPadding_behind h₃ hi).trans (setupHeader_behind hcount h₂ hi)⟩
  constructor
  · rintro ⟨p, chunks, hp, hread, hholds⟩
    rw [hcreate] at hp
    obtain ⟨p₁, h₁, hp⟩ := Option.bind_eq_some_iff.mp hp
    obtain ⟨p₂, h₂, hp⟩ := Option.bind_eq_some_iff.mp hp
    obtain ⟨p₃, h₃, hp⟩ := Option.bind_eq_some_iff.mp hp
    cases hp
    obtain ⟨hlength₁, -, hstored⟩ := writeChunks_spec hlength h₁
    obtain ⟨hheaded, hbehind⟩ := hheader p₁ p₂ p (by simpa using hlength₁) h₂ h₃
    obtain ⟨bits, hbits, hreports⟩ := hheaded.bits
    rw [getChunkList, hbits, Option.bind_eq_bind, Option.bind_some, hreports] at hread
    exact storedLength_of_chunkList (hstored.congr hbehind) hlength hread hholds
  · intro hkeeps
    have hroom : chunksOffset + itemTotalSize itemText ≤ (List.replicate n.toNat (0 : Byte)).length := by
      simp only [List.length_replicate, chunksOffset_eq]
      omega
    obtain ⟨p₁, h₁, hlength₁, -, hall⟩ := writeChunks_holdsAll hlength hkeeps hroom
    rw [List.length_replicate] at hlength₁
    obtain ⟨p₂, h₂, hheaded₂⟩ := RtcpBye.setupHeader_headed hwhole (by omega) (by omega) hlength₁
      hcount rtcpTypeSdes
    obtain ⟨p₃, h₃, -⟩ := RtcpBye.setupPadding_headed hheaded₂ hlarge 0
    obtain ⟨hheaded, hbehind⟩ := hheader p₁ p₂ p₃ hlength₁ h₂ h₃
    obtain ⟨chunks, hchunks, hholds⟩ :=
      (hall.congr hbehind (hheaded.length.trans hlength₁.symm)).chunkList hlength
    obtain ⟨bits, hbits, hreports⟩ := hheaded.bits
    refine ⟨p₃, chunks, ?_, ?_, hholds⟩
    · simp only [hcreate, h₁, h₂, h₃, Option.bind_some]
    · rw [getChunkList, hbits, Option.bind_eq_bind, Option.bind_some, hreports, hchunks]

/-- A text of one byte, and one of six bytes whose third byte is six. -/
theorem sdesRoundTrips_two : RoundTrips [[0x61], [1, 2, 6, 4, 5, 6]] ↔
    ∀ text ∈ [[0x61], [1, 2, 6, 4, 5, 6]], KeepsLength text :=
  sdesRoundTrips_iff (by decide) (by decide) (by decide)

/-- One item with the text `abc`. The writer leaves the letter `c` as its length. -/
theorem abc_not_roundTrips : ¬ ∀ itemText : List (List Byte), itemText ≠ [] → itemText.length ≤ 31 →
    (∀ text ∈ itemText, text.length ≤ 255) → RoundTrips itemText := by
  intro h
  obtain ⟨p, chunks, hcreate, hread, hholds⟩ :=
    h [[0x61, 0x62, 0x63]] (by decide) (by decide) (by decide)
  have hstored : ((create [[0x61, 0x62, 0x63]]).bind fun p => p.bind fun p => do
      let chunks ← getChunkList p
      return chunks.map fun chunk => p[chunk + txtLenOffset]?) = some [some 0x63] := by
    decide +kernel
  simp only [hcreate, Option.bind_some, hread, Option.bind_eq_bind, Option.pure_def,
    Option.some.injEq] at hstored
  obtain ⟨chunk, chunks, hchunk, hnone, rfl⟩ := List.forall₂_cons_right_iff.mp hholds
  have hfirst : p[chunk + txtLenOffset]? = some 0x63 := (List.cons.inj hstored).1
  have hlength := hchunk.length
  rw [hfirst] at hlength
  simp at hlength

end RtcpSdes

end WifiDisplay
