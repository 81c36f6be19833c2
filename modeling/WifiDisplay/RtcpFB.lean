import WifiDisplay.RtcpBye

/-! Feedback packets, with the same header as a goodbye. -/

namespace WifiDisplay

inductive PsfbType where
  | pli
  | sli
  | rpsi
  | fir
  | tstr
  | tstn
  | vbcm
  | remb
  deriving DecidableEq, Repr

def PsfbType.value : PsfbType → ℕ
  | .pli => 1
  | .sli => 2
  | .rpsi => 3
  | .fir => 4
  | .tstr => 5
  | .tstn => 6
  | .vbcm => 7
  | .remb => 15

inductive RtpfbType where
  | nack
  | tmmbr
  | tmmbn
  | twcc
  deriving DecidableEq, Repr

def RtpfbType.value : RtpfbType → ℕ
  | .nack => 1
  | .tmmbr => 3
  | .tmmbn => 4
  | .twcc => 15

def rtcpTypeRtpfb : Byte := 205

def rtcpTypePsfb : Byte := 206

/-- The format as the two overloads of `Create` take it. -/
inductive FbFormat where
  | psfb (fmt : PsfbType)
  | rtpfb (fmt : RtpfbType)
  deriving DecidableEq, Repr

def FbFormat.type : FbFormat → Byte
  | .psfb _ => rtcpTypePsfb
  | .rtpfb _ => rtcpTypeRtpfb

def FbFormat.value : FbFormat → ℕ
  | .psfb fmt => fmt.value
  | .rtpfb fmt => fmt.value

theorem FbFormat.value_le (format : FbFormat) : format.value ≤ 31 := by
  rcases format with fmt | fmt <;> cases fmt <;> decide

/-- The header, then `ssrc_` and `ssrcMedia_`. -/
def rtcpFBFields : List FieldType := [⟨sizeofRtcpHeader, 2⟩, ⟨4, 4⟩, ⟨4, 4⟩]

def sizeofRtcpFB : ℕ := structSize rtcpFBFields

namespace RtcpFB

open RtcpBye (writeBits getSize setSize setupHeader setupPadding Headed)

/-- `GetFciPtr`, behind `ssrcMedia_`. -/
def fciOffset : ℕ := (fieldOffsets 0 rtcpFBFields).getD 2 0 + 4

/-- The greatest room that `memcpy_s` takes for one. -/
def securecMemMaxLen : ℕ := 0x7fffffff

/-- The copy behind the header; there is no packet if `memcpy_s` refuses it. -/
def copyFci (p : ByteBlock) (bytes : BitVec 32) (fci : List Byte) : Option (Option ByteBlock) :=
  if fci = [] then some (some p)
  else
    let room := (bytes.signExtend 64 - BitVec.ofNat 64 sizeofRtcpFB).toNat
    if room = 0 ∨ securecMemMaxLen < room ∨ room < fci.length then some none
    else do
      let p ← p.store fciOffset fci
      return some p

/-- As in `RtcpBye.create`, `memory` is what the allocation holds before. -/
def createInner (memory : ℕ → Byte) (type : Byte) (fmt : ℕ) (fci : Option (List Byte)) :
    Option (Option ByteBlock) := do
  let fci := fci.getD []
  let realSize := sizeofRtcpFB + fci.length
  let bytes := alignSize (BitVec.ofNat 32 realSize)
  if bytes.toInt ≤ 0 then return none
  match ← copyFci ((List.range bytes.toNat).map memory) bytes fci with
  | none => return none
  | some p =>
    let p ← setupHeader p type fmt bytes
    let p ← setupPadding p (bytes.signExtend 64 - BitVec.ofNat 64 realSize)
    return some p

def create (memory : ℕ → Byte) (format : FbFormat) (fci : Option (List Byte)) : Option (Option ByteBlock) :=
  createInner memory format.type format.value fci

def getPaddingSize (p : ByteBlock) : Option ℕ := do
  let bits ← RtcpBye.readBits p
  if bits.padding = 0 then return 0
  let size ← getSize p
  let padding ← p[size - 1]?
  return padding.toNat

def getFciSize (p : ByteBlock) : Option ℤ := do
  let size ← getSize p
  let padding ← getPaddingSize p
  return size - padding - sizeofRtcpFB

/-- The packet has this format, and its getters give back the FCI. -/
structure Carries (format : FbFormat) (fci : List Byte) (p : ByteBlock) : Prop where
  type : p[ptOffset]? = some format.type
  format : ∃ bits, RtcpBye.readBits p = some bits ∧ bits.reportCount.toNat = format.value
  fci : ∃ size, getFciSize p = some (Int.ofNat size) ∧ p.load fciOffset size = some fci
  size : getSize p = some p.length

/-- There is a packet if the length field can describe it, and a packet is one with this FCI. -/
def CreatesFeedback (memory : ℕ → Byte) (format : FbFormat) (fci : Option (List Byte)) : Prop :=
  ∃ answer, create memory format fci = some answer ∧
    (∀ p, answer = some p → Carries format (fci.getD []) p) ∧
    (sizeofRtcpFB + (fci.getD []).length ≤ 4 * 2 ^ 16 → answer.isSome)

variable {p p' : ByteBlock} {bytes : BitVec 32} {fci : List Byte}

theorem sizeofRtcpFB_eq : sizeofRtcpFB = 12 := rfl

theorem fciOffset_eq : fciOffset = 12 := rfl

/-! The helpers, on what they leave alone. -/

/-- A packet that differs from `p` in its header only. -/
def SameBody (p p' : ByteBlock) : Prop := p'.length = p.length ∧ ∀ i, 4 ≤ i → p'[i]? = p[i]?

theorem SameBody.trans {p'' : ByteBlock} (h : SameBody p p') (h' : SameBody p' p'') : SameBody p p'' :=
  ⟨h'.1.trans h.1, fun i hi => (h'.2 i hi).trans (h.2 i hi)⟩

theorem SameBody.store {offset : ℕ} {bytes : List Byte} (h : p.store offset bytes = some p')
    (hoffset : offset + bytes.length ≤ 4) : SameBody p p' :=
  ⟨ByteBlock.store_length h, fun _ hi => ByteBlock.getElem?_store h (.inr (hoffset.trans hi))⟩

theorem SameBody.load (h : SameBody p p') {offset count : ℕ} (hoffset : 4 ≤ offset) :
    p'.load offset count = p.load offset count := by
  have hdrop : p'.drop offset = p.drop offset := by
    apply List.ext_getElem?
    intro i
    rw [List.getElem?_drop, List.getElem?_drop]
    exact h.2 _ (hoffset.trans (Nat.le_add_right _ _))
  simp only [ByteBlock.load, h.1, hdrop]

theorem setupHeader_spec {type : Byte} {fmt : ℕ} (hfmt : fmt ≤ 31)
    (h : setupHeader p type fmt bytes = some p') :
    SameBody p p' ∧ p'[ptOffset]? = some type ∧ ∃ bits, RtcpBye.readBits p' = some bits ∧ bits.padding = 0 := by
  obtain ⟨bits, hbits, h⟩ := Option.bind_eq_some_iff.mp h
  obtain ⟨p₁, h₁, h⟩ := Option.bind_eq_some_iff.mp h
  rw [if_neg (by omega)] at h
  obtain ⟨p₂, h₂, h⟩ := Option.bind_eq_some_iff.mp h
  obtain ⟨p₃, h₃, h₄⟩ := Option.bind_eq_some_iff.mp h
  have hlength : 2 ≤ p₁.length := by
    rw [ByteBlock.store_length h₁]
    exact (ByteBlock.store_eq_some.mp h₁).1
  have hbody₁ := SameBody.store h₁ (show 1 + 1 ≤ 4 by decide)
  have hbody₂ := SameBody.store h₂ (show 1 + 1 ≤ 4 by decide)
  have hbody₃ := SameBody.store h₃ (show 0 + 1 ≤ 4 by decide)
  have hbody₄ := SameBody.store h₄ (show 2 + 2 ≤ 4 by decide)
  refine ⟨(hbody₁.trans hbody₂).trans (hbody₃.trans hbody₄), ?_, ?_⟩
  · rw [ByteBlock.getElem?_store h₄ (.inl (by decide))]
    exact ByteBlock.getElem?_store_same h₃ Nat.zero_lt_one
  · obtain ⟨p₂', h₂', -, hbits₂, -⟩ := RtcpBye.writeBits_spec
      { bits with version := 2, padding := 0, reportCount := BitVec.ofNat 5 fmt } hlength
    obtain rfl : p₂' = p₂ := Option.some.inj (h₂'.symm.trans h₂)
    refine ⟨{ bits with version := 2, padding := 0, reportCount := BitVec.ofNat 5 fmt }, ?_, rfl⟩
    rw [RtcpBye.readBits_store h₄ (.inl (by decide)), RtcpBye.readBits_store h₃ (.inr le_rfl)]
    exact hbits₂

theorem setupPadding_spec {fmt size : ℕ} {padding : BitVec 64} (hp : Headed fmt size p) (hsize : 8 ≤ size)
    (hpadding : padding.toNat < 256) (h : setupPadding p padding = some p') :
    Headed fmt size p' ∧ p'[ptOffset]? = p[ptOffset]? ∧ getPaddingSize p' = some padding.toNat ∧
      ∀ offset count, 4 ≤ offset → offset + count + padding.toNat ≤ size →
        p'.load offset count = p.load offset count := by
  obtain ⟨p'', hp'', hheaded⟩ := RtcpBye.setupPadding_headed hp hsize padding
  obtain rfl : p'' = p' := Option.some.inj (hp''.symm.trans h)
  have hlength : 2 ≤ p.length := by
    rw [hp.length]
    omega
  obtain ⟨bits, hbits, h⟩ := Option.bind_eq_some_iff.mp h
  split at h
  · rename_i hzero
    obtain ⟨p₁, h₁, -, hbits₁, -⟩ := RtcpBye.writeBits_spec { bits with padding := 0 } hlength
    obtain rfl : p₁ = p'' := Option.some.inj (h₁.symm.trans h)
    refine ⟨hheaded, ByteBlock.getElem?_store h (.inl (by decide)), ?_, fun offset count hoffset _ => ?_⟩
    · rw [getPaddingSize, hbits₁, hzero]
      rfl
    · exact (SameBody.store h (show 1 + 1 ≤ 4 by decide)).load hoffset
  · rename_i hne
    obtain ⟨p₁, h₁, h⟩ := Option.bind_eq_some_iff.mp h
    obtain ⟨p₁', h₁', -, hbits₁, hsize₁⟩ := RtcpBye.writeBits_spec { bits with padding := 1 } hlength
    obtain rfl : p₁' = p₁ := Option.some.inj (h₁'.symm.trans h₁)
    rw [hsize₁, hp.size, Option.bind_eq_bind, Option.bind_some, if_neg (by omega)] at h
    have hpositive : 0 < padding.toNat := by
      rw [Nat.pos_iff_ne_zero]
      exact fun hzero => hne (BitVec.eq_of_toNat_eq hzero)
    refine ⟨hheaded, ?_, ?_, fun offset count hoffset hfits => ?_⟩
    · have hlast : p''[ptOffset]? = p₁'[ptOffset]? :=
        ByteBlock.getElem?_store h (.inl (show 0 < size - 1 by omega))
      rw [hlast, ByteBlock.getElem?_store h₁ (.inl (by decide))]
    · have hbyte := ByteBlock.getElem?_store_same h (i := 0) Nat.zero_lt_one
      have hread : RtcpBye.readBits p'' = some { bits with padding := 1 } :=
        (RtcpBye.readBits_store h (.inl (show 1 < size - 1 by omega))).trans hbits₁
      rw [Nat.add_zero] at hbyte
      rw [getPaddingSize, hread, Option.bind_eq_bind, Option.bind_some,
        if_neg (show ¬ (1 : BitVec 1) = 0 by decide), hheaded.size,
        Option.bind_eq_bind, Option.bind_some, hbyte]
      show some (padding.setWidth 8).toNat = some padding.toNat
      rw [BitVec.toNat_setWidth, Nat.mod_eq_of_lt hpadding]
    · rw [ByteBlock.load_store_disjoint h (.inl (by omega))]
      exact (SameBody.store h₁ (show 1 + 1 ≤ 4 by decide)).load hoffset

/-- What the padding and the FCI together fill. -/
def alignedSize (fci : List Byte) : ℕ := 4 * ((sizeofRtcpFB + fci.length + 3) / 4)

theorem getSize_le {size : ℕ} (h : getSize p = some size) : size ≤ 4 * 2 ^ 16 := by
  obtain ⟨length, -, h⟩ := Option.bind_eq_some_iff.mp h
  have hlt := (htons (BitVec.ofNat 16 (ByteBlock.ofLittleEndian length))).isLt
  cases h
  omega

theorem copyFci_spec (h : copyFci p bytes fci = some (some p')) :
    p'.length = p.length ∧ (12 ≤ p.length → p'.load fciOffset fci.length = some fci) := by
  rw [copyFci] at h
  split at h
  · rename_i hnil
    cases h
    refine ⟨rfl, fun hle => ByteBlock.load_eq_some.mpr ⟨?_, ?_⟩⟩
    · rw [hnil, fciOffset_eq]
      exact hle
    · rw [hnil]
      exact List.take_zero
  · dsimp only at h
    split at h
    · cases h
    · obtain ⟨p₁, h₁, h⟩ := Option.bind_eq_some_iff.mp h
      cases h
      exact ⟨ByteBlock.store_length h₁, fun _ => ByteBlock.load_store_same h₁⟩

/-- The room is what the allocation has behind the header. -/
theorem copyFci_isSome (hlength : p.length = bytes.toNat) (hbytes : bytes.toNat < 2 ^ 31)
    (hfits : 12 + fci.length ≤ bytes.toNat) : ∃ p', copyFci p bytes fci = some (some p') := by
  rw [copyFci]
  split
  · exact ⟨p, rfl⟩
  · rename_i hne
    have hpositive := List.length_pos_iff.mpr hne
    have hroom : (bytes.signExtend 64 - BitVec.ofNat 64 sizeofRtcpFB).toNat = bytes.toNat - 12 := by
      rw [BitVec.signExtend_eq_setWidth_of_msb_false (BitVec.msb_eq_false_iff_two_mul_lt.mpr (by omega)),
        BitVec.toNat_sub, BitVec.toNat_setWidth, sizeofRtcpFB_eq]
      simp
      omega
    have hmax : securecMemMaxLen = 2 ^ 31 - 1 := rfl
    rw [hroom, if_neg (by omega)]
    obtain ⟨p', hp'⟩ := ByteBlock.store_isSome p fciOffset fci (by
      rw [fciOffset_eq, hlength]
      exact hfits)
    exact ⟨p', by rw [hp']; rfl⟩

theorem copyFci_refuses (hbytes : 0 < bytes.toInt) (hlong : 2 ^ 31 ≤ fci.length + 15)
    (haligned : bytes.toNat % 4 = 0) : copyFci p bytes fci = some none := by
  have hlt : bytes.toNat < 2 ^ 31 := by
    by_contra hge
    rw [BitVec.toInt_eq_toNat_cond, if_neg (by omega)] at hbytes
    have hmax := bytes.isLt
    omega
  have hne : fci ≠ [] := by
    rintro rfl
    exact absurd hlong (by decide)
  have hroom : securecMemMaxLen < (bytes.signExtend 64 - BitVec.ofNat 64 sizeofRtcpFB).toNat ∨
      (bytes.signExtend 64 - BitVec.ofNat 64 sizeofRtcpFB).toNat < fci.length := by
    rw [BitVec.signExtend_eq_setWidth_of_msb_false (BitVec.msb_eq_false_iff_two_mul_lt.mpr (by omega)),
      BitVec.toNat_sub, BitVec.toNat_setWidth, sizeofRtcpFB_eq]
    have hmax : securecMemMaxLen = 2 ^ 31 - 1 := rfl
    simp
    omega
  rw [copyFci, if_neg hne]
  exact if_pos (.inr hroom)

theorem alignSize_mod_four (n : BitVec 32) : (alignSize n).toNat % 4 = 0 := by
  rw [alignSize, BitVec.toNat_shiftLeft, Nat.shiftLeft_eq]
  omega

theorem setupPadding_length {padding : BitVec 64} (h : setupPadding p padding = some p') :
    p'.length = p.length := by
  obtain ⟨bits, -, h⟩ := Option.bind_eq_some_iff.mp h
  split at h
  · exact ByteBlock.store_length h
  · obtain ⟨p₁, h₁, h⟩ := Option.bind_eq_some_iff.mp h
    obtain ⟨size, -, h⟩ := Option.bind_eq_some_iff.mp h
    split at h
    · cases h
      exact ByteBlock.store_length h₁
    · exact (ByteBlock.store_length h).trans (ByteBlock.store_length h₁)

/-! `Create`, by the length of the FCI. -/

section

variable (memory : ℕ → Byte) (format : FbFormat) (fci : Option (List Byte))

theorem alignSize_fci (h : (fci.getD []).length + 15 < 2 ^ 31) :
    (alignSize (BitVec.ofNat 32 (sizeofRtcpFB + (fci.getD []).length))).toNat = alignedSize (fci.getD []) ∧
      0 < (alignSize (BitVec.ofNat 32 (sizeofRtcpFB + (fci.getD []).length))).toInt := by
  have hnat : (alignSize (BitVec.ofNat 32 (sizeofRtcpFB + (fci.getD []).length))).toNat =
      alignedSize (fci.getD []) := RtcpBye.alignSize_toNat (by rw [sizeofRtcpFB_eq]; omega)
  refine ⟨hnat, ?_⟩
  rw [alignedSize, sizeofRtcpFB_eq] at hnat
  rw [BitVec.toInt_eq_toNat_of_lt (by rw [sizeofRtcpFB_eq]; omega), sizeofRtcpFB_eq]
  omega

/-- A packet that the length field can describe. -/
theorem create_carries (h : sizeofRtcpFB + (fci.getD []).length ≤ 4 * 2 ^ 16) :
    ∃ p, create memory format fci = some (some p) ∧ Carries format (fci.getD []) p := by
  rw [sizeofRtcpFB_eq] at h
  obtain ⟨hbytes, hpositive⟩ := alignSize_fci fci (by omega)
  rw [create, createInner]
  generalize hfci : fci.getD [] = data at *
  generalize hn : alignSize (BitVec.ofNat 32 (sizeofRtcpFB + data.length)) = bytes at *
  have haligned : alignedSize data = 4 * ((data.length + 15) / 4) := by
    rw [alignedSize, sizeofRtcpFB_eq]
    congr 2
    omega
  rw [haligned] at hbytes
  have hlength₀ : ((List.range bytes.toNat).map memory).length = bytes.toNat := by
    rw [List.length_map, List.length_range]
  obtain ⟨p₁, h₁⟩ := copyFci_isSome hlength₀ (by omega) (show 12 + data.length ≤ bytes.toNat by omega)
  obtain ⟨hlength₁, hfci₁⟩ := copyFci_spec h₁
  rw [hlength₀] at hlength₁ hfci₁
  obtain ⟨p₂, h₂, hheaded₂⟩ := RtcpBye.setupHeader_headed hbytes (by omega) (by omega) hlength₁
    format.value_le format.type
  obtain ⟨hbody₂, htype₂, -⟩ := setupHeader_spec format.value_le h₂
  have hpadding : (bytes.signExtend 64 - BitVec.ofNat 64 (sizeofRtcpFB + data.length)).toNat =
      bytes.toNat - (12 + data.length) := by
    rw [BitVec.signExtend_eq_setWidth_of_msb_false (BitVec.msb_eq_false_iff_two_mul_lt.mpr (by omega)),
      BitVec.toNat_sub, BitVec.toNat_setWidth, sizeofRtcpFB_eq]
    simp
    omega
  obtain ⟨p₃, h₃, -⟩ := RtcpBye.setupPadding_headed hheaded₂ (by omega)
    (bytes.signExtend 64 - BitVec.ofNat 64 (sizeofRtcpFB + data.length))
  obtain ⟨hheaded₃, htype₃, hpadding₃, hload₃⟩ := setupPadding_spec hheaded₂ (by omega) (by omega) h₃
  refine ⟨p₃, ?_, htype₃.trans htype₂, hheaded₃.bits, ⟨data.length, ?_, ?_⟩, ?_⟩
  · simp only [if_neg (Int.not_le.mpr hpositive), h₁, h₂, h₃, Option.bind_eq_bind, Option.bind_some,
      Option.pure_def]
  · rw [getFciSize, hheaded₃.size, hpadding₃, hpadding, sizeofRtcpFB_eq]
    simp only [Option.bind_eq_bind, Option.bind_some, Option.pure_def, Option.some.injEq, Int.ofNat_eq_natCast]
    omega
  · rw [hload₃ _ _ (by decide) (by rw [hpadding, fciOffset_eq]; omega), hbody₂.load (by decide)]
    exact hfci₁ (by omega)
  · rw [hheaded₃.size, hheaded₃.length]

/-- An FCI whose size is no `int32_t` with the header in front. -/
theorem create_refuses (h : 2 ^ 31 ≤ (fci.getD []).length + 15) : create memory format fci = some none := by
  rw [create, createInner]
  by_cases hpositive : (alignSize (BitVec.ofNat 32 (sizeofRtcpFB + (fci.getD []).length))).toInt ≤ 0
  · simp only [if_pos hpositive]
    rfl
  · simp only [if_neg hpositive, copyFci_refuses (Int.not_le.mp hpositive) h (alignSize_mod_four _)]
    rfl

/-- Between the two a packet does not have the size that its header says. -/
theorem not_createsFeedback (hlong : 4 * 2 ^ 16 < sizeofRtcpFB + (fci.getD []).length)
    (hshort : (fci.getD []).length + 15 < 2 ^ 31) : ¬ CreatesFeedback memory format fci := by
  rintro ⟨answer, hanswer, hcarries, -⟩
  obtain ⟨hbytes, hpositive⟩ := alignSize_fci fci hshort
  rw [create, createInner] at hanswer
  rw [sizeofRtcpFB_eq] at hlong
  generalize hfci : fci.getD [] = data at *
  generalize hn : alignSize (BitVec.ofNat 32 (sizeofRtcpFB + data.length)) = bytes at *
  rw [alignedSize, sizeofRtcpFB_eq] at hbytes
  have hlength₀ : ((List.range bytes.toNat).map memory).length = bytes.toNat := by
    rw [List.length_map, List.length_range]
  obtain ⟨p₁, h₁⟩ := copyFci_isSome hlength₀ (by omega) (show 12 + data.length ≤ bytes.toNat by omega)
  simp only [if_neg (Int.not_le.mpr hpositive), h₁, Option.bind_eq_bind, Option.bind_some,
    Option.pure_def] at hanswer
  obtain ⟨p₂, h₂, hanswer⟩ := Option.bind_eq_some_iff.mp hanswer
  obtain ⟨p₃, h₃, hanswer⟩ := Option.bind_eq_some_iff.mp hanswer
  have hsize := getSize_le (hcarries p₃ (Option.some.inj hanswer).symm).size
  rw [setupPadding_length h₃, (setupHeader_spec format.value_le h₂).1.1, (copyFci_spec h₁).1, hlength₀] at hsize
  omega

/-- The answer is right for every FCI but for those too long for the length field that
still have an `int32_t` size. -/
theorem createsFeedback_iff : CreatesFeedback memory format fci ↔
    (fci.getD []).length ≤ 262132 ∨ 2147483633 ≤ (fci.getD []).length := by
  rcases Nat.lt_or_ge 262132 (fci.getD []).length with hlong | hfits
  · rcases Nat.lt_or_ge ((fci.getD []).length + 15) (2 ^ 31) with hshort | hrefused
    · refine iff_of_false (not_createsFeedback memory format fci ?_ hshort) (by omega)
      rw [sizeofRtcpFB_eq]
      omega
    · refine iff_of_true ⟨none, create_refuses memory format fci hrefused, nofun, fun hle => ?_⟩ (.inr (by omega))
      rw [sizeofRtcpFB_eq] at hle
      omega
  · refine iff_of_true ?_ (.inl hfits)
    obtain ⟨p, hp, hcarries⟩ := create_carries memory format fci (by rw [sizeofRtcpFB_eq]; omega)
    exact ⟨some p, hp, fun p' hp' => Option.some.inj hp' ▸ hcarries, fun _ => rfl⟩

end

/-- One byte more than the length field can describe. -/
theorem longRemb_not_createsFeedback :
    ¬ CreatesFeedback (fun _ => 0) (.psfb .remb) (some (List.replicate 262133 0)) := by
  refine not_createsFeedback _ _ _ ?_ ?_ <;> rw [Option.getD_some, List.length_replicate]
  · decide
  · decide

end RtcpFB

end WifiDisplay
