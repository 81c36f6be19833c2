import WifiDisplay.BitStream
import Mathlib.Tactic.IntervalCases

/-! ADTS headers as `AdtsHeader` writes them, and the AudioSpecificConfig that they
are made from. -/

namespace WifiDisplay

def adtsHeaderLen : Nat := 7

structure AdtsHeader where
  id : BitVec 32 := 0
  home : BitVec 32 := 0
  layer : BitVec 32 := 0
  profile : BitVec 32 := 0
  sfIndex : BitVec 32 := 0
  syncword : BitVec 32 := 0
  original : BitVec 32 := 0
  privateBit : BitVec 32 := 0
  aacFrameLength : BitVec 32 := 0
  protectionAbsent : BitVec 32 := 0
  adtsBufferFullness : BitVec 32 := 0
  channelConfiguration : BitVec 32 := 0
  copyrightIdentificationBit : BitVec 32 := 0
  copyrightIdentificationStart : BitVec 32 := 0
  numberOfRawDataBlocksInFrame : BitVec 32 := 0
  deriving DecidableEq, Repr

namespace AdtsHeader

/-- The bytes written to `out`, which has room for them. -/
def dumpAdtsHeader (hed : AdtsHeader) : List Byte :=
  [((hed.syncword >>> 4) &&& 0xFF).setWidth 8,
    (((hed.syncword <<< 4) &&& 0xF0) ||| ((hed.id <<< 3) &&& 0x08) |||
      ((hed.layer <<< 1) &&& 0x06) ||| (hed.protectionAbsent &&& 0x01)).setWidth 8,
    (((hed.profile <<< 6) &&& 0xC0) ||| ((hed.sfIndex <<< 2) &&& 0x3C) |||
      ((hed.privateBit <<< 1) &&& 0x02) ||| ((hed.channelConfiguration >>> 2) &&& 0x03)).setWidth 8,
    (((hed.channelConfiguration <<< 6) &&& 0xC0) ||| ((hed.original <<< 5) &&& 0x20) |||
      ((hed.home <<< 4) &&& 0x10) ||| ((hed.copyrightIdentificationBit <<< 3) &&& 0x08) |||
      ((hed.copyrightIdentificationStart <<< 2) &&& 0x04) |||
      ((hed.aacFrameLength >>> 11) &&& 0x03)).setWidth 8,
    ((hed.aacFrameLength >>> 3) &&& 0xFF).setWidth 8,
    (((hed.aacFrameLength <<< 5) &&& 0xE0) ||| ((hed.adtsBufferFullness >>> 6) &&& 0x1F)).setWidth 8,
    (((hed.adtsBufferFullness <<< 2) &&& 0xFC) |||
      (hed.numberOfRawDataBlocksInFrame &&& 0x03)).setWidth 8]

/-- `config[1]` of a string of one byte is the zero behind it. -/
def parseAacConfig (config : List Byte) : Except Fault AdtsHeader :=
  match config with
  | [] => .error .outOfBounds
  | cfg1 :: rest =>
    let cfg1 := cfg1.setWidth 32
    let cfg2 := (rest.getD 0 0).setWidth 32
    let audioObjectType := cfg1 >>> 3
    let samplingFrequencyIndex := ((cfg1 &&& 0x07) <<< 1) ||| (cfg2 >>> 7)
    let channelConfiguration := (cfg2 &&& 0x7F) >>> 3
    .ok { syncword := 0x0FFF, id := 0, layer := 0, protectionAbsent := 1,
          profile := audioObjectType - 1, sfIndex := samplingFrequencyIndex, privateBit := 0,
          channelConfiguration, original := 0, home := 0, copyrightIdentificationBit := 0,
          copyrightIdentificationStart := 0, aacFrameLength := 7, adtsBufferFullness := 2047,
          numberOfRawDataBlocksInFrame := 0 }

def dumpAacConfig (config : List Byte) (length : Nat) : Except Fault (List Byte) := do
  let header ← parseAacConfig config
  return { header with aacFrameLength := BitVec.ofNat 32 (adtsHeaderLen + length) }.dumpAdtsHeader

/-- `none` is -1. -/
def getAacFrameLength (data : List Byte) : Option Nat :=
  if data.length < 7 then none
  else if data.getD 0 0 ≠ 0xFF ∨ data.getD 1 0 &&& 0xF0 ≠ 0xF0 then none
  else some ((((data.getD 3 0 &&& 0x03).setWidth 16 <<< 11) |||
    ((data.getD 4 0).setWidth 16 <<< 3) |||
    (((data.getD 5 0).setWidth 16 >>> 5) &&& 0x07) : BitVec 16)).toNat

end AdtsHeader

/-! What the two formats say. -/

/-- The sampling frequency is written out where the index does not stand for one. -/
structure AudioSpecificConfig where
  audioObjectType : Nat
  samplingFrequencyIndex : Nat
  samplingFrequency : Option Nat
  channelConfiguration : Nat
  deriving DecidableEq, Repr

namespace AudioSpecificConfig

def readObjectType (bits : List Bool) : Option (Nat × List Bool) :=
  (readBits 5 bits).bind fun (short, bits) =>
    if short = 31 then (readBits 6 bits).map fun (v, bits) => (32 + v, bits)
    else some (short, bits)

def readFrequency (bits : List Bool) : Option (Nat × Option Nat × List Bool) :=
  (readBits 4 bits).bind fun (index, bits) =>
    if index = 15 then (readBits 24 bits).map fun (v, bits) => (index, some v, bits)
    else some (index, none, bits)

/-- The fields at the front of the bytes of a configuration. -/
def read (config : List Byte) : Option AudioSpecificConfig :=
  (readObjectType (bitsOf config)).bind fun (audioObjectType, bits) =>
    (readFrequency bits).bind fun (samplingFrequencyIndex, samplingFrequency, bits) =>
      (readBits 4 bits).map fun (channelConfiguration, _) =>
        { audioObjectType, samplingFrequencyIndex, samplingFrequency, channelConfiguration }

/-- What the header of an ADTS frame says of the configuration. -/
def ofAdts (header : List Byte) : AudioSpecificConfig :=
  { audioObjectType := (header.getD 2 0).toNat / 64 + 1
    samplingFrequencyIndex := (header.getD 2 0).toNat / 4 % 16
    samplingFrequency := none
    channelConfiguration := (header.getD 2 0).toNat % 2 * 4 + (header.getD 3 0).toNat / 64 }

end AudioSpecificConfig

/-- The two bits of an ADTS profile stand for the object types 1 to 4; its other fields
have no room for a written-out frequency or for more than seven channel configurations. -/
def AudioSpecificConfig.FitsAdts (config : AudioSpecificConfig) : Prop :=
  1 ≤ config.audioObjectType ∧ config.audioObjectType ≤ 4 ∧ config.samplingFrequency = none ∧
    config.channelConfiguration ≤ 7

instance (config : AudioSpecificConfig) : Decidable config.FitsAdts :=
  inferInstanceAs (Decidable (_ ∧ _))

/-- A header of seven bytes for one frame of that configuration and length. -/
structure DescribesAac (header : List Byte) (config : AudioSpecificConfig) (length : Nat) :
    Prop where
  size : header.length = 7
  sync : (header.getD 0 0).toNat * 16 + (header.getD 1 0).toNat / 16 = 0xFFF
  protectionAbsent : (header.getD 1 0).toNat % 2 = 1
  config : AudioSpecificConfig.ofAdts header = config
  length : (header.getD 3 0).toNat % 4 * 2048 + (header.getD 4 0).toNat * 8 +
    (header.getD 5 0).toNat / 32 = 7 + length

theorem slice_toNat {v w : Nat} {x : BitVec v} {y : BitVec w} {s t n : Nat}
    (h : ∀ i < n, x.getLsbD (s + i) = y.getLsbD (t + i)) :
    x.toNat / 2 ^ s % 2 ^ n = y.toNat / 2 ^ t % 2 ^ n := by
  apply Nat.eq_of_testBit_eq
  intro i
  rw [Nat.testBit_mod_two_pow, Nat.testBit_mod_two_pow, Nat.testBit_div_two_pow,
    Nat.testBit_div_two_pow]
  by_cases hi : i < n
  · have hbit := h i hi
    rw [BitVec.getLsbD, BitVec.getLsbD, Nat.add_comm s, Nat.add_comm t] at hbit
    simp [hi, hbit]
  · simp [hi]

namespace AdtsHeader

section Dump

variable (hed : AdtsHeader)

theorem dump_profile : (hed.dumpAdtsHeader.getD 2 0).toNat / 64 = hed.profile.toNat % 4 := by
  have h := slice_toNat (x := hed.dumpAdtsHeader.getD 2 0) (y := hed.profile) (s := 6) (t := 0)
    (n := 2) (fun i hi => by interval_cases i <;> simp [dumpAdtsHeader])
  have hlt := (hed.dumpAdtsHeader.getD 2 0).isLt
  omega

theorem dump_sfIndex :
    (hed.dumpAdtsHeader.getD 2 0).toNat / 4 % 16 = hed.sfIndex.toNat % 16 := by
  have h := slice_toNat (x := hed.dumpAdtsHeader.getD 2 0) (y := hed.sfIndex) (s := 2) (t := 0)
    (n := 4) (fun i hi => by interval_cases i <;> simp [dumpAdtsHeader])
  omega

theorem dump_channels : (hed.dumpAdtsHeader.getD 2 0).toNat % 2 * 4 +
    (hed.dumpAdtsHeader.getD 3 0).toNat / 64 = hed.channelConfiguration.toNat % 8 := by
  have h := slice_toNat (x := hed.dumpAdtsHeader.getD 2 0) (y := hed.channelConfiguration)
    (s := 0) (t := 2) (n := 1) (fun i hi => by interval_cases i; simp [dumpAdtsHeader])
  have h' := slice_toNat (x := hed.dumpAdtsHeader.getD 3 0) (y := hed.channelConfiguration)
    (s := 6) (t := 0) (n := 2) (fun i hi => by interval_cases i <;> simp [dumpAdtsHeader])
  have hlt := (hed.dumpAdtsHeader.getD 3 0).isLt
  omega

theorem dump_length : (hed.dumpAdtsHeader.getD 3 0).toNat % 4 * 2048 +
      (hed.dumpAdtsHeader.getD 4 0).toNat * 8 + (hed.dumpAdtsHeader.getD 5 0).toNat / 32 =
    hed.aacFrameLength.toNat % 8192 := by
  have h := slice_toNat (x := hed.dumpAdtsHeader.getD 3 0) (y := hed.aacFrameLength)
    (s := 0) (t := 11) (n := 2) (fun i hi => by interval_cases i <;> simp [dumpAdtsHeader])
  have h' := slice_toNat (x := hed.dumpAdtsHeader.getD 4 0) (y := hed.aacFrameLength)
    (s := 0) (t := 3) (n := 8) (fun i hi => by interval_cases i <;> simp [dumpAdtsHeader])
  have h'' := slice_toNat (x := hed.dumpAdtsHeader.getD 5 0) (y := hed.aacFrameLength)
    (s := 5) (t := 0) (n := 3) (fun i hi => by interval_cases i <;> simp [dumpAdtsHeader])
  have hlt := (hed.dumpAdtsHeader.getD 4 0).isLt
  have hlt' := (hed.dumpAdtsHeader.getD 5 0).isLt
  omega
end Dump

theorem getAacFrameLength_eq {data : List Byte} (hlen : 7 ≤ data.length)
    (hfirst : data.getD 0 0 = 0xFF) (hsecond : data.getD 1 0 &&& 0xF0 = 0xF0) :
    getAacFrameLength data = some ((data.getD 3 0).toNat % 4 * 2048 + (data.getD 4 0).toNat * 8 +
      (data.getD 5 0).toNat / 32) := by
  rw [getAacFrameLength, if_neg (by omega),
    if_neg fun h => h.elim (· hfirst) (· hsecond)]
  set len : BitVec 16 := ((data.getD 3 0 &&& 0x03).setWidth 16 <<< 11) |||
    ((data.getD 4 0).setWidth 16 <<< 3) ||| (((data.getD 5 0).setWidth 16 >>> 5) &&& 0x07)
    with hdef
  have h := slice_toNat (x := len) (y := data.getD 3 0) (s := 11) (t := 0) (n := 2)
    (fun i hi => by interval_cases i <;> simp [hdef])
  have h' := slice_toNat (x := len) (y := data.getD 4 0) (s := 3) (t := 0) (n := 8)
    (fun i hi => by interval_cases i <;> simp [hdef])
  have h'' := slice_toNat (x := len) (y := data.getD 5 0) (s := 0) (t := 5) (n := 3)
    (fun i hi => by interval_cases i <;> simp [hdef])
  have hhigh := slice_toNat (x := len) (y := (0 : Byte)) (s := 13) (t := 0) (n := 3)
    (fun i hi => by interval_cases i <;> simp [hdef])
  have hlt := len.isLt
  have hlt' := (data.getD 4 0).isLt
  have hlt'' := (data.getD 5 0).isLt
  have hzero : (0 : Byte).toNat = 0 := rfl
  congr 1
  omega

section Config

variable {cfg1 cfg2 : Byte} {rest : List Byte} {header : AdtsHeader}

theorem parse_fixed (h : parseAacConfig (cfg1 :: cfg2 :: rest) = .ok header) :
    header.syncword = 0x0FFF ∧ header.id = 0 ∧ header.layer = 0 ∧ header.protectionAbsent = 1 := by
  cases h
  exact ⟨rfl, rfl, rfl, rfl⟩

theorem parse_profile (h : parseAacConfig (cfg1 :: cfg2 :: rest) = .ok header) :
    header.profile.toNat % 4 = (cfg1.toNat / 8 + 3) % 4 := by
  cases h
  have hlt := cfg1.isLt
  simp
  omega

theorem parse_sfIndex (h : parseAacConfig (cfg1 :: cfg2 :: rest) = .ok header) :
    header.sfIndex.toNat % 16 = cfg1.toNat % 8 * 2 + cfg2.toNat / 128 := by
  have h' := slice_toNat (x := header.sfIndex) (y := cfg1) (s := 1) (t := 0) (n := 3)
    (fun i hi => by cases h; interval_cases i <;> simp)
  have h'' := slice_toNat (x := header.sfIndex) (y := cfg2) (s := 0) (t := 7) (n := 1)
    (fun i hi => by cases h; interval_cases i; simp)
  have hlt := cfg2.isLt
  omega

theorem parse_channels (h : parseAacConfig (cfg1 :: cfg2 :: rest) = .ok header) :
    header.channelConfiguration.toNat % 8 = cfg2.toNat / 8 % 8 := by
  have h' := slice_toNat (x := header.channelConfiguration) (y := cfg2) (s := 0) (t := 3) (n := 3)
    (fun i hi => by cases h; interval_cases i <;> simp)
  omega

end Config

end AdtsHeader

namespace AudioSpecificConfig

theorem readObjectType_some {bits rest : List Bool} {aot : Nat}
    (h : readObjectType bits = some (aot, rest)) :
    5 ≤ bits.length ∧ rest.length ≤ bits.length - 5 ∧
      (bitsValue (bits.take 5) = 31 ∧ 32 ≤ aot ∨
        aot = bitsValue (bits.take 5) ∧ aot ≠ 31 ∧ rest = bits.drop 5) := by
  obtain ⟨⟨short, bits₁⟩, hshort, h⟩ := Option.bind_eq_some_iff.mp h
  obtain ⟨hlen, rfl, rfl⟩ := readBits_some hshort
  dsimp only at h
  by_cases hescape : bitsValue (bits.take 5) = 31
  · rw [if_pos hescape] at h
    obtain ⟨⟨v, bits₂⟩, hv, h⟩ := Option.map_eq_some_iff.mp h
    obtain ⟨-, -, rfl⟩ := readBits_some hv
    cases h
    refine ⟨hlen, ?_, .inl ⟨hescape, by omega⟩⟩
    rw [List.length_drop, List.length_drop]
    omega
  · rw [if_neg hescape] at h
    cases h
    exact ⟨hlen, by rw [List.length_drop], .inr ⟨rfl, hescape, rfl⟩⟩

theorem readFrequency_some {bits rest : List Bool} {index : Nat} {frequency : Option Nat}
    (h : readFrequency bits = some (index, frequency, rest)) :
    4 ≤ bits.length ∧ rest.length ≤ bits.length - 4 ∧ index = bitsValue (bits.take 4) ∧
      (frequency = none → rest = bits.drop 4) := by
  obtain ⟨⟨index', bits₁⟩, hindex, h⟩ := Option.bind_eq_some_iff.mp h
  obtain ⟨hlen, rfl, rfl⟩ := readBits_some hindex
  dsimp only at h
  by_cases hescape : bitsValue (bits.take 4) = 15
  · rw [if_pos hescape] at h
    obtain ⟨⟨v, bits₂⟩, hv, h⟩ := Option.map_eq_some_iff.mp h
    obtain ⟨-, -, rfl⟩ := readBits_some hv
    cases h
    refine ⟨hlen, ?_, rfl, nofun⟩
    rw [List.length_drop, List.length_drop]
    omega
  · rw [if_neg hescape] at h
    cases h
    exact ⟨hlen, by rw [List.length_drop], rfl, fun _ => rfl⟩

theorem bitsValue_fields (cfg1 cfg2 : Byte) (rest : List Byte) :
    bitsValue ((bitsOf (cfg1 :: cfg2 :: rest)).take 5) = cfg1.toNat / 8 ∧
      bitsValue (((bitsOf (cfg1 :: cfg2 :: rest)).drop 5).take 4) =
        cfg1.toNat % 8 * 2 + cfg2.toNat / 128 ∧
      bitsValue ((((bitsOf (cfg1 :: cfg2 :: rest)).drop 5).drop 4).take 4) =
        cfg2.toNat / 8 % 16 := by
  have hhigh : ∀ b : Byte, bitsValue [b.getLsbD 7, b.getLsbD 6, b.getLsbD 5, b.getLsbD 4,
      b.getLsbD 3] = b.toNat / 8 := by decide +kernel
  have hlow : ∀ b : Byte, bitsValue [b.getLsbD 2, b.getLsbD 1, b.getLsbD 0] = b.toNat % 8 := by
    decide +kernel
  have htop : ∀ b : Byte, (b.getLsbD 7).toNat = b.toNat / 128 := by decide +kernel
  have hmiddle : ∀ b : Byte, bitsValue [b.getLsbD 6, b.getLsbD 5, b.getLsbD 4, b.getLsbD 3] =
      b.toNat / 8 % 16 := by decide +kernel
  refine ⟨hhigh cfg1, ?_, hmiddle cfg2⟩
  rw [← hlow cfg1, ← htop cfg2]
  exact congrArg (· + (cfg2.getLsbD 7).toNat) (Nat.mul_comm 2 _)

theorem read_plain {config : List Byte} {asc : AudioSpecificConfig}
    (h : read config = some asc) :
    ∃ cfg1 cfg2 rest, config = cfg1 :: cfg2 :: rest ∧
      (cfg1.toNat / 8 = 31 ∧ 32 ≤ asc.audioObjectType ∨
        asc.audioObjectType = cfg1.toNat / 8 ∧ asc.audioObjectType ≠ 31 ∧
          asc.samplingFrequencyIndex = cfg1.toNat % 8 * 2 + cfg2.toNat / 128 ∧
          (asc.samplingFrequency = none → asc.channelConfiguration = cfg2.toNat / 8 % 16)) := by
  obtain ⟨⟨aot, bits₁⟩, haot, h⟩ := Option.bind_eq_some_iff.mp h
  obtain ⟨⟨index, freq, bits₂⟩, hfreq, h⟩ := Option.bind_eq_some_iff.mp h
  obtain ⟨⟨ch, bits₃⟩, hch, h⟩ := Option.map_eq_some_iff.mp h
  cases h
  obtain ⟨hlen, hlen₁, haot⟩ := readObjectType_some haot
  obtain ⟨hlen', hlen₂, hindex, hrest⟩ := readFrequency_some hfreq
  obtain ⟨hlen'', hch, -⟩ := readBits_some hch
  rw [length_bitsOf] at hlen hlen₁
  match config with
  | [] => simp at hlen
  | [cfg1] =>
    simp only [List.length_singleton] at hlen₁
    omega
  | cfg1 :: cfg2 :: rest =>
    obtain ⟨hshort, hmiddle, hlast⟩ := bitsValue_fields cfg1 cfg2 rest
    refine ⟨cfg1, cfg2, rest, rfl, ?_⟩
    rcases haot with ⟨hescape, hle⟩ | ⟨haot, hne, rfl⟩
    · exact .inl ⟨hshort ▸ hescape, hle⟩
    · refine .inr ⟨haot.trans hshort, hne, hindex.trans hmiddle, fun hnone => ?_⟩
      rw [hch, hrest hnone]
      exact hlast

end AudioSpecificConfig

namespace AdtsHeader

/-- A header with the sync word and the length in place, which describes the configuration
exactly if that fits. -/
theorem dumpAacConfig_spec {config : List Byte} {asc : AudioSpecificConfig}
    (h : AudioSpecificConfig.read config = some asc) {length : Nat} (hlen : length ≤ 8184) :
    ∃ header, dumpAacConfig config length = .ok header ∧ header.length = 7 ∧
      header.getD 0 0 = 0xFF ∧ header.getD 1 0 &&& 0xF0 = 0xF0 ∧
      (header.getD 3 0).toNat % 4 * 2048 + (header.getD 4 0).toNat * 8 +
        (header.getD 5 0).toNat / 32 = 7 + length ∧
      (DescribesAac header asc length ↔ asc.FitsAdts) := by
  obtain ⟨cfg1, cfg2, rest, rfl, hfields⟩ := AudioSpecificConfig.read_plain h
  obtain ⟨hed, hparse⟩ : ∃ hed, parseAacConfig (cfg1 :: cfg2 :: rest) = .ok hed := ⟨_, rfl⟩
  set hed' := { hed with aacFrameLength := BitVec.ofNat 32 (adtsHeaderLen + length) } with hhed'
  obtain ⟨hsync, hid, hlayer, habsent⟩ := parse_fixed hparse
  have hfirst : hed'.dumpAdtsHeader.getD 0 0 = 0xFF := by
    simp [dumpAdtsHeader, hhed', hsync]
  have hsecond : hed'.dumpAdtsHeader.getD 1 0 = 0xF1 := by
    simp [dumpAdtsHeader, hhed', hsync, hid, hlayer, habsent]
  have hframe : (hed'.dumpAdtsHeader.getD 3 0).toNat % 4 * 2048 +
      (hed'.dumpAdtsHeader.getD 4 0).toNat * 8 + (hed'.dumpAdtsHeader.getD 5 0).toNat / 32 =
      7 + length := by
    rw [dump_length, hhed', BitVec.toNat_ofNat, adtsHeaderLen]
    omega
  have haot : hed.profile.toNat % 4 = _ := parse_profile hparse
  have hsfi : hed.sfIndex.toNat % 16 = _ := parse_sfIndex hparse
  have hch : hed.channelConfiguration.toNat % 8 = _ := parse_channels hparse
  have hprofile : (hed'.dumpAdtsHeader.getD 2 0).toNat / 64 = (cfg1.toNat / 8 + 3) % 4 :=
    (dump_profile _).trans haot
  have hindex : (hed'.dumpAdtsHeader.getD 2 0).toNat / 4 % 16 =
      cfg1.toNat % 8 * 2 + cfg2.toNat / 128 := (dump_sfIndex _).trans hsfi
  have hchannels : (hed'.dumpAdtsHeader.getD 2 0).toNat % 2 * 4 +
      (hed'.dumpAdtsHeader.getD 3 0).toNat / 64 = cfg2.toNat / 8 % 8 :=
    (dump_channels _).trans hch
  refine ⟨hed'.dumpAdtsHeader, by rw [dumpAacConfig, hparse]; rfl, rfl, hfirst,
    by rw [hsecond]; rfl, hframe, ?_⟩
  constructor
  · rintro ⟨-, -, -, hconfig, -⟩
    have haot := congrArg AudioSpecificConfig.audioObjectType hconfig
    have hfrequency := congrArg AudioSpecificConfig.samplingFrequency hconfig
    have hch := congrArg AudioSpecificConfig.channelConfiguration hconfig
    simp only [AudioSpecificConfig.ofAdts] at haot hfrequency hch
    exact ⟨by omega, by omega, hfrequency.symm, by omega⟩
  · rintro ⟨hpos, hle, hfrequency, hch⟩
    obtain ⟨-, hescape⟩ | ⟨haot, -, hsfi, hplain⟩ := hfields
    · omega
    · refine ⟨rfl, by rw [hfirst, hsecond]; rfl, by rw [hsecond]; rfl, ?_, hframe⟩
      have hch' := hplain hfrequency
      obtain ⟨aot, sfi, freq, ch⟩ := asc
      simp only [AudioSpecificConfig.ofAdts, AudioSpecificConfig.mk.injEq] at *
      exact ⟨by omega, by omega, hfrequency.symm, by omega⟩

end AdtsHeader

end WifiDisplay
