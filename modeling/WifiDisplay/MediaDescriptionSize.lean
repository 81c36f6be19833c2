import WifiDisplay.MediaDescriptionRbsp
import WifiDisplay.MediaDescriptionSyntax

/-! Which parameter sets `GetVideoSize` returns the size of. The first zero byte ends what `GetU`
can read, and the height is that of one field. -/

namespace WifiDisplay

namespace MediaDescription

open EmulationPrevention ReadProgram

section Bytes

variable {a b : Byte} {bytes buf nal : List Byte} {i n size first : Nat}

/-- No zero is removed, and nothing before the first one. -/
theorem findIdx?_compactFrom (hb : b ≠ 0) :
    (compactFrom a b bytes).findIdx? (· = 0) = bytes.findIdx? (· = 0) := by
  induction bytes generalizing a b with
  | nil => rfl
  | cons c bytes ih =>
    rw [compactFrom_keep fun h => hb h.2.1, List.findIdx?_cons, List.findIdx?_cons]
    by_cases hc : c = 0
    · simp [hc]
    · rw [ih hc]

theorem compactFrom_isPrefix (a b : Byte) (bytes behind : List Byte) :
    compactFrom a b bytes <+: compactFrom a b (bytes ++ behind) := by
  induction bytes generalizing a b with
  | nil => exact List.nil_prefix
  | cons c bytes ih =>
    rw [List.cons_append, compactFrom, compactFrom]
    split
    · exact ih c b
    · exact List.cons_prefix_cons.mpr ⟨rfl, ih b c⟩

theorem removeFrom_isPrefix (a b : Byte) (bytes behind : List Byte) :
    removeFrom a b bytes <+: removeFrom a b (bytes ++ behind) := by
  induction bytes generalizing a b with
  | nil => exact List.nil_prefix
  | cons c bytes ih =>
    rw [List.cons_append, removeFrom, removeFrom]
    split
    · exact ih b c
    · exact List.cons_prefix_cons.mpr ⟨rfl, ih b c⟩

theorem bitsOf_isPrefix (h : bytes <+: buf) : bitsOf bytes <+: bitsOf buf := by
  obtain ⟨behind, rfl⟩ := h
  rw [bitsOf, bitsOf, List.flatMap_append]
  exact List.prefix_append _ _

theorem extractLoop_of_no_zero (hzero : 0 ∉ buf) (hn : i + n ≤ buf.length) :
    extractLoop size n i (buf, first) = (buf, first) := by
  induction n generalizing i with
  | zero => rfl
  | succ n ih =>
    have hi : buf.getD i 0 ≠ 0 := by
      rw [List.getD_eq_getElem?_getD, List.getElem?_eq_getElem (by omega), Option.getD_some]
      exact fun h => hzero (h ▸ List.getElem_mem _)
    rw [extractLoop, if_neg fun h => hi h.1]
    exact ih (by omega)

theorem rbspOf_of_no_zero (hzero : 0 ∉ nal) (hlen : nal.length < 2 ^ 32) :
    (rbspOf nal).1 = nal := by
  rw [rbspOf, Nat.mod_eq_of_lt hlen, extractNaluRbsp]
  rw [extractLoop_of_no_zero hzero (by omega)]

theorem extractLoop_size_le (rbsp : List Byte × Nat) : (extractLoop size n i rbsp).2 ≤ rbsp.2 := by
  induction n generalizing i rbsp with
  | zero => exact le_rfl
  | succ n ih =>
    rw [extractLoop]
    split
    · exact (ih _).trans (Nat.sub_le _ _)
    · exact ih _

theorem rbspOf_size_le (nal : List Byte) : (rbspOf nal).2 ≤ nal.length :=
  (extractLoop_size_le _).trans (Nat.mod_le _ _)

theorem rbspOf_bytes (hlen : nal.length < 2 ^ 32) :
    (rbspOf nal).1.take (rbspOf nal).2 = compactFrom 0xFF 0xFF nal := by
  have hextracted := @extracted_eq nal nal.length le_rfl
  rw [List.take_length] at hextracted
  rw [rbspOf, Nat.mod_eq_of_lt hlen]
  exact hextracted

/-- The first zero byte stays where it is. -/
theorem rbspOf_zero (hlen : nal.length < 2 ^ 32) (hfirst : first ∈ nal.findIdx? (· = 0)) :
    first ∈ (rbspOf nal).1.findIdx? (· = 0) ∧ first < (rbspOf nal).2 := by
  have hff : (0xFF : Byte) ≠ 0 := by decide
  have hbytes := rbspOf_bytes hlen
  rw [← @findIdx?_compactFrom 0xFF 0xFF nal hff, ← hbytes] at hfirst
  have hlt := (List.findIdx?_eq_some_iff_findIdx_eq.mp hfirst).1
  rw [List.length_take] at hlt
  refine ⟨?_, by omega⟩
  rw [← List.take_append_drop (rbspOf nal).2 (rbspOf nal).1, List.findIdx?_append]
  rw [show List.findIdx? _ _ = some first from hfirst]
  rfl

/-- Before the first zero byte stand at most 14 zeros in a row. -/
theorem zeros_le {pos zeros : Nat} (hfirst : first ∈ buf.findIdx? (· = 0))
    (hrun : ∀ k < zeros, (bitsOf buf)[pos + k]? = some false) (hpos : pos + zeros ≤ 8 * first) :
    zeros ≤ 14 := by
  by_contra hmany
  obtain ⟨hlt, -, hbefore⟩ := List.findIdx?_eq_some_iff_getElem.mp hfirst
  have hj : (pos + 7) / 8 < first := by omega
  refine hbefore _ hj (decide_eq_true ?_)
  apply BitVec.eq_of_getLsbD_eq
  intro k hk
  have hbit := hrun ((pos + 7) / 8 * 8 + (7 - k) - pos) (by omega)
  rw [getElem?_bitsOf, show pos + ((pos + 7) / 8 * 8 + (7 - k) - pos) = (7 - k) + 8 * ((pos + 7) / 8) by omega,
    Nat.add_mul_div_left _ _ (by decide), Nat.add_mul_mod_self_left,
    Nat.div_eq_of_lt (by omega), Nat.mod_eq_of_lt (by omega), Nat.zero_add,
    List.getElem?_eq_getElem (by omega), Option.map_some, show 7 - (7 - k) = k by omega] at hbit
  rw [Option.some.inj hbit]
  simp

end Bytes

/-- The cursor stands before the last bits of the RBSP. -/
def At (rbsp : List Byte × Nat) (c : BitCursor) (bits : List Bool) : Prop :=
  Left rbsp c bits ∧ c.pos + bits.length = 8 * rbsp.2

section Reads

variable {rbsp : List Byte × Nat} {c : BitCursor} {call : SpsCall} {front rest : List Bool}
  {r : Int} {first : Nat} {α : Type}

theorem At.read (hat : At rbsp c (front ++ rest)) (hsize : rbsp.2 ≤ rbsp.1.length)
    (hnext : call.next (front ++ rest) = some (r, rest)) (hinside : Inside rbsp (call, c)) :
    ∃ c', read rbsp call c = .ok (r, c') ∧ At rbsp c' rest := by
  obtain ⟨v, rest', c', hnext', hread, hpos, -⟩ := (exact_iff_inside hsize _).mpr hinside
  have hsame : some (r, rest) = some (v, rest') := by
    rw [← hnext, ← hnext', hat.1]
  cases hsame
  have hsuffix : rest <:+ rbspBits rbsp := by
    have hdrop := List.drop_suffix c.pos (rbspBits rbsp)
    rw [← hat.1] at hdrop
    exact (List.suffix_append front rest).trans hdrop
  rw [length_rbspBits hsize] at hpos
  refine ⟨c', hread, ?_, hpos⟩
  rw [Left, List.suffix_iff_eq_drop.mp hsuffix, length_rbspBits hsize]
  congr 1
  omega

theorem front_of_next_u {bitCount : Fin 32}
    (hnext : ∀ rest, SpsCall.next (.u bitCount) (front ++ rest) = some (r, rest)) :
    front.length = bitCount := by
  obtain ⟨⟨v, rest⟩, hread, hrest⟩ := Option.map_eq_some_iff.mp (hnext [])
  cases hrest
  obtain ⟨hle, -, hdrop⟩ := readBits_some hread
  have hle' := List.drop_eq_nil_iff.mp hdrop.symm
  rw [List.append_nil] at hle hle'
  omega

theorem front_of_next_ue (hnext : ∀ rest, SpsCall.next .ue (front ++ rest) = some (r, rest))
    (rest : List Bool) : front.length = 2 * leadingZeros (front ++ rest) + 1 := by
  obtain ⟨⟨v, rest'⟩, hread, hrest⟩ := Option.map_eq_some_iff.mp (hnext [])
  cases hrest
  have hle := readUe_some hread
  rw [readUe_of_le hle] at hread
  have hdrop := congrArg Prod.snd (Option.some.inj hread)
  have hle' := List.drop_eq_nil_iff.mp hdrop
  rw [List.append_nil] at hle hle'
  have htake := leadingZeros_take (front ++ rest) front.length
  rw [List.take_left] at htake
  omega

theorem getElem?_of_lt_leadingZeros {bits : List Bool} {k : Nat} (hk : k < leadingZeros bits) :
    bits[k]? = some false := by
  induction bits generalizing k with
  | nil => exact absurd hk (Nat.not_lt_zero k)
  | cons one bits ih =>
    rw [leadingZeros_cons] at hk
    cases one with
    | true => exact absurd hk (Nat.not_lt_zero k)
    | false =>
      cases k with
      | zero => rfl
      | succ k => exact ih (Nat.lt_of_succ_lt_succ hk)

/-- Whatever ends before the first zero byte is read. -/
theorem At.inside (hat : At rbsp c (front ++ rest))
    (hfirst : first ∈ rbsp.1.findIdx? (· = 0)) (hlt : first < rbsp.2) (hsmall : 8 * rbsp.2 < 2 ^ 32)
    (hbefore : c.pos + front.length ≤ 8 * first)
    (hnext : ∀ rest, call.next (front ++ rest) = some (r, rest)) : Inside rbsp (call, c) := by
  cases call with
  | u bitCount =>
    have hfront := front_of_next_u hnext
    exact ⟨by omega, fun _ => ⟨first, hfirst, hlt, by omega, by omega⟩⟩
  | ue =>
    have hfront := front_of_next_ue hnext rest
    have hzeros : leadingZeros (front ++ rest) ≤ 14 := by
      refine @zeros_le rbsp.1 first c.pos _ hfirst (fun k hk => ?_) (by omega)
      have hbit := getElem?_of_lt_leadingZeros hk
      rw [hat.1, drop_rbspBits, List.getElem?_take, if_pos (by omega), List.getElem?_drop] at hbit
      exact hbit
    rw [hat.1] at hfront hzeros
    exact ⟨by omega, by omega, by omega, by omega⟩

theorem run_before {p q : SpsProgram α} {input : List Bool} (hp : Leads SpsCall.next p input q)
    (hat : At rbsp c (input ++ rest)) (hsize : rbsp.2 ≤ rbsp.1.length)
    (hfirst : first ∈ rbsp.1.findIdx? (· = 0)) (hlt : first < rbsp.2) (hsmall : 8 * rbsp.2 < 2 ^ 32)
    (hbefore : c.pos + input.length ≤ 8 * first) :
    ∃ c', p.run (read rbsp) c = q.run (read rbsp) c' ∧ At rbsp c' rest := by
  have hend := hat.2
  rw [List.length_append] at hend
  refine hp.run (fun call r front behind s hnext hs => ?_) hat
  have hs' := hs.2
  rw [List.length_append, List.length_append] at hs'
  exact hs.read hsize (hnext _) (hs.inside hfirst hlt hsmall (by omega) hnext)

theorem read_ue {v : Nat} (hat : At rbsp c (ueBits v ++ rest)) (hsize : rbsp.2 ≤ rbsp.1.length)
    (hsmall : 8 * rbsp.2 < 2 ^ 32) (hv : v + 1 < 2 ^ 31) :
    ∃ c', read rbsp .ue c = .ok ((v : Int), c') ∧ At rbsp c' rest := by
  have hzeros : leadingZeros (ueBits v ++ rest) ≤ 30 := by
    rw [leadingZeros_ueBits]
    exact Nat.le_of_lt_succ ((Nat.log2_lt (Nat.succ_ne_zero v)).mpr hv)
  have hpos := hat.2
  rw [List.length_append, length_ueBits, ← leadingZeros_ueBits v rest] at hpos
  refine hat.read hsize (next_ue v rest) ?_
  rw [hat.1] at hzeros hpos
  exact ⟨by omega, by omega, by omega, by omega⟩

end Reads

section Frame

variable {rbsp : List Byte × Nat} {c : BitCursor} {bits rest : List Bool} {flag : Bool}
  {first : Nat} {α : Type} {width height : Int}

/-- The cursor is behind the bytes that `GetU` can read, or it is before these bits. -/
def AtOrBehind (rbsp : List Byte × Nat) (first : Nat) (c : BitCursor) (bits : List Bool) : Prop :=
  At rbsp c bits ∨ 8 * first ≤ c.pos

local instance neZeroRegister : NeZero 32 := inferInstance

/-- `frame_cropping_flag` and what it announces. -/
def frameCropping (width height frameMbsOnlyFlag : Int) : SpsProgram (Int × Int) := do
  let frameCroppingFlag ← u 1
  if frameCroppingFlag ≠ 0 then
    let frameCropLeftOffset ← ue
    let frameCropRightOffset ← ue
    let frameCropTopOffset ← ue
    let frameCropBottomOffset ← ue
    let cropUnitX := 2
    let cropUnitY := 2 * (2 - frameMbsOnlyFlag)
    return (int32 (width - cropUnitX * (frameCropLeftOffset + frameCropRightOffset)),
      int32 (height - cropUnitY * (frameCropTopOffset + frameCropBottomOffset)))
  return (width, height)

def frameModes (width height : Int) : SpsProgram (Int × Int) := do
  let frameMbsOnlyFlag ← u 1
  if frameMbsOnlyFlag = 0 then
    discard (u 1)
  discard (u 1)
  frameCropping width height frameMbsOnlyFlag

theorem frameSize_eq : frameSize = (do
    discard ue
    discard (u 1)
    let picWidthMinMbsMinus1 ← ue
    let picHeightInMapUnitsMinus1 ← ue
    frameModes (int32 ((picWidthMinMbsMinus1 + 1) * 16))
      (int32 ((picHeightInMapUnitsMinus1 + 1) * 16))) := rfl

theorem run_u {bitCount : Fin 32} {f : Int → SpsProgram α} {r : Int} {c' : BitCursor}
    (hread : read rbsp (.u bitCount) c = .ok (r, c')) :
    (u bitCount >>= f).run (read rbsp) c = (f r).run (read rbsp) c' := by
  show (MediaDescription.read rbsp (.u bitCount) c >>= fun (r, s) => (f r).run (read rbsp) s) = _
  rw [hread]
  rfl

theorem run_discard_u {bitCount : Fin 32} {f : Unit → SpsProgram α} {r : Int} {c' : BitCursor}
    (hread : read rbsp (.u bitCount) c = .ok (r, c')) :
    (discard (u bitCount) >>= f).run (read rbsp) c = (f ()).run (read rbsp) c' :=
  @run_u _ _ _ _ (fun _ => f ()) _ _ hread

theorem run_ue {f : Int → SpsProgram α} {r : Int} {c' : BitCursor}
    (hread : read rbsp .ue c = .ok (r, c')) :
    (ue >>= f).run (read rbsp) c = (f r).run (read rbsp) c' := by
  show (MediaDescription.read rbsp .ue c >>= fun (r, s) => (f r).run (read rbsp) s) = _
  rw [hread]
  rfl

theorem read_flag_behind (hbehind : 8 * first ≤ c.pos) (hfirst : first ∈ rbsp.1.findIdx? (· = 0)) :
    ∃ c', read rbsp (.u 1) c = .ok (0, c') ∧ 8 * first ≤ c'.pos := by
  have hloop : getULoop rbsp.1 1 0 { c with reach := 0 } =
      .ok (0, { c with reach := max 0 (first + 1) }) := by
    rw [getULoop, strlen_eq_ok.mpr ⟨hfirst, rfl⟩]
    exact if_pos hbehind
  exact ⟨_, getU_eq_ok.mpr ⟨0, hloop, rfl⟩, hbehind⟩

theorem read_flag_before (hat : At rbsp c (flag :: rest)) (hsize : rbsp.2 ≤ rbsp.1.length)
    (hfirst : first ∈ rbsp.1.findIdx? (· = 0)) (hlt : first < rbsp.2) (hsmall : 8 * rbsp.2 < 2 ^ 32)
    (hbefore : c.pos < 8 * first) :
    ∃ c', read rbsp (.u 1) c = .ok ((flag.toNat : Int), c') ∧ At rbsp c' rest :=
  @At.read rbsp c (.u 1) [flag] rest _ hat hsize (next_flag flag rest)
    (@At.inside rbsp c (.u 1) [flag] rest _ first hat hfirst hlt hsmall hbefore (next_flag flag))

/-- A flag is read as it stands, or as zero where `GetU` cannot read it. -/
theorem read_flag (hat : AtOrBehind rbsp first c (flag :: rest)) (hsize : rbsp.2 ≤ rbsp.1.length)
    (hfirst : first ∈ rbsp.1.findIdx? (· = 0)) (hlt : first < rbsp.2) (hsmall : 8 * rbsp.2 < 2 ^ 32) :
    ∃ r c', read rbsp (.u 1) c = .ok (r, c') ∧ AtOrBehind rbsp first c' rest ∧
      (r = flag.toNat ∨ r = 0 ∧ 8 * first ≤ c'.pos) := by
  by_cases hbefore : c.pos < 8 * first
  · have hat := hat.resolve_right (Nat.not_le.mpr hbefore)
    obtain ⟨c', hread, hat'⟩ := read_flag_before hat hsize hfirst hlt hsmall hbefore
    exact ⟨_, c', hread, .inl hat', .inl rfl⟩
  · obtain ⟨c', hread, hbehind⟩ := read_flag_behind (Nat.not_lt.mp hbefore) hfirst
    exact ⟨0, c', hread, .inr hbehind, .inr ⟨rfl, hbehind⟩⟩

theorem frameCropping_late {frameMbsOnlyFlag : Int} (hat : AtOrBehind rbsp first c (flag :: rest))
    (hfirst : first ∈ rbsp.1.findIdx? (· = 0)) (hlate : 8 * first + rest.length < 8 * rbsp.2) :
    ∃ c', (frameCropping width height frameMbsOnlyFlag).run (read rbsp) c =
      .ok ((width, height), c') := by
  have hbehind : 8 * first ≤ c.pos := by
    rcases hat with hat | hbehind
    · have hpos := hat.2
      rw [List.length_cons] at hpos
      omega
    · exact hbehind
  obtain ⟨c', hread, -⟩ := read_flag_behind hbehind hfirst
  exact ⟨c', run_u hread⟩

/-- Without `frame_cropping_flag` the size is not cropped. -/
theorem frameModes_late (sps : SequenceParameterSet) (hat : At rbsp c (sps.modes ++ flag :: rest))
    (hsize : rbsp.2 ≤ rbsp.1.length) (hfirst : first ∈ rbsp.1.findIdx? (· = 0))
    (hlt : first < rbsp.2) (hsmall : 8 * rbsp.2 < 2 ^ 32)
    (hlate : 8 * first + rest.length < 8 * rbsp.2) :
    ∃ c', (frameModes width height).run (read rbsp) c = .ok ((width, height), c') := by
  have hdirect : ∀ {c} (frameMbsOnlyFlag : Int),
      AtOrBehind rbsp first c (sps.direct8x8Inference :: flag :: rest) →
      ∃ c', (discard (u 1) >>= fun _ => frameCropping width height frameMbsOnlyFlag).run
        (read rbsp) c = .ok ((width, height), c') := by
    intro c frameMbsOnlyFlag hat
    obtain ⟨r, c₁, hread, hat, -⟩ := read_flag hat hsize hfirst hlt hsmall
    rw [run_discard_u hread]
    exact frameCropping_late hat hfirst hlate
  have hfields : ∀ {c} (mbAdaptive : Bool),
      AtOrBehind rbsp first c (mbAdaptive :: sps.direct8x8Inference :: flag :: rest) →
      ∃ c', (discard (u 1) >>= fun _ => discard (u 1) >>= fun _ =>
        frameCropping width height 0).run (read rbsp) c = .ok ((width, height), c') := by
    intro c mbAdaptive hat
    obtain ⟨r, c₁, hread, hat, -⟩ := read_flag hat hsize hfirst hlt hsmall
    rw [run_discard_u hread]
    exact hdirect 0 hat
  rw [SequenceParameterSet.modes] at hat
  cases hfieldCoding : sps.mbAdaptiveFrameField with
  | none =>
    rw [hfieldCoding] at hat
    obtain ⟨r, c₁, hread, hat, rfl | ⟨rfl, hbehind⟩⟩ := read_flag (.inl hat) hsize hfirst hlt hsmall
    · rw [frameModes, run_u hread]
      exact hdirect 1 hat
    · rw [frameModes, run_u hread]
      exact hfields false (.inr hbehind)
  | some mbAdaptive =>
    rw [hfieldCoding] at hat
    obtain ⟨r, c₁, hread, hat, hr⟩ := read_flag (.inl hat) hsize hfirst hlt hsmall
    obtain rfl : r = 0 := hr.elim id And.left
    rw [frameModes, run_u hread]
    exact hfields mbAdaptive hat

/-- Before the first zero byte all modes are read. -/
theorem leads_modes (sps : SequenceParameterSet) :
    Leads SpsCall.next (frameModes width height) sps.modes
      (frameCropping width height (2 - sps.fields)) := by
  rw [SequenceParameterSet.modes, SequenceParameterSet.fields]
  cases sps.mbAdaptiveFrameField with
  | none => exact (leads_flag true).andThen ((leads_flag _).discard.bind _)
  | some mbAdaptive =>
    have hdirect := (leads_flag sps.direct8x8Inference).discard.bind fun _ =>
      frameCropping width height 0
    exact (leads_flag false).andThen ((leads_flag mbAdaptive).discard.andThen hdirect)

/-- The size that the decoder takes from the elements, which leaves out one field. -/
def decodedSize (sps : SequenceParameterSet) : Int × Int :=
  let cropping := sps.frameCropping.getD ⟨0, 0, 0, 0⟩
  (16 * (sps.picWidthInMbsMinus1 + 1) - 2 * (cropping.left + cropping.right),
    16 * (sps.picHeightInMapUnitsMinus1 + 1) - 2 * sps.fields * (cropping.top + cropping.bottom))

theorem frameCropping_read (sps : SequenceParameterSet)
    (hat : At rbsp c (announced Cropping.bits sps.frameCropping ++ rest))
    (hsize : rbsp.2 ≤ rbsp.1.length) (hfirst : first ∈ rbsp.1.findIdx? (· = 0))
    (hlt : first < rbsp.2) (hsmall : 8 * rbsp.2 < 2 ^ 32) (hbefore : c.pos < 8 * first)
    (hwidth : sps.macroblockSize.1 < 2 ^ 31) (hheight : sps.macroblockSize.2 < 2 ^ 31) :
    ∃ c', (frameCropping sps.macroblockSize.1 sps.macroblockSize.2 (2 - sps.fields)).run
      (read rbsp) c = .ok (decodedSize sps, c') := by
  have hfits := sps.frameCropping_fits
  have hfields : sps.fields = 1 ∨ sps.fields = 2 := by
    rw [SequenceParameterSet.fields]
    split
    · exact .inl rfl
    · exact .inr rfl
  rw [SequenceParameterSet.macroblockSize] at hwidth hheight ⊢
  cases hcropping : sps.frameCropping with
  | none =>
    rw [hcropping] at hat
    obtain ⟨c', hread, -⟩ := read_flag_before hat hsize hfirst hlt hsmall hbefore
    refine ⟨c', ?_⟩
    rw [frameCropping, run_u hread, decodedSize, hcropping]
    simp
    rfl
  | some cropping =>
    obtain ⟨hw, hh⟩ := hfits cropping hcropping
    rw [hcropping, announced, Cropping.bits, List.cons_append, List.append_assoc, List.append_assoc,
      List.append_assoc] at hat
    dsimp only at hwidth hheight ⊢
    obtain ⟨c₁, hread, hat⟩ := read_flag_before hat hsize hfirst hlt hsmall hbefore
    obtain ⟨c₂, hleft, hat⟩ := read_ue hat hsize hsmall (by omega)
    obtain ⟨c₃, hright, hat⟩ := read_ue hat hsize hsmall (by omega)
    obtain ⟨c₄, htop, hat⟩ := read_ue hat hsize hsmall (by omega)
    obtain ⟨c₅, hbottom, -⟩ := read_ue hat hsize hsmall (by omega)
    refine ⟨c₅, ?_⟩
    rw [frameCropping, run_u hread, if_pos (by decide), run_ue hleft, run_ue hright, run_ue htop,
      run_ue hbottom, decodedSize, hcropping]
    show Except.ok ((int32 _, int32 _), c₅) = _
    rcases hfields with hone | htwo
    · rw [hone, int32_of_bounds (by omega) (by omega), int32_of_bounds (by omega) (by omega)]
      rfl
    · rw [htwo, int32_of_bounds (by omega) (by omega), int32_of_bounds (by omega) (by omega)]
      rfl

theorem run_frameSize (sps : SequenceParameterSet)
    (hat : At rbsp c (sps.refs ++ (sps.sizes ++ rest)))
    (hsize : rbsp.2 ≤ rbsp.1.length) (hfirst : first ∈ rbsp.1.findIdx? (· = 0))
    (hlt : first < rbsp.2) (hsmall : 8 * rbsp.2 < 2 ^ 32)
    (hbefore : c.pos + sps.refs.length ≤ 8 * first)
    (hwidth : sps.macroblockSize.1 < 2 ^ 31) (hheight : sps.macroblockSize.2 < 2 ^ 31) :
    ∃ c', frameSize.run (read rbsp) c =
        (frameModes sps.macroblockSize.1 sps.macroblockSize.2).run (read rbsp) c' ∧
      At rbsp c' rest := by
  have hrefs : Leads SpsCall.next frameSize sps.refs (do
      let picWidthMinMbsMinus1 ← ue
      let picHeightInMapUnitsMinus1 ← ue
      frameModes (int32 ((picWidthMinMbsMinus1 + 1) * 16))
        (int32 ((picHeightInMapUnitsMinus1 + 1) * 16))) := by
    rw [frameSize_eq]
    exact (leads_ue _).discard.andThen ((leads_flag _).discard.bind _)
  obtain ⟨c₁, hrun, hat⟩ := run_before hrefs hat hsize hfirst hlt hsmall hbefore
  rw [SequenceParameterSet.macroblockSize] at hwidth hheight ⊢
  rw [SequenceParameterSet.sizes, List.append_assoc] at hat
  dsimp only at hwidth hheight ⊢
  obtain ⟨c₂, hread₂, hat⟩ := read_ue hat hsize hsmall (by omega)
  obtain ⟨c₃, hread₃, hat⟩ := read_ue hat hsize hsmall (by omega)
  refine ⟨c₃, ?_, hat⟩
  rw [hrun, run_ue hread₂, run_ue hread₃, int32_of_bounds (by omega) (by omega),
    int32_of_bounds (by omega) (by omega), Int.mul_comm, Int.mul_comm _ 16]

end Frame

section Whole

variable {sps : SequenceParameterSet} {nal : List Byte}

/-- The decoder reads the elements of the parameter set if no removed byte is missing in them. -/
theorem at_start (hnal : sps.Encodes nal) (hlen : nal.length < 2 ^ 32)
    (hclear : ∃ n, ¬ clash <:+: nal.take n ∧ sps.croppingEnd ≤ 8 * (remove (nal.take n)).length) :
    ∃ (nalRefIdc : Fin 4) (rest : List Bool), At (rbspOf nal) {}
      (natBits 1 0 ++ (natBits 2 nalRefIdc ++ (natBits 5 7 ++ sps.head)) ++ (sps.refs ++ (sps.sizes ++
        (sps.modes ++ (announced Cropping.bits sps.frameCropping ++ rest))))) := by
  obtain ⟨nalRefIdc, rbsp, padding, hbits, rfl⟩ := hnal
  obtain ⟨n, hclash, hend⟩ := hclear
  have hff : (0xFF : Byte) ≠ 0 := by decide
  generalize hnal : insert rbsp = nal at *
  have hremoved : remove nal = rbsp := hnal ▸ remove_insert rbsp
  have hsame : compactFrom 0xFF 0xFF (nal.take n) = remove (nal.take n) := by
    rw [remove, compactFrom_eq_iff, clash_infix_cons, or_iff_right fun h => hff h.1, clash_infix_cons,
      or_iff_right fun h => hff h.1]
    exact hclash
  have hreal : bitsOf (remove (nal.take n)) <+: bitsOf rbsp := by
    rw [← hremoved]
    have hle := removeFrom_isPrefix 0xFF 0xFF (nal.take n) (nal.drop n)
    rw [List.take_append_drop] at hle
    exact bitsOf_isPrefix hle
  have hcompact : bitsOf (remove (nal.take n)) <+: rbspBits (rbspOf nal) := by
    rw [rbspBits, rbspOf_bytes hlen, ← hsame]
    have hle := compactFrom_isPrefix 0xFF 0xFF (nal.take n) (nal.drop n)
    rw [List.take_append_drop] at hle
    exact bitsOf_isPrefix hle
  have hfront : natBits 1 0 ++ (natBits 2 nalRefIdc ++ (natBits 5 7 ++ sps.head)) ++ (sps.refs ++
      (sps.sizes ++ (sps.modes ++ announced Cropping.bits sps.frameCropping))) <+: bitsOf rbsp := by
    rw [hbits, SequenceParameterSet.bits]
    refine ⟨announced id sps.vuiParameters ++ true :: List.replicate padding false, ?_⟩
    simp only [List.append_assoc]
  have hshort := List.prefix_of_prefix_length_le hfront hreal (by
    rw [length_bitsOf]
    simp only [List.length_append, length_natBits]
    rw [SequenceParameterSet.croppingEnd, SequenceParameterSet.gapsEnd] at hend
    omega)
  obtain ⟨rest, hrest⟩ := hshort.trans hcompact
  simp only [List.append_assoc] at hrest ⊢
  refine ⟨nalRefIdc, rest, ?_, ?_⟩
  · rw [hrest]
    rfl
  · rw [hrest, length_rbspBits rbspOf_size]
    exact Nat.zero_add _

theorem getVideoSize_of_no_zero (hten : 10 ≤ nal.length) (hlen : nal.length < 2 ^ 32)
    (hzero : nal.findIdx? (· = 0) = none) : getVideoSize nal = .error .outOfBounds := by
  have hmem : 0 ∉ nal := fun h => absurd (List.findIdx?_eq_none_iff.mp hzero 0 h) (by decide)
  have hlength : strlen (rbspOf nal).1 { pos := 0, reach := 0 } = .error .outOfBounds := by
    rw [rbspOf_of_no_zero hmem hlen, strlen, hzero]
  have hread : read (rbspOf nal) (.u 1) {} = .error .outOfBounds := by
    rw [MediaDescription.read, getU]
    show (getULoop (rbspOf nal).1 1 0 { pos := 0, reach := 0 } >>= _) = _
    rw [getULoop, hlength]
    rfl
  have hrun : decodeSps.run (read (rbspOf nal)) {} = .error .outOfBounds := by
    show (MediaDescription.read (rbspOf nal) (.u 1) {} >>= _) = _
    rw [hread]
    rfl
  rw [getVideoSize, if_neg (by omega), hrun]
  rfl

/-- What the code returns if `GetU` can read the elements up to
`gaps_in_frame_num_value_allowed_flag`. -/
theorem getVideoSize_eq {first : Nat} (hnal : sps.Encodes nal) (hten : 10 ≤ nal.length)
    (hlen : nal.length < 2 ^ 29) (hfirst : first ∈ nal.findIdx? (· = 0))
    (hgaps : sps.gapsEnd ≤ 8 * first)
    (hclear : ∃ n, ¬ clash <:+: nal.take n ∧ sps.croppingEnd ≤ 8 * (remove (nal.take n)).length)
    (hwidth : sps.macroblockSize.1 < 2 ^ 31) (hheight : sps.macroblockSize.2 < 2 ^ 31) :
    getVideoSize nal = .ok (if sps.picOrderCnt.emptyCycle then (0, 0)
      else if sps.croppingFlagEnd ≤ 8 * first then decodedSize sps else sps.macroblockSize) := by
  obtain ⟨nalRefIdc, rest, hat⟩ := at_start hnal (by omega) hclear
  obtain ⟨hzero, hlt⟩ := rbspOf_zero (by omega) hfirst
  have hsize : (rbspOf nal).2 ≤ (rbspOf nal).1.length := rbspOf_size
  have hsmall : 8 * (rbspOf nal).2 < 2 ^ 32 := by
    have hle := rbspOf_size_le nal
    omega
  rw [SequenceParameterSet.gapsEnd] at hgaps
  have hhead : (natBits 1 0 ++ (natBits 2 nalRefIdc ++ (natBits 5 7 ++ sps.head))).length =
      8 + sps.head.length := by
    simp only [List.length_append, length_natBits]
    omega
  obtain ⟨c₁, hrun, hat₁⟩ := run_before (leads_head sps nalRefIdc) hat hsize hzero hlt hsmall (by
    rw [hhead]
    dsimp only
    omega)
  rw [getVideoSize, if_neg (by omega), hrun]
  cases hempty : sps.picOrderCnt.emptyCycle with
  | true => rfl
  | false =>
    have hpos₁ : c₁.pos = 8 + sps.head.length := by
      have hstart := hat.2
      have hpos := hat₁.2
      rw [List.length_append, hhead] at hstart
      dsimp only at hstart
      omega
    obtain ⟨c₂, hrun₂, hat₂⟩ := run_frameSize sps hat₁ hsize hzero hlt hsmall (by omega) hwidth hheight
    have hpos₂ : c₂.pos = 8 + sps.head.length + sps.refs.length + sps.sizes.length := by
      have hpos := hat₁.2
      have hpos' := hat₂.2
      simp only [List.length_append] at hpos hpos'
      omega
    rw [if_neg (by decide), hrun₂, if_neg (by decide)]
    rw [SequenceParameterSet.croppingFlagEnd, SequenceParameterSet.gapsEnd]
    by_cases hcropping : 8 + sps.head.length + sps.refs.length + sps.sizes.length + sps.modes.length + 1 ≤
        8 * first
    · obtain ⟨c₃, hrun₃, hat₃⟩ := run_before (leads_modes sps) hat₂ hsize hzero hlt hsmall (by omega)
      have hpos := hat₂.2
      have hpos' := hat₃.2
      rw [List.length_append] at hpos
      obtain ⟨c₄, hrun₄⟩ := frameCropping_read sps hat₃ hsize hzero hlt hsmall (by omega) hwidth hheight
      rw [if_pos hcropping, hrun₃, hrun₄]
      rfl
    · have hannounced : ∃ flag behind, announced Cropping.bits sps.frameCropping = flag :: behind := by
        cases sps.frameCropping with
        | none => exact ⟨_, _, rfl⟩
        | some cropping => exact ⟨_, _, rfl⟩
      obtain ⟨flag, behind, hannounced⟩ := hannounced
      rw [hannounced, List.cons_append] at hat₂
      have hpos := hat₂.2
      rw [List.length_append, List.length_cons] at hpos
      obtain ⟨c₃, hrun₃⟩ := @frameModes_late _ _ _ _ _ sps.macroblockSize.1 sps.macroblockSize.2 sps hat₂
        hsize hzero hlt hsmall (by omega)
      rw [if_neg hcropping, hrun₃]
      rfl

theorem decodedSize_eq_iff : decodedSize sps = sps.size ↔ sps.mbAdaptiveFrameField = none := by
  rw [decodedSize, SequenceParameterSet.size, SequenceParameterSet.fields]
  cases sps.mbAdaptiveFrameField with
  | none => simp
  | some mbAdaptive =>
    simp
    omega

/-- If `GetU` can read the elements before the size, `GetVideoSize` returns the size of frames whose
cropping it can read too, and a size that the cropping does not change. -/
theorem getVideoSize_eq_size_iff (hnal : sps.Encodes nal) (hlen : nal.length < 2 ^ 29)
    (hgaps : ∀ first ∈ nal.findIdx? (· = 0), sps.gapsEnd ≤ 8 * first)
    (hclear : ∃ n, ¬ clash <:+: nal.take n ∧ sps.croppingEnd ≤ 8 * (remove (nal.take n)).length)
    (hwidth : sps.macroblockSize.1 < 2 ^ 31) (hheight : sps.macroblockSize.2 < 2 ^ 31) :
    getVideoSize nal = .ok sps.size ↔ 10 ≤ nal.length ∧ sps.picOrderCnt.emptyCycle = false ∧
      ∃ first ∈ nal.findIdx? (· = 0),
        if sps.croppingFlagEnd ≤ 8 * first then sps.mbAdaptiveFrameField = none
        else sps.size = sps.macroblockSize := by
  have hnonzero : Except.ok (0, 0) ≠ (Except.ok sps.size : Except SpsFault (Int × Int)) := by
    intro h
    have hpos := sps.size_pos
    rw [← Except.ok.inj h] at hpos
    exact absurd hpos (by decide)
  by_cases hten : nal.length < 10
  · rw [getVideoSize, if_pos hten]
    exact iff_of_false hnonzero fun h => by omega
  cases hzero : nal.findIdx? (· = 0) with
  | none =>
    rw [getVideoSize_of_no_zero (by omega) (by omega) hzero]
    exact iff_of_false (by rintro ⟨⟩) (by simp)
  | some first =>
    rw [getVideoSize_eq hnal (by omega) hlen hzero (hgaps first hzero) hclear hwidth hheight]
    cases hempty : sps.picOrderCnt.emptyCycle with
    | true => exact iff_of_false hnonzero (by simp)
    | false =>
      have hten' : 10 ≤ nal.length := by omega
      simp only [hten', true_and, Option.mem_some_iff, exists_eq_left', Bool.false_eq_true, if_false]
      split
      · rw [Except.ok.injEq, decodedSize_eq_iff]
      · rw [Except.ok.injEq, eq_comm]

/-- A parameter set of 352 by 288. -/
def cif (constraintSetFlags : Fin 6 → Bool) (vuiParameters : List Bool) : SequenceParameterSet where
  profileIdc := 66
  constraintSetFlags := constraintSetFlags
  levelIdc := 30
  seqParameterSetId := 0
  chromaFormat := none
  log2MaxFrameNumMinus4 := 0
  picOrderCnt := .outputOrder
  maxNumRefFrames := 1
  gapsInFrameNumValueAllowed := false
  picWidthInMbsMinus1 := 21
  picHeightInMapUnitsMinus1 := 17
  mbAdaptiveFrameField := none
  direct8x8Inference := true
  frameCropping := none
  vuiParameters := some vuiParameters
  chromaFormat_isSome := by decide
  frameCropping_fits := nofun

/-- Profile 66 and level 30 with all the constraint flags zero, a zero byte between them. -/
theorem baselineSps_wrong_size :
    ¬ ∀ (sps : SequenceParameterSet) (nal : List Byte), sps.Encodes nal →
      getVideoSize nal = .ok sps.size := by
  intro hall
  have hnal : (cif (fun _ => false) (false :: bitsOf [0x01, 0xE2, 0xC5] ++
      [true, true, false, true, false])).Encodes baselineSps :=
    ⟨3, baselineSps, 2, by decide +kernel, by decide +kernel⟩
  have hsize : getVideoSize baselineSps = .ok (48, 32) := by decide +kernel
  have hright := hall _ _ hnal
  rw [hsize] at hright
  exact absurd (congrArg Prod.fst (Except.ok.inj hright)) (by decide +kernel)

/-- The same with `constraint_set0_flag` and `constraint_set1_flag`, and with a zero byte later. -/
def constrainedSps : List Byte :=
  [0x67, 0x42, 0xC0, 0x1E, 0xDA, 0x05, 0x82, 0x5A, 0x01, 0x00, 0xC5, 0xD4]

theorem getVideoSize_eq_size_constrained : getVideoSize constrainedSps = .ok (352, 288) := by
  have hnal : (cif (fun i => i < 2) (false :: bitsOf [0x01, 0x00, 0xC5] ++
      [true, true, false, true, false])).Encodes constrainedSps :=
    ⟨3, constrainedSps, 2, by decide +kernel, by decide +kernel⟩
  refine (getVideoSize_eq_size_iff hnal (by decide) ?_ ⟨12, by decide +kernel, by decide +kernel⟩
    (by decide +kernel) (by decide +kernel)).mpr ⟨by decide, rfl, 9, by decide +kernel, ?_⟩
  · intro first hfirst
    have hnine : constrainedSps.findIdx? (· = 0) = some 9 := by decide +kernel
    obtain rfl := Option.mem_unique hnine hfirst
    decide +kernel
  · rw [if_pos (by decide +kernel)]
    rfl

end Whole

end MediaDescription

end WifiDisplay
