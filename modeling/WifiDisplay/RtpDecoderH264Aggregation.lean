import WifiDisplay.RtpDecoderH264Losses

/-! `UnpackStapA` on arbitrary bytes: the units in front of the first one that is not whole, and
what becomes of the rest. -/

namespace WifiDisplay

namespace RtpDecoderH264

variable {d : RtpDecoderH264} {ptr rest : List Byte} {nals : List (List Byte)} {stamp : BitVec 32}

/-- The bytes are units, each behind its length, and a rest that does not begin with a unit. -/
structure Splits (ptr : List Byte) (nals : List (List Byte)) (rest : List Byte) : Prop where
  units : ∀ nal ∈ nals, nal ≠ [] ∧ nal.length < 2 ^ 16
  bytes : ptr = stapBytes nals ++ rest
  left : ∀ nal tail, nal ≠ [] → nal.length < 2 ^ 16 → rest ≠ stapBytes [nal] ++ tail

/-- The units, one after the other, through `UnpackSingle`. -/
def unpackUnits (d : RtpDecoderH264) (stamp : BitVec 32) : List (List Byte) → Unpacked
  | [] => (d, [], false)
  | nal :: nals =>
    let (d, out, key) := d.unpackSingle nal stamp
    let (d', out', key') := unpackUnits d stamp nals
    (d', out ++ out', key || key')

/-- A payload that is a list of units gives these units, and one that is not gives the units ahead
of the failure, which closes the gate. -/
structure UnpacksRight (d : RtpDecoderH264) (ptr : List Byte) (stamp : BitVec 32) : Prop where
  wellFormed : ∀ nals, Splits ptr nals [] → d.unpackStapA ptr stamp = .ok (d.unpackUnits stamp nals)
  overruns : ∀ nals rest, Splits ptr nals rest → rest ≠ [] → ∃ d' out key,
    d.unpackStapA ptr stamp = .ok (d', out, key) ∧ out = (d.unpackUnits stamp nals).2.1 ∧
      d'.gopDropped = true

/-- Where the bytes stop being a list of units. -/
def splitStapA (ptr : List Byte) : List (List Byte) × List Byte :=
  match ptr with
  | hi :: lo :: rest =>
    if (hi ++ lo).toNat = 0 ∨ rest.length < (hi ++ lo).toNat then ([], hi :: lo :: rest)
    else
      (rest.take (hi ++ lo).toNat :: (splitStapA (rest.drop (hi ++ lo).toNat)).1,
        (splitStapA (rest.drop (hi ++ lo).toNat)).2)
  | ptr => ([], ptr)
termination_by ptr.length
decreasing_by
  rw [List.length_drop]
  exact Nat.lt_add_right 1 (Nat.lt_succ_of_le (Nat.sub_le _ _))

/-- The length in front is zero, or it reaches more than two bytes past the end. -/
def Refused : List Byte → Prop
  | hi :: lo :: rest =>
    rest ≠ [] ∧ ((hi ++ lo).toNat = 0 ∨ rest.length + 2 < (hi ++ lo).toNat)
  | _ => False

instance : DecidablePred Refused
  | [] => inferInstanceAs (Decidable False)
  | [_] => inferInstanceAs (Decidable False)
  | hi :: lo :: rest => inferInstanceAs (Decidable (rest ≠ [] ∧
      ((hi ++ lo).toNat = 0 ∨ rest.length + 2 < (hi ++ lo).toNat)))

/-- Nothing is left, or the loop refuses what is left, or it is too short for the loop and the gate
is closed anyway. -/
def FailureSeen (d : RtpDecoderH264) (ptr : List Byte) : Prop :=
  (splitStapA ptr).2 = [] ∨ Refused (splitStapA ptr).2 ∨ (splitStapA ptr).2.length ≤ 2 ∧
    closedAfter isKeyUnit d.gopDropped ((splitStapA ptr).1.map (startCode ++ ·)) = true

theorem octets16_pair (hi lo : Byte) : RtpMaker.octets16 (hi ++ lo) = [hi, lo] := by
  have hhi : BitVec.extractLsb' 8 8 (hi ++ lo) = hi := by
    apply BitVec.eq_of_getLsbD_eq
    intro i hlt
    rw [BitVec.getLsbD_extractLsb', BitVec.getLsbD_append]
    simp [hlt]
  have hlo : BitVec.extractLsb' 0 8 (hi ++ lo) = lo := by
    apply BitVec.eq_of_getLsbD_eq
    intro i hlt
    rw [BitVec.getLsbD_extractLsb', BitVec.getLsbD_append]
    simp [hlt]
  exact congrArg₂ (fun a b => [a, b]) hhi hlo

theorem stapBytes_single {nal tail : List Byte} : stapBytes [nal] ++ tail =
    (BitVec.ofNat 16 nal.length).extractLsb' 8 8 ::
      (BitVec.ofNat 16 nal.length).extractLsb' 0 8 :: (nal ++ tail) := by
  rw [stapBytes_cons]
  simp [stapBytes]

theorem stapBytes_cons_append (nal : List Byte) (nals : List (List Byte)) (rest : List Byte) :
    stapBytes (nal :: nals) ++ rest = stapBytes [nal] ++ (stapBytes nals ++ rest) := by
  simp [stapBytes]

/-- A length that fits begins a unit. -/
theorem stapBytes_take {hi lo : Byte} (hlen : (hi ++ lo).toNat ≤ rest.length) :
    hi :: lo :: rest = stapBytes [rest.take (hi ++ lo).toNat] ++ rest.drop (hi ++ lo).toNat := by
  have hofNat : BitVec.ofNat 16 (rest.take (hi ++ lo).toNat).length = hi ++ lo := by
    rw [List.length_take, Nat.min_eq_left hlen]
    exact BitVec.eq_of_toNat_eq (Nat.mod_eq_of_lt (hi ++ lo).isLt)
  rw [stapBytes, List.flatMap_singleton, hofNat, octets16_pair, List.append_assoc, List.take_append_drop]
  rfl

theorem splits_splitStapA (ptr : List Byte) : Splits ptr (splitStapA ptr).1 (splitStapA ptr).2 := by
  fun_induction splitStapA ptr with
  | case1 hi lo rest hlen =>
    refine ⟨List.forall_mem_nil _, rfl, fun nal tail hne hlt heq => ?_⟩
    rw [stapBytes_single] at heq
    obtain ⟨rfl, rfl, rfl⟩ := by simpa using heq
    have hpos := List.length_pos_iff.mpr hne
    rw [stap_length hlt, List.length_append] at hlen
    omega
  | case2 hi lo rest hlen ih =>
    rw [not_or, Nat.not_lt] at hlen
    refine ⟨?_, ?_, ih.left⟩
    · refine List.forall_mem_cons.mpr ⟨⟨?_, ?_⟩, ih.units⟩
      · rw [← List.length_pos_iff, List.length_take]
        omega
      · rw [List.length_take]
        have := (hi ++ lo).isLt
        omega
    · rw [stapBytes_cons_append, ← ih.bytes]
      exact stapBytes_take hlen.2
  | case3 ptr hptr =>
    refine ⟨List.forall_mem_nil _, rfl, fun nal tail hne hlt heq => ?_⟩
    rw [stapBytes_single] at heq
    exact hptr _ _ _ heq

/-- The bytes split in one way only. -/
theorem Splits.unique (h : Splits ptr nals rest) : splitStapA ptr = (nals, rest) := by
  obtain ⟨hunits, rfl, hleft⟩ := h
  induction nals with
  | nil =>
    show splitStapA rest = ([], rest)
    match rest with
    | [] => simp [splitStapA]
    | [_] => simp [splitStapA]
    | hi :: lo :: body =>
      rw [splitStapA, if_pos]
      by_contra hlen
      rw [not_or, Nat.not_lt] at hlen
      refine hleft (body.take (hi ++ lo).toNat) (body.drop (hi ++ lo).toNat) ?_ ?_ (stapBytes_take hlen.2)
      · rw [← List.length_pos_iff, List.length_take]
        omega
      · rw [List.length_take]
        have := (hi ++ lo).isLt
        omega
  | cons nal nals ih =>
    obtain ⟨⟨hne, hlt⟩, hunits⟩ := List.forall_mem_cons.mp hunits
    have hpos := List.length_pos_iff.mpr hne
    rw [stapBytes_cons_append, stapBytes_single, splitStapA, stap_length hlt, if_neg, List.take_left,
      List.drop_left, ih hunits]
    rw [List.length_append]
    omega

/-! What the loop does with a unit, and with the rest. -/

theorem unpackStapA_unit {nal tail : List Byte} (hne : nal ≠ []) (hlt : nal.length < 2 ^ 16) :
    d.unpackStapA (stapBytes [nal] ++ tail) stamp = (do
      let (d, out, key) := d.unpackSingle nal stamp
      let (d', out', key') ← d.unpackStapA tail stamp
      return (d', out ++ out', key || key')) := by
  have hpos := List.length_pos_iff.mpr hne
  have hfits : ¬ (nal.length = 0 ∨ nal.length > (nal ++ tail).length + 2) := by
    rw [List.length_append]
    omega
  have hin : ¬ nal.length > (nal ++ tail).length := by
    rw [List.length_append]
    omega
  rw [stapBytes_single, unpackStapA, if_neg (by simp [hne])]
  simp only [stap_length hlt]
  rw [if_neg hfits, if_neg hin, List.take_left, List.drop_left]

theorem unpackStapA_units (hunits : ∀ nal ∈ nals, nal ≠ [] ∧ nal.length < 2 ^ 16) :
    d.unpackStapA (stapBytes nals ++ rest) stamp = (do
      let (d, out, key) := d.unpackUnits stamp nals
      let (d', out', key') ← d.unpackStapA rest stamp
      return (d', out ++ out', key || key')) := by
  induction nals generalizing d with
  | nil =>
    rw [show stapBytes [] ++ rest = rest from rfl]
    cases hrest : d.unpackStapA rest stamp <;> simp [unpackUnits, hrest, bind, Except.bind, pure, Except.pure]
  | cons nal nals ih =>
    obtain ⟨⟨hne, hlt⟩, hunits⟩ := List.forall_mem_cons.mp hunits
    rw [stapBytes_cons_append, unpackStapA_unit hne hlt]
    rcases hsingle : d.unpackSingle nal stamp with ⟨d₁, out₁, key₁⟩
    simp only [unpackUnits, hsingle, ih hunits]
    rcases hrest : d₁.unpackUnits stamp nals with ⟨d₂, out₂, key₂⟩
    cases d₂.unpackStapA rest stamp <;>
      simp [bind, Except.bind, pure, Except.pure, Bool.or_assoc]

/-- The rest ends the loop: it stands too short, it is refused, or its unit is read past the end. -/
theorem unpackStapA_rest (hrest : Splits rest [] rest) :
    rest.length ≤ 2 ∧ d.unpackStapA rest stamp = .ok (d, [], false) ∨
      Refused rest ∧ d.unpackStapA rest stamp = .ok ({ d with gopDropped := true }, [], false) ∨
      (2 < rest.length ∧ ¬ Refused rest) ∧ d.unpackStapA rest stamp = .error .outOfBounds := by
  have hsplit := hrest.unique
  match rest with
  | [] => exact Or.inl ⟨by simp, by simp [unpackStapA]⟩
  | [_] => exact Or.inl ⟨by simp, by simp [unpackStapA]⟩
  | [_, _] => exact Or.inl ⟨by simp, by simp [unpackStapA]⟩
  | hi :: lo :: first :: body =>
    rw [splitStapA] at hsplit
    have hlen : (hi ++ lo).toNat = 0 ∨ (first :: body).length < (hi ++ lo).toNat := by
      by_contra hlen
      rw [if_neg hlen] at hsplit
      cases hsplit
    rw [unpackStapA, if_neg (List.cons_ne_nil _ _)]
    by_cases hrefused : (hi ++ lo).toNat = 0 ∨ (first :: body).length + 2 < (hi ++ lo).toNat
    · exact Or.inr (Or.inl ⟨⟨List.cons_ne_nil _ _, hrefused⟩, if_pos hrefused⟩)
    · refine Or.inr (Or.inr ⟨⟨by simp, fun h => hrefused h.2⟩, ?_⟩)
      have hover : (hi ++ lo).toNat > (first :: body).length := by omega
      simp only [hrefused, if_false, hover, if_true]

theorem unpackUnits_gopDropped (hd : d.frame.prefixSize = 4) (nals : List (List Byte)) :
    (d.unpackUnits stamp nals).1.gopDropped =
      closedAfter isKeyUnit d.gopDropped (nals.map (startCode ++ ·)) := by
  induction nals generalizing d with
  | nil => simp [unpackUnits]
  | cons nal nals ih =>
    have hfirst := unpackSingle_putsOut hd nal stamp
    rw [List.map_cons, closedAfter_cons, ← Bool.false_or (closedAfter isKeyUnit d.gopDropped _),
      ← hfirst.gopDropped, ← ih hfirst.prefixSize]
    rfl

/-- The bytes split in one way, so only that way counts. -/
theorem Splits.right_iff (h : Splits ptr nals rest) : UnpacksRight d ptr stamp ↔
    (rest = [] → d.unpackStapA ptr stamp = .ok (d.unpackUnits stamp nals)) ∧
      (rest ≠ [] → ∃ d' key, d.unpackStapA ptr stamp = .ok (d', (d.unpackUnits stamp nals).2.1, key) ∧
        d'.gopDropped = true) := by
  constructor
  · intro hright
    constructor
    · rintro rfl
      exact hright.wellFormed nals h
    · intro hne
      obtain ⟨d', out, key, hok, rfl, hgop⟩ := hright.overruns nals rest h hne
      exact ⟨d', key, hok, hgop⟩
  · rintro ⟨hwell, hover⟩
    constructor
    · intro nals' h'
      obtain ⟨rfl, rfl⟩ := Prod.mk.inj (h'.unique.symm.trans h.unique)
      exact hwell rfl
    · intro nals' rest' h' hne
      obtain ⟨rfl, rfl⟩ := Prod.mk.inj (h'.unique.symm.trans h.unique)
      obtain ⟨d', key, hok, hgop⟩ := hover hne
      exact ⟨d', _, key, hok, rfl, hgop⟩

end RtpDecoderH264

end WifiDisplay
