import Mathlib.Data.BitVec

/-! Words as sets of flags. -/

/-- The bit `1 << bit` of a word, set or cleared. -/
def setFlag {w : Nat} (ref : BitVec w) (bit : Nat) (ready : Bool) : BitVec w :=
  if ready then ref ||| BitVec.twoPow w bit else ref &&& ~~~BitVec.twoPow w bit

@[simp] theorem getLsbD_setFlag {w : Nat} (ref : BitVec w) (bit : Nat) (ready : Bool) (j : Nat) :
    (setFlag ref bit ready).getLsbD j =
      if j = bit ∧ bit < w then ready else ref.getLsbD j := by
  by_cases hw : j < w
  · by_cases hj : j = bit
    · subst hj
      cases ready <;> simp [setFlag, hw]
    · have hbit : (BitVec.twoPow w bit).getLsbD j = false := by
        simp [BitVec.getLsbD_twoPow, Ne.symm hj]
      cases ready
      · simp [setFlag, hw, hj]
      · simp [setFlag, hbit, hj]
  · rw [BitVec.getLsbD_of_ge _ _ (Nat.not_lt.mp hw), BitVec.getLsbD_of_ge _ _ (Nat.not_lt.mp hw),
      if_neg]
    rintro ⟨rfl, hbit⟩
    exact hw hbit

theorem and_neg_eq_twoPow {w : Nat} {x : BitVec w} (hx : x ≠ 0) :
    ∃ i < w, x.getLsbD i = true ∧ (∀ j < i, x.getLsbD j = false) ∧ x &&& -x = BitVec.twoPow w i := by
  have hex : ∃ i, x.getLsbD i = true := by
    by_contra hno
    apply hx
    apply BitVec.eq_of_getLsbD_eq
    intro i _
    have hi : ¬ x.getLsbD i = true := fun h => hno ⟨i, h⟩
    simpa using hi
  obtain ⟨i, hi, hleast⟩ : ∃ i, x.getLsbD i = true ∧ ∀ j < i, x.getLsbD j = false := by
    refine ⟨Nat.find hex, Nat.find_spec hex, fun j hj => ?_⟩
    simpa using Nat.find_min hex hj
  have hiw : i < w := BitVec.lt_of_getLsbD hi
  refine ⟨i, hiw, hi, hleast, ?_⟩
  apply BitVec.eq_of_getLsbD_eq
  intro j hj
  rw [BitVec.getLsbD_and, BitVec.getLsbD_neg, BitVec.getLsbD_twoPow]
  by_cases hji : j = i
  · subst hji
    have hnone : ¬ ∃ k < j, x.getLsbD k = true := by
      rintro ⟨k, hk, hxk⟩
      rw [hleast k hk] at hxk
      cases hxk
    simp [hi, hj, hnone]
  · by_cases hlt : j < i
    · simp [hleast j hlt, Ne.symm hji]
    · have hsome : ∃ k < j, x.getLsbD k = true := ⟨i, by omega, hi⟩
      simp [hsome, Ne.symm hji, hj]

theorem twoPow_and_pred {w i : Nat} (hi : i < w) :
    BitVec.twoPow w i &&& (BitVec.twoPow w i - 1) = 0 := by
  apply BitVec.eq_of_toNat_eq
  have hpos : 0 < 2 ^ i := Nat.two_pow_pos i
  have hlt : 2 ^ i < 2 ^ w := Nat.pow_lt_pow_right (by decide) hi
  have hone : (1 : BitVec w).toNat = 1 := by
    rw [show (1 : BitVec w) = BitVec.ofNat w 1 from rfl, BitVec.toNat_ofNat]
    exact Nat.mod_eq_of_lt (by omega)
  have hpred : (BitVec.twoPow w i - 1).toNat = 2 ^ i - 1 := by
    rw [BitVec.toNat_sub, BitVec.toNat_twoPow_of_lt hi, hone]
    have hsum : 2 ^ w - 1 + 2 ^ i = 2 ^ i - 1 + 2 ^ w := by omega
    rw [hsum, Nat.add_mod_right, Nat.mod_eq_of_lt (by omega)]
  rw [BitVec.toNat_and, hpred, BitVec.toNat_twoPow_of_lt hi, Nat.and_two_pow_sub_one_eq_mod]
  simp
