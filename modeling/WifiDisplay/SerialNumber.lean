import Mathlib.Data.List.Chain
import Mathlib.Data.BitVec

/-! Serial numbers: `w`-bit counters that wrap around. A number follows another
one when it lies less than half the circle ahead of it. -/

namespace SerialNumber

variable {w : Nat}

/-- How far `x` lies ahead of `o` on the circle. -/
def ahead (o x : BitVec w) : Nat := (x - o).toNat

def Follows (x o : BitVec w) : Prop := 0 < ahead o x ∧ ahead o x < 2 ^ (w - 1)

/-- From `a` to `b` the count neither stands still nor goes back. -/
def Advances (a b : BitVec w) : Prop := a ≠ b ∧ ¬ Follows a b

/-- Each number advances the one before it. -/
def Advancing (l : List (BitVec w)) : Prop := l.IsChain Advances

/-- Every number lies in the half circle that starts at `o`. -/
def Window (o : BitVec w) (l : List (BitVec w)) : Prop := ∀ x ∈ l, ahead o x < 2 ^ (w - 1)

/-- The numbers are the low bits of a growing count, and no step of the count is
longer than half the circle. -/
def Unwinds (counts : List Nat) (l : List (BitVec w)) : Prop :=
  counts.map (BitVec.ofNat w) = l ∧ counts.IsChain fun a b => a < b ∧ b ≤ a + 2 ^ (w - 1)

theorem ahead_lt (o x : BitVec w) : ahead o x < 2 ^ w := (x - o).isLt

theorem ahead_eq (o x : BitVec w) : ahead o x = (2 ^ w - o.toNat + x.toNat) % 2 ^ w := by
  rw [ahead, BitVec.toNat_sub]

theorem ahead_of_le {o x : BitVec w} (h : o.toNat ≤ x.toNat) : ahead o x = x.toNat - o.toNat := by
  have ho := o.isLt
  have hx := x.isLt
  rw [ahead_eq, show 2 ^ w - o.toNat + x.toNat = x.toNat - o.toNat + 2 ^ w by omega,
    Nat.add_mod_right, Nat.mod_eq_of_lt (by omega)]

theorem ahead_of_lt {o x : BitVec w} (h : x.toNat < o.toNat) :
    ahead o x = 2 ^ w + x.toNat - o.toNat := by
  have ho := o.isLt
  rw [ahead_eq, Nat.mod_eq_of_lt (by omega)]
  omega

@[simp] theorem ahead_self (o : BitVec w) : ahead o o = 0 := by
  rw [ahead_of_le (Nat.le_refl _), Nat.sub_self]

theorem ahead_eq_zero {o x : BitVec w} : ahead o x = 0 ↔ x = o := by
  constructor
  · intro h
    rcases Nat.lt_or_ge x.toNat o.toNat with hlt | hge
    · have ho := o.isLt
      rw [ahead_of_lt hlt] at h
      omega
    · rw [ahead_of_le hge] at h
      exact BitVec.eq_of_toNat_eq (by omega)
  · rintro rfl
    exact ahead_self _

theorem ahead_trans (o p x : BitVec w) : ahead o x = (ahead o p + ahead p x) % 2 ^ w := by
  have h : p - o + (x - p) = x - o := by
    rw [add_comm, sub_add_sub_cancel]
  rw [ahead, ahead, ahead, ← BitVec.toNat_add, h]

theorem ahead_add (o x k : BitVec w) : ahead (o + k) (x + k) = ahead o x := by
  rw [ahead, ahead, add_sub_add_right_eq_sub]

theorem ahead_injective (o : BitVec w) : Function.Injective (ahead o) := by
  intro x y h
  exact sub_left_injective (BitVec.eq_of_toNat_eq h)

theorem ahead_of_ahead_le {o p x : BitVec w} (h : ahead o p ≤ ahead o x) :
    ahead p x = ahead o x - ahead o p := by
  have hx := ahead_lt o x
  have hp := ahead_lt p x
  have ht := ahead_trans o p x
  rcases Nat.lt_or_ge (ahead o p + ahead p x) (2 ^ w) with hlt | hge
  · rw [Nat.mod_eq_of_lt hlt] at ht
    omega
  · rw [Nat.mod_eq_sub_mod hge, Nat.mod_eq_of_lt (by omega)] at ht
    omega

theorem ahead_swap {a b : BitVec w} (h : a ≠ b) : ahead a b + ahead b a = 2 ^ w := by
  have hab := ahead_lt a b
  have hba := ahead_lt b a
  have hne : ahead a b ≠ 0 := fun h0 => h (ahead_eq_zero.mp h0).symm
  have ht := ahead_trans a b a
  rw [ahead_self] at ht
  rcases Nat.lt_or_ge (ahead a b + ahead b a) (2 ^ w) with hlt | hge
  · rw [Nat.mod_eq_of_lt hlt] at ht
    omega
  · rw [Nat.mod_eq_sub_mod hge, Nat.mod_eq_of_lt (by omega)] at ht
    omega

theorem advances_of_ahead {a b : BitVec w} (h0 : 0 < ahead a b) (h : ahead a b ≤ 2 ^ (w - 1)) :
    Advances a b := by
  have hne : a ≠ b := by
    rintro rfl
    simp at h0
  refine ⟨hne, fun hf => ?_⟩
  have hs := ahead_swap hne
  have hlt := hf.2
  cases w with
  | zero =>
    have := ahead_lt a b
    omega
  | succ w =>
    rw [Nat.add_sub_cancel] at h hlt
    rw [Nat.pow_succ] at hs
    omega

theorem Advances.ahead {a b : BitVec w} (h : Advances a b) :
    0 < ahead a b ∧ ahead a b ≤ 2 ^ (w - 1) := by
  have hpos : 0 < SerialNumber.ahead a b := by
    rw [Nat.pos_iff_ne_zero, Ne, ahead_eq_zero]
    exact fun he => h.1 he.symm
  have hpos' : 0 < SerialNumber.ahead b a := by
    rw [Nat.pos_iff_ne_zero, Ne, ahead_eq_zero]
    exact h.1
  have hs := ahead_swap h.1
  have hle : 2 ^ (w - 1) ≤ SerialNumber.ahead b a := by
    by_contra hlt
    exact h.2 ⟨hpos', by omega⟩
  refine ⟨hpos, ?_⟩
  cases w with
  | zero =>
    have := ahead_lt a b
    omega
  | succ w =>
    rw [Nat.add_sub_cancel] at hle ⊢
    rw [Nat.pow_succ] at hs
    omega

theorem unwinds_cons {a : BitVec w} {l : List (BitVec w)} (h : Advancing (a :: l)) {c : Nat}
    (hc : BitVec.ofNat w c = a) : ∃ counts, Unwinds (c :: counts) (a :: l) := by
  induction l generalizing a c with
  | nil => exact ⟨[], by simp [hc], .singleton _⟩
  | cons b l ih =>
    obtain ⟨hab, hl⟩ := List.isChain_cons_cons.mp h
    obtain ⟨hpos, hle⟩ := hab.ahead
    have hb : BitVec.ofNat w (c + SerialNumber.ahead a b) = b := by
      rw [BitVec.ofNat_add, hc, SerialNumber.ahead, BitVec.ofNat_toNat, BitVec.setWidth_eq,
        add_sub_cancel]
    obtain ⟨counts, hm, hchain⟩ := ih hl hb
    refine ⟨(c + SerialNumber.ahead a b) :: counts, ?_, ?_⟩
    · rw [List.map_cons, hm, hc]
    · exact List.isChain_cons_cons.mpr ⟨⟨by omega, by omega⟩, hchain⟩

theorem Advancing.exists_unwinds {l : List (BitVec w)} (h : Advancing l) :
    ∃ counts, Unwinds counts l := by
  cases l with
  | nil => exact ⟨[], rfl, .nil⟩
  | cons a l =>
    obtain ⟨counts, hc⟩ := unwinds_cons h (c := a.toNat) (by simp)
    exact ⟨a.toNat :: counts, hc⟩

theorem follows_of_window {o a b : BitVec w} (hb : ahead o b < 2 ^ (w - 1))
    (h : ahead o a < ahead o b) : Follows b a := by
  rw [Follows, ahead_of_ahead_le (Nat.le_of_lt h)]
  omega

/-- The window moves with its origin up to the nearest number in it. -/
theorem Window.move {o p : BitVec w} {l : List (BitVec w)} (hl : Window o l)
    (hp : ∀ x ∈ l, ahead o p ≤ ahead o x) : Window p l := by
  intro x hx
  have := hl x hx
  rw [ahead_of_ahead_le (hp x hx)]
  omega

theorem ahead_succ {o x : BitVec w} (h : x ≠ o) : ahead (o + 1) x + 1 = ahead o x := by
  have hne : ahead o x ≠ 0 := fun h0 => h (ahead_eq_zero.mp h0)
  have hx := ahead_lt o x
  have hone : ahead o (o + 1) = 1 := by
    rw [ahead, add_sub_cancel_left]
    show (1#w).toNat = 1
    rw [BitVec.toNat_ofNat, Nat.mod_eq_of_lt (by omega)]
  have := ahead_of_ahead_le (o := o) (p := o + 1) (x := x) (by omega)
  omega

end SerialNumber
