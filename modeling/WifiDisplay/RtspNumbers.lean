import WifiDisplay.RtspCommon

/-! Integers as an output stream writes them, and read back by `atoi`. -/

namespace WifiDisplay

def decimal (n : Int) : Text :=
  if n < 0 then '-' :: Nat.toDigits 10 n.natAbs else Nat.toDigits 10 n.natAbs

/-- The value of type `int` with the low 32 bits of `n`. -/
def int32 (n : Int) : Int := (BitVec.ofInt 32 n).toInt

theorem int32_of_bounds {n : Int} (hlow : -2 ^ 31 ≤ n) (hhigh : n < 2 ^ 31) : int32 n = n := by
  rw [int32, BitVec.toInt_ofInt]
  exact Int.bmod_eq_of_le (by omega) (by omega)

theorem toDigits_isDigit {n : Nat} {c : Char} (h : c ∈ Nat.toDigits 10 n) : c.isDigit :=
  Nat.isDigit_of_mem_toDigits (by decide) (by decide) h

theorem decimal_ne_nil (n : Int) : decimal n ≠ [] := by
  rw [decimal]
  split <;> simp [Nat.toDigits_ne_nil]

theorem decimal_mem {n : Int} {c : Char} (h : c ∈ decimal n) : c = '-' ∨ c.isDigit := by
  rw [decimal] at h
  split at h
  · rcases List.mem_cons.mp h with rfl | h
    · exact Or.inl rfl
    · exact Or.inr (toDigits_isDigit h)
  · exact Or.inr (toDigits_isDigit h)

theorem not_mem_decimal {c : Char} (hc : c ≠ '-') (hd : c.isDigit = false) (n : Int) :
    c ∉ decimal n := by
  intro h
  rcases decimal_mem h with rfl | h
  · exact hc rfl
  · simp [hd] at h

theorem digitsValue_append {s : Text} (hs : ∀ c ∈ s, c.isDigit) {t : Text}
    (ht : ∀ c, t.head? = some c → c.isDigit = false) :
    digitsValue (s ++ t) = Nat.ofDigitChars 10 s 0 := by
  have htake : (s ++ t).takeWhile Char.isDigit = s := by
    rw [List.takeWhile_append_of_pos hs]
    cases t with
    | nil => simp
    | cons c t => simp [ht c rfl]
  rw [digitsValue, htake]
  rfl

theorem digitsValue_toDigits_append (n : Nat) {t : Text}
    (ht : ∀ c, t.head? = some c → c.isDigit = false) :
    digitsValue (Nat.toDigits 10 n ++ t) = n := by
  rw [digitsValue_append (fun c => toDigits_isDigit) ht, Nat.ofDigitChars_ten_toDigits]

theorem isSpace_of_isDigit {c : Char} (h : c.isDigit) : isSpace c = false := by
  have hc : 48 ≤ c.toNat := by
    simp only [Char.isDigit, Bool.and_eq_true, decide_eq_true_eq] at h
    exact h.1
  have hblank : c ≠ ' ' := by
    rintro rfl
    exact absurd hc (by decide)
  simp only [isSpace, decide_eq_false hblank, Bool.false_or]
  simp only [Bool.and_eq_false_iff, decide_eq_false_iff_not]
  omega

theorem atoi_toDigits_append (n : Nat) {t : Text}
    (ht : ∀ c, t.head? = some c → c.isDigit = false) :
    atoi (Nat.toDigits 10 n ++ t) = int32 (min n (2 ^ 63 - 1)) := by
  obtain ⟨c, s, hcs⟩ := List.exists_cons_of_ne_nil (Nat.toDigits_ne_nil (n := n) (b := 10))
  have hc : c.isDigit := toDigits_isDigit (n := n) (by simp [hcs])
  have hvalue := digitsValue_toDigits_append n ht
  rw [hcs, List.cons_append] at hvalue ⊢
  have hplus : c ≠ '+' := by
    rintro rfl
    exact absurd hc (by decide)
  have hminus : c ≠ '-' := by
    rintro rfl
    exact absurd hc (by decide)
  rw [atoi, List.dropWhile_cons_of_neg (by simp [isSpace_of_isDigit hc])]
  split
  · rename_i heq
    exact absurd (List.cons.inj heq).1 hminus
  · rename_i heq
    exact absurd (List.cons.inj heq).1 hplus
  · rw [hvalue, int32, max_eq_right (by omega)]

theorem atoi_toDigits (n : Nat) : atoi (Nat.toDigits 10 n) = int32 (min n (2 ^ 63 - 1)) := by
  have h := atoi_toDigits_append n (t := []) (by simp)
  rwa [List.append_nil] at h

theorem atoi_decimal_append {n : Int} (hlow : -2 ^ 31 ≤ n) (hhigh : n < 2 ^ 31) {t : Text}
    (ht : ∀ c, t.head? = some c → c.isDigit = false) : atoi (decimal n ++ t) = n := by
  rw [decimal]
  split
  · rename_i hneg
    have hblank : ¬ isSpace '-' = true := by decide
    have hvalue : -(n.natAbs : Int) = n := by omega
    rw [List.cons_append, atoi, List.dropWhile_cons_of_neg hblank]
    simp only
    rw [digitsValue_toDigits_append _ ht, hvalue, min_eq_left (by omega), max_eq_right (by omega)]
    exact int32_of_bounds hlow hhigh
  · rename_i hpos
    have hvalue : (n.natAbs : Int) = n := by omega
    rw [atoi_toDigits_append _ ht, hvalue, min_eq_left (by omega), int32_of_bounds hlow hhigh]

theorem atoi_decimal {n : Int} (hlow : -2 ^ 31 ≤ n) (hhigh : n < 2 ^ 31) : atoi (decimal n) = n := by
  have h := atoi_decimal_append hlow hhigh (t := []) (by simp)
  rwa [List.append_nil] at h

end WifiDisplay
