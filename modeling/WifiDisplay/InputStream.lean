import Mathlib.Algebra.Group.Int.Defs
import Mathlib.Data.Nat.Notation

/-! A text stream with the extraction operators of `std::istream` for words and
integers. Once an extraction fails, the later ones leave their targets alone. -/

structure InputStream where
  rest : List Char
  failed : Bool := false
  deriving DecidableEq, Repr

namespace InputStream

def isBlank (c : Char) : Bool := c = ' ' || (9 ≤ c.toNat && c.toNat ≤ 13)

/-- How an integer type is read: its base and its range. A type without negative
values reads a negative numeral from the top of its range. -/
structure NumberFormat where
  base : ℕ
  low : Int
  high : Int

def signed32 : NumberFormat := ⟨10, -2 ^ 31, 2 ^ 31 - 1⟩

def hex16 : NumberFormat := ⟨16, 0, 2 ^ 16 - 1⟩

def hex32 : NumberFormat := ⟨16, 0, 2 ^ 32 - 1⟩

def digitValue (c : Char) : Option ℕ :=
  if '0' ≤ c ∧ c ≤ '9' then some (c.toNat - 48)
  else if 'a' ≤ c ∧ c ≤ 'f' then some (c.toNat - 87)
  else if 'A' ≤ c ∧ c ≤ 'F' then some (c.toNat - 55)
  else none

def isDigit (base : ℕ) (c : Char) : Bool := (digitValue c).any (· < base)

def magnitude (base : ℕ) (digits : List Char) : ℕ :=
  digits.foldl (fun n c => base * n + (digitValue c).getD 0) 0

/-- The sign of a numeral and what stands behind it. -/
def sign : List Char → Bool × List Char
  | '-' :: t => (true, t)
  | '+' :: t => (false, t)
  | t => (false, t)

/-- The digits behind the prefix that base 16 allows. -/
def afterPrefix (base : ℕ) (t : List Char) : List Char :=
  if base = 16 then
    match t with
    | '0' :: 'x' :: u => u
    | '0' :: 'X' :: u => u
    | t => t
  else t

namespace NumberFormat

variable (f : NumberFormat)

/-- The value of a numeral and whether the type can hold it; a type that cannot
gets the nearest end of its range. -/
def value (negative : Bool) (m : ℕ) : Int × Bool :=
  if f.low = 0 then
    if (m : Int) > f.high then (f.high, false)
    else if negative then ((f.high + 1 - m) % (f.high + 1), true)
    else (m, true)
  else if negative then if -(m : Int) < f.low then (f.low, false) else (-m, true)
  else if (m : Int) > f.high then (f.high, false)
  else (m, true)

end NumberFormat

def number (f : NumberFormat) (s : InputStream) (old : Int) : Int × InputStream :=
  if s.failed then (old, s)
  else
    let t := s.rest.dropWhile isBlank
    if t = [] then (old, { rest := [], failed := true })
    else
      let (negative, u) := sign t
      let u := afterPrefix f.base u
      let digits := u.takeWhile (isDigit f.base)
      let rest := u.dropWhile (isDigit f.base)
      if digits = [] then (0, { rest, failed := true })
      else
        let (v, fits) := f.value negative (magnitude f.base digits)
        (v, { rest, failed := !fits })

def word (s : InputStream) (old : List Char) : List Char × InputStream :=
  if s.failed then (old, s)
  else
    let t := s.rest.dropWhile isBlank
    if t = [] then (old, { rest := [], failed := true })
    else (t.takeWhile (!isBlank ·), { rest := t.dropWhile (!isBlank ·) })

/-! Numbers as an output stream writes them. -/

/-- A number in base 16 with zeros in front up to a width. -/
def hexPadded (width n : ℕ) : List Char := (Nat.toDigits 16 n).leftpad width '0'

theorem digitValue_digitChar {d : ℕ} (h : d < 16) : digitValue (Nat.digitChar d) = some d := by
  have hall : ∀ d < 16, digitValue (Nat.digitChar d) = some d := by decide
  exact hall d h

theorem magnitude_append (base : ℕ) (s t : List Char) :
    magnitude base (s ++ t) =
      t.foldl (fun n c => base * n + (digitValue c).getD 0) (magnitude base s) := List.foldl_append

theorem magnitude_toDigits (n : ℕ) : magnitude 16 (Nat.toDigits 16 n) = n := by
  induction n using Nat.strongRecOn with
  | _ n ih =>
    by_cases h : n < 16
    · rw [Nat.toDigits_of_lt_base h]
      simp [magnitude, digitValue_digitChar h]
    · have hmod : n % 16 < 16 := Nat.mod_lt _ (by decide)
      rw [Nat.toDigits_of_base_le (by decide) (Nat.le_of_not_lt h), magnitude_append,
        ih (n / 16) (by omega)]
      simp [digitValue_digitChar hmod]
      omega

theorem magnitude_zeros (k : ℕ) (s : List Char) :
    magnitude 16 (List.replicate k '0' ++ s) = magnitude 16 s := by
  have hzeros : magnitude 16 (List.replicate k '0') = 0 := by
    induction k with
    | zero => rfl
    | succ k ih =>
      rw [List.replicate_succ', magnitude_append, ih]
      rfl
  rw [magnitude_append, hzeros]
  rfl

theorem magnitude_hexPadded (width n : ℕ) : magnitude 16 (hexPadded width n) = n := by
  rw [hexPadded, List.leftpad, magnitude_zeros, magnitude_toDigits]

theorem isDigit_hexPadded {width n : ℕ} {c : Char} (h : c ∈ hexPadded width n) :
    isDigit 16 c = true := by
  have hdigit : ∀ m : ℕ, ∀ c ∈ Nat.toDigits 16 m, isDigit 16 c = true := by
    intro m
    induction m using Nat.strongRecOn with
    | _ m ih =>
      intro c hc
      by_cases hm : m < 16
      · rw [Nat.toDigits_of_lt_base hm, List.mem_singleton] at hc
        rw [hc, isDigit, digitValue_digitChar hm]
        simpa using hm
      · have hmod : m % 16 < 16 := Nat.mod_lt _ (by decide)
        rw [Nat.toDigits_of_base_le (by decide) (Nat.le_of_not_lt hm), List.mem_append,
          List.mem_singleton] at hc
        rcases hc with hc | rfl
        · exact ih (m / 16) (by omega) c hc
        · rw [isDigit, digitValue_digitChar hmod]
          simpa using hmod
  rw [hexPadded, List.leftpad, List.mem_append] at h
  rcases h with h | h
  · rw [(List.mem_replicate.mp h).2]
    decide
  · exact hdigit n c h

theorem hexPadded_ne_nil (width n : ℕ) : hexPadded width n ≠ [] := by
  simp [hexPadded, List.leftpad, Nat.toDigits_ne_nil]

theorem not_blank_of_isDigit {c : Char} (h : isDigit 16 c = true) : isBlank c = false := by
  have hrange : 48 ≤ c.toNat := by
    simp only [isDigit, digitValue] at h
    split at h
    · rename_i hc
      exact hc.1
    · split at h
      · rename_i hc
        exact Nat.le_trans (by decide) hc.1
      · split at h
        · rename_i hc
          exact Nat.le_trans (by decide) hc.1
        · simp at h
  have hspace : c ≠ ' ' := by
    rintro rfl
    exact absurd hrange (by decide)
  simp only [isBlank, decide_eq_false hspace, Bool.false_or, Bool.and_eq_false_iff,
    decide_eq_false_iff_not]
  omega

theorem not_isDigit_of_blank {c : Char} (h : isBlank c = true) : isDigit 16 c = false := by
  cases hd : isDigit 16 c with
  | false => rfl
  | true => simp [not_blank_of_isDigit hd] at h

theorem number_hexPadded {f : NumberFormat} (hbase : f.base = 16) (hlow : f.low = 0) {width n : ℕ}
    (hn : (n : Int) ≤ f.high) {blanks t : List Char} (hblanks : ∀ c ∈ blanks, isBlank c)
    (ht : ∀ c, t.head? = some c → isBlank c) (old : Int) :
    number f ⟨blanks ++ hexPadded width n ++ t, false⟩ old = ((n : Int), ⟨t, false⟩) := by
  obtain ⟨c, s, hcs⟩ := List.exists_cons_of_ne_nil (hexPadded_ne_nil width n)
  have hc : isDigit 16 c = true := isDigit_hexPadded (by rw [hcs]; simp)
  have hskip : (blanks ++ hexPadded width n ++ t).dropWhile isBlank = hexPadded width n ++ t := by
    rw [List.append_assoc, List.dropWhile_append_of_pos hblanks, hcs, List.cons_append,
      List.dropWhile_cons_of_neg (by simp [not_blank_of_isDigit hc])]
  have hsign : sign (hexPadded width n ++ t) = (false, hexPadded width n ++ t) := by
    rw [hcs, List.cons_append, sign]
    · intro u heq
      rw [(List.cons.inj heq).1] at hc
      exact absurd hc (by decide)
    · intro u heq
      rw [(List.cons.inj heq).1] at hc
      exact absurd hc (by decide)
  have hx (d : Char) (hd : d = 'x' ∨ d = 'X') : (s ++ t).head? ≠ some d := by
    intro hhead
    cases s with
    | nil =>
      have hb := ht d hhead
      rcases hd with rfl | rfl <;> exact absurd hb (by decide)
    | cons e s =>
      have he : isDigit 16 e = true := isDigit_hexPadded (by rw [hcs]; simp)
      have hed : e = d := by simpa using hhead
      subst hed
      rcases hd with rfl | rfl <;> exact absurd he (by decide)
  have hprefix : afterPrefix f.base (hexPadded width n ++ t) = hexPadded width n ++ t := by
    rw [afterPrefix, if_pos hbase]
    · intro u heq
      rw [hcs, List.cons_append] at heq
      have hhead := congrArg List.head? (List.cons.inj heq).2
      exact hx 'x' (Or.inl rfl) hhead
    · intro u heq
      rw [hcs, List.cons_append] at heq
      have hhead := congrArg List.head? (List.cons.inj heq).2
      exact hx 'X' (Or.inr rfl) hhead
  have htail : t.takeWhile (isDigit 16) = [] ∧ t.dropWhile (isDigit 16) = t := by
    cases t with
    | nil => simp
    | cons d t =>
      have hd := not_isDigit_of_blank (ht d rfl)
      simp [hd]
  have htake : (hexPadded width n ++ t).takeWhile (isDigit 16) = hexPadded width n := by
    rw [List.takeWhile_append_of_pos fun c hc => isDigit_hexPadded hc, htail.1, List.append_nil]
  have hdrop : (hexPadded width n ++ t).dropWhile (isDigit 16) = t := by
    rw [List.dropWhile_append_of_pos fun c hc => isDigit_hexPadded hc, htail.2]
  have hne : hexPadded width n ++ t ≠ [] := by simp [hcs]
  simp only [number, Bool.false_eq_true, if_false, hskip, hne, hsign, hprefix]
  rw [hbase, htake, hdrop, if_neg (hexPadded_ne_nil width n), magnitude_hexPadded,
    NumberFormat.value, if_pos hlow, if_neg (by omega)]
  rfl

end InputStream
