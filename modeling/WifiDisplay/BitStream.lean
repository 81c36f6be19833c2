import Mathlib.Data.List.TakeWhile
import Mathlib.Tactic.IntervalCases
import Mathlib.Tactic.Ring
import WifiDisplay.Basic

/-! Bytes as a stream of bits, and the numbers read from its front: of a fixed width, or
Exp-Golomb codes. -/

namespace WifiDisplay

/-- The bits of bytes, the high ones first. -/
def bitsOf (bytes : List Byte) : List Bool :=
  bytes.flatMap fun b => [b.getLsbD 7, b.getLsbD 6, b.getLsbD 5, b.getLsbD 4, b.getLsbD 3,
    b.getLsbD 2, b.getLsbD 1, b.getLsbD 0]

def bitsValue (bits : List Bool) : Nat := bits.foldl (fun v b => 2 * v + b.toNat) 0

def readBits (n : Nat) (bits : List Bool) : Option (Nat × List Bool) :=
  if bits.length < n then none else some (bitsValue (bits.take n), bits.drop n)

/-- The zeros before the first one. -/
def leadingZeros (bits : List Bool) : Nat := (bits.takeWhile (! ·)).length

/-- An Exp-Golomb code, `ue(v)`: behind the first one stand as many bits as zeros before it. -/
def readUe (bits : List Bool) : Option (Nat × List Bool) :=
  let zeros := leadingZeros bits
  if bits.length ≤ zeros then none
  else (readBits zeros (bits.drop (zeros + 1))).map fun (v, rest) => (2 ^ zeros - 1 + v, rest)

/-- The lowest `n` bits of a number, the high ones first. -/
def natBits : Nat → Nat → List Bool
  | 0, _ => []
  | n + 1, v => v.testBit n :: natBits n v

/-- The code of `v` is `v + 1` in binary, with as many zeros before it as bits behind its first
one. -/
def ueBits (v : Nat) : List Bool :=
  List.replicate (v + 1).log2 false ++ natBits ((v + 1).log2 + 1) (v + 1)

/-- The number that stands for `v` in a signed code, `se(v)`. -/
def seCode (v : Int) : Nat := if 0 < v then (2 * v - 1).toNat else (-2 * v).toNat

def seBits (v : Int) : List Bool := ueBits (seCode v)

theorem length_bitsOf (bytes : List Byte) : (bitsOf bytes).length = 8 * bytes.length := by
  induction bytes with
  | nil => rfl
  | cons b bytes ih =>
    rw [bitsOf, List.flatMap_cons, List.length_append, ← bitsOf, ih]
    simp
    omega

theorem getElem?_bitsOf (bytes : List Byte) (pos : Nat) :
    (bitsOf bytes)[pos]? = bytes[pos / 8]?.map fun b => b.getLsbD (7 - pos % 8) := by
  induction bytes generalizing pos with
  | nil => rfl
  | cons b bytes ih =>
    rw [bitsOf, List.flatMap_cons, ← bitsOf]
    by_cases hpos : pos < 8
    · rw [List.getElem?_append_left (by simpa using hpos), Nat.div_eq_of_lt hpos,
        Nat.mod_eq_of_lt hpos]
      interval_cases pos <;> rfl
    · obtain ⟨pos, rfl⟩ := Nat.exists_eq_add_of_le' (Nat.not_lt.mp hpos)
      rw [List.getElem?_append_right (by simp), Nat.add_div_right pos (by decide),
        Nat.add_mod_right, List.getElem?_cons_succ]
      exact ih pos

theorem bitsOf_take (n : Nat) (bytes : List Byte) :
    bitsOf (bytes.take n) = (bitsOf bytes).take (8 * n) := by
  apply List.ext_getElem?
  intro pos
  rw [getElem?_bitsOf, List.getElem?_take, List.getElem?_take, getElem?_bitsOf]
  by_cases hpos : pos < 8 * n
  · rw [if_pos hpos, if_pos (by omega)]
  · rw [if_neg hpos, if_neg (by omega)]
    rfl

theorem foldl_bitsValue (bits : List Bool) (v : Nat) :
    bits.foldl (fun v b => 2 * v + b.toNat) v = v * 2 ^ bits.length + bitsValue bits := by
  induction bits generalizing v with
  | nil => simp [bitsValue]
  | cons b bits ih =>
    show _ = _ + bits.foldl (fun v b => 2 * v + b.toNat) (2 * 0 + b.toNat)
    rw [List.foldl_cons, ih, ih, List.length_cons, Nat.pow_succ]
    ring

theorem bitsValue_cons (b : Bool) (bits : List Bool) :
    bitsValue (b :: bits) = b.toNat * 2 ^ bits.length + bitsValue bits := by
  rw [bitsValue, List.foldl_cons, foldl_bitsValue]
  simp

theorem bitsValue_lt (bits : List Bool) : bitsValue bits < 2 ^ bits.length := by
  induction bits with
  | nil => simp [bitsValue]
  | cons b bits ih =>
    rw [bitsValue_cons, List.length_cons, Nat.pow_succ]
    cases b <;> simp <;> omega

theorem bitsValue_take_lt (n : Nat) (bits : List Bool) : bitsValue (bits.take n) < 2 ^ n :=
  (bitsValue_lt _).trans_le (Nat.pow_le_pow_right (by decide) (List.length_take_le n bits))

theorem readBits_some {n v : Nat} {bits rest : List Bool} (h : readBits n bits = some (v, rest)) :
    n ≤ bits.length ∧ v = bitsValue (bits.take n) ∧ rest = bits.drop n := by
  rw [readBits] at h
  split at h
  · cases h
  next hlen =>
    cases h
    exact ⟨by omega, rfl, rfl⟩

theorem readBits_of_le {n : Nat} {bits : List Bool} (h : n ≤ bits.length) :
    readBits n bits = some (bitsValue (bits.take n), bits.drop n) := by
  rw [readBits, if_neg (by omega)]

theorem readUe_of_le {bits : List Bool} (h : 2 * leadingZeros bits + 1 ≤ bits.length) :
    readUe bits = some (2 ^ leadingZeros bits - 1 +
        bitsValue ((bits.drop (leadingZeros bits + 1)).take (leadingZeros bits)),
      bits.drop (2 * leadingZeros bits + 1)) := by
  rw [readUe, if_neg (by omega), readBits_of_le (by rw [List.length_drop]; omega)]
  rw [Option.map_some, List.drop_drop, show leadingZeros bits + 1 + leadingZeros bits =
    2 * leadingZeros bits + 1 by omega]

theorem readUe_some {bits rest : List Bool} {v : Nat} (h : readUe bits = some (v, rest)) :
    2 * leadingZeros bits + 1 ≤ bits.length := by
  rw [readUe] at h
  dsimp only at h
  split at h
  · cases h
  · obtain ⟨⟨v', rest'⟩, hread, -⟩ := Option.map_eq_some_iff.mp h
    have hle := (readBits_some hread).1
    rw [List.length_drop] at hle
    omega

theorem length_natBits (n v : Nat) : (natBits n v).length = n := by
  induction n with
  | zero => rfl
  | succ n ih => rw [natBits, List.length_cons, ih]

theorem bitsValue_natBits (n v : Nat) : bitsValue (natBits n v) = v % 2 ^ n := by
  induction n with
  | zero =>
    rw [Nat.pow_zero, Nat.mod_one]
    rfl
  | succ n ih =>
    rw [natBits, bitsValue_cons, length_natBits, ih, Nat.toNat_testBit, Nat.mod_pow_succ]
    ring

theorem readBits_append {n : Nat} {bits : List Bool} (hlen : bits.length = n) (rest : List Bool) :
    readBits n (bits ++ rest) = some (bitsValue bits, rest) := by
  subst hlen
  rw [readBits_of_le (by simp), List.take_left, List.drop_left]

theorem leadingZeros_replicate (n : Nat) (bits : List Bool) :
    leadingZeros (List.replicate n false ++ true :: bits) = n := by
  induction n with
  | zero => simp [leadingZeros]
  | succ n ih =>
    rw [leadingZeros] at ih ⊢
    rw [List.replicate_succ, List.cons_append, List.takeWhile_cons_of_pos (by simp), List.length_cons, ih]

theorem ueBits_eq (v : Nat) : ueBits v =
    List.replicate (v + 1).log2 false ++ true :: natBits (v + 1).log2 (v + 1) := by
  rw [ueBits, natBits, Nat.testBit_log2 (Nat.succ_ne_zero v)]

theorem leadingZeros_ueBits (v : Nat) (rest : List Bool) :
    leadingZeros (ueBits v ++ rest) = (v + 1).log2 := by
  rw [ueBits_eq, List.append_assoc, List.cons_append, leadingZeros_replicate]

theorem length_ueBits (v : Nat) : (ueBits v).length = 2 * (v + 1).log2 + 1 := by
  rw [ueBits, List.length_append, List.length_replicate, length_natBits]
  omega

theorem readUe_ueBits (v : Nat) (rest : List Bool) : readUe (ueBits v ++ rest) = some (v, rest) := by
  have hlow : 2 ^ (v + 1).log2 ≤ v + 1 := Nat.log2_self_le (Nat.succ_ne_zero v)
  have hhigh : v + 1 < 2 ^ (v + 1).log2 * 2 := by
    rw [← Nat.pow_succ]
    exact Nat.lt_log2_self
  have hmod : (v + 1) % 2 ^ (v + 1).log2 = v + 1 - 2 ^ (v + 1).log2 := by
    rw [Nat.mod_eq_sub_mod hlow, Nat.mod_eq_of_lt (by omega)]
  have hbehind : (ueBits v ++ rest).drop ((v + 1).log2 + 1) =
      natBits (v + 1).log2 (v + 1) ++ rest := by
    have hsplit : ueBits v ++ rest = (List.replicate (v + 1).log2 false ++ [true]) ++
        (natBits (v + 1).log2 (v + 1) ++ rest) := by
      rw [ueBits_eq]
      simp
    rw [hsplit]
    exact List.drop_left' (by simp)
  rw [readUe, leadingZeros_ueBits, if_neg (by rw [List.length_append, length_ueBits]; omega),
    hbehind, readBits_append (length_natBits _ _), bitsValue_natBits, hmod]
  simp only [Option.map_some, Option.some.injEq, Prod.mk.injEq, and_true]
  omega

theorem seCode_half (v : Int) :
    (if (seCode v : Int) % 2 = 0 then -((seCode v + 1 : Int) / 2) else (seCode v + 1 : Int) / 2) = v := by
  rw [seCode]
  split <;> split <;> omega

end WifiDisplay
