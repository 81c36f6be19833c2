import Mathlib.Data.List.Basic
import WifiDisplay.Basic

/-! Base64: three bytes as four letters of six bits each, with padding behind the last ones. -/

namespace Base64Format

open WifiDisplay (Byte)

/-- `A` to `Z`, `a` to `z`, `0` to `9`, `+` and `/`. -/
def alphabet : List Byte :=
  ((List.range 26).map (0x41 + ·) ++ (List.range 26).map (0x61 + ·) ++
    (List.range 10).map (0x30 + ·) ++ [0x2B, 0x2F]).map (BitVec.ofNat 8)

def padding : Byte := 0x3D

def letter (sextet : Nat) : Byte := alphabet.getD sextet padding

def encode : List Byte → List Byte
  | a :: b :: c :: bytes =>
    letter (a.toNat / 4) :: letter (a.toNat % 4 * 16 + b.toNat / 16) ::
      letter (b.toNat % 16 * 4 + c.toNat / 64) :: letter (c.toNat % 64) :: encode bytes
  | [a, b] =>
    [letter (a.toNat / 4), letter (a.toNat % 4 * 16 + b.toNat / 16), letter (b.toNat % 16 * 4), padding]
  | [a] => [letter (a.toNat / 4), letter (a.toNat % 4 * 16), padding, padding]
  | [] => []

theorem length_encode (bytes : List Byte) :
    (encode bytes).length = 4 * ((bytes.length + 2) / 3) := by
  induction bytes using encode.induct with
  | case1 a b c bytes ih =>
    rw [encode]
    simp only [List.length_cons, ih]
    omega
  | case2 => simp [encode]
  | case3 => simp [encode]
  | case4 => rfl

theorem letter_mem (sextet : Nat) : letter sextet ∈ alphabet ∨ letter sextet = padding := by
  rw [letter, List.getD_eq_getElem?_getD]
  cases hletter : alphabet[sextet]? with
  | none => exact .inr rfl
  | some c => exact .inl (List.mem_of_getElem? hletter)

theorem mem_encode {c : Byte} {bytes : List Byte} (hc : c ∈ encode bytes) :
    c ∈ alphabet ∨ c = padding := by
  induction bytes using encode.induct with
  | case1 a b d bytes ih =>
    rw [encode] at hc
    simp only [List.mem_cons] at hc
    rcases hc with rfl | rfl | rfl | rfl | hc
    iterate 4 exact letter_mem _
    exact ih hc
  | case2 a b =>
    rw [encode] at hc
    simp only [List.mem_cons, List.not_mem_nil, or_false] at hc
    rcases hc with rfl | rfl | rfl | rfl
    iterate 3 exact letter_mem _
    exact .inr rfl
  | case3 a =>
    rw [encode] at hc
    simp only [List.mem_cons, List.not_mem_nil, or_false] at hc
    rcases hc with rfl | rfl | rfl | rfl
    iterate 2 exact letter_mem _
    iterate 2 exact .inr rfl
  | case4 => cases hc

end Base64Format
