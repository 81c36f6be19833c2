import Mathlib.Data.Nat.Digits.Defs

/-! The bytes of one allocation with accesses that stay inside it, and where a C struct
puts its fields. -/

/-- A load or a store that touches a byte behind the end has no value. -/
abbrev ByteBlock := List (BitVec 8)

namespace ByteBlock

variable {b b' : ByteBlock} {offset count : ℕ} {bytes bytes' : List (BitVec 8)}

def load (b : ByteBlock) (offset count : ℕ) : Option (List (BitVec 8)) :=
  if offset + count ≤ b.length then some ((b.drop offset).take count) else none

def store (b : ByteBlock) (offset : ℕ) (bytes : List (BitVec 8)) : Option ByteBlock :=
  if offset + bytes.length ≤ b.length then
    some (b.take offset ++ bytes ++ b.drop (offset + bytes.length))
  else none

/-- Stores the words one behind the other. -/
def storeEach (b : ByteBlock) (offset : ℕ) : List (List (BitVec 8)) → Option ByteBlock
  | [] => some b
  | word :: words => do
    let b ← b.store offset word
    storeEach b (offset + word.length) words

/-- Loads words of one size that lie one behind the other. -/
def loadEach (b : ByteBlock) (size : ℕ) (offset : ℕ) : ℕ → Option (List (List (BitVec 8)))
  | 0 => some []
  | count + 1 => do
    let word ← b.load offset size
    let words ← loadEach b size (offset + size) count
    return word :: words

theorem load_eq_some : b.load offset count = some bytes ↔
    offset + count ≤ b.length ∧ (b.drop offset).take count = bytes := by
  rw [load]
  split <;> simp_all

theorem store_eq_some : b.store offset bytes = some b' ↔
    offset + bytes.length ≤ b.length ∧
      b.take offset ++ bytes ++ b.drop (offset + bytes.length) = b' := by
  rw [store]
  split <;> simp_all

theorem store_isSome (b : ByteBlock) (offset : ℕ) (bytes : List (BitVec 8))
    (h : offset + bytes.length ≤ b.length) : ∃ b', b.store offset bytes = some b' :=
  ⟨_, if_pos h⟩

theorem load_length (h : b.load offset count = some bytes) : bytes.length = count := by
  obtain ⟨hfits, rfl⟩ := load_eq_some.mp h
  simp only [List.length_take, List.length_drop]
  omega

theorem store_length (h : b.store offset bytes = some b') : b'.length = b.length := by
  obtain ⟨hfits, rfl⟩ := store_eq_some.mp h
  simp only [List.length_append, List.length_take, List.length_drop]
  omega

theorem load_store_same (h : b.store offset bytes = some b') :
    b'.load offset bytes.length = some bytes := by
  have hlength := store_length h
  obtain ⟨hfits, rfl⟩ := store_eq_some.mp h
  refine load_eq_some.mpr ⟨by omega, ?_⟩
  have htake : (b.take offset).length = offset := by
    rw [List.length_take]
    omega
  rw [List.append_assoc, List.drop_left' htake, List.take_left' rfl]

theorem getElem?_store (h : b.store offset bytes = some b') {i : ℕ}
    (hi : i < offset ∨ offset + bytes.length ≤ i) : b'[i]? = b[i]? := by
  obtain ⟨hfits, rfl⟩ := store_eq_some.mp h
  have htake : (b.take offset).length = offset := by
    rw [List.length_take]
    omega
  rcases hi with hi | hi
  · rw [List.append_assoc, List.getElem?_append_left (by omega), List.getElem?_take_of_lt hi]
  · rw [List.getElem?_append_right (by rw [List.length_append]; omega), List.getElem?_drop,
      List.length_append, htake]
    congr 1
    omega

theorem getElem?_store_same (h : b.store offset bytes = some b') {i : ℕ} (hi : i < bytes.length) :
    b'[offset + i]? = bytes[i]? := by
  obtain ⟨hfits, rfl⟩ := store_eq_some.mp h
  have htake : (b.take offset).length = offset := by simp only [List.length_take]; omega
  have hfront : offset + i < (b.take offset ++ bytes).length := by
    simp only [List.length_append]
    omega
  rw [List.getElem?_append_left hfront, List.getElem?_append_right (by omega), htake,
    Nat.add_sub_cancel_left]

theorem load_store_disjoint (h : b.store offset bytes = some b') {offset' : ℕ}
    (hdisjoint : offset' + count ≤ offset ∨ offset + bytes.length ≤ offset') :
    b'.load offset' count = b.load offset' count := by
  have hlength := store_length h
  have hbytes : (b'.drop offset').take count = (b.drop offset').take count := by
    apply List.ext_getElem?
    intro i
    by_cases hi : i < count
    · rw [List.getElem?_take_of_lt hi, List.getElem?_take_of_lt hi, List.getElem?_drop,
        List.getElem?_drop]
      exact getElem?_store h (by omega)
    · rw [List.getElem?_eq_none (by rw [List.length_take]; omega),
        List.getElem?_eq_none (by rw [List.length_take]; omega)]
  simp only [load, hlength, hbytes]

theorem store_append :
    (b.store offset bytes >>= fun b => b.store (offset + bytes.length) bytes') =
      b.store offset (bytes ++ bytes') := by
  by_cases hfirst : offset + bytes.length ≤ b.length
  · obtain ⟨b', hb'⟩ := store_isSome b offset bytes hfirst
    have hlength := store_length hb'
    rw [hb', Option.bind_eq_bind, Option.bind_some]
    obtain ⟨-, rfl⟩ := store_eq_some.mp hb'
    have hfront : (b.take offset ++ bytes).length = offset + bytes.length := by
      rw [List.length_append, List.length_take]
      omega
    rw [store, store, hlength, List.length_append, Nat.add_assoc]
    refine if_congr Iff.rfl ?_ rfl
    rw [← hfront, List.take_left, ← Nat.add_assoc, ← hfront, List.drop_append, List.append_assoc,
      List.append_assoc, List.drop_of_length_le (by omega), List.nil_append, Nat.add_sub_cancel_left,
      List.drop_drop]
    simp only [List.append_assoc]
  · rw [store, if_neg hfirst, store, if_neg (by rw [List.length_append]; omega)]
    rfl

theorem storeEach_eq_store {words : List (List (BitVec 8))} (h : offset ≤ b.length) :
    b.storeEach offset words = b.store offset words.flatten := by
  induction words generalizing b offset with
  | nil => simp [storeEach, store, h]
  | cons word words ih =>
    rw [storeEach, List.flatten_cons, ← store_append]
    cases hword : b.store offset word with
    | none => rfl
    | some b' =>
      have hfits := (store_eq_some.mp hword).1
      exact ih (by rw [store_length hword]; exact hfits)

theorem load_append (h : b.load offset (bytes.length + count) = some (bytes ++ bytes')) :
    b.load offset bytes.length = some bytes ∧ b.load (offset + bytes.length) count = some bytes' := by
  obtain ⟨hfits, hload⟩ := load_eq_some.mp h
  have hfirst := congrArg (List.take bytes.length) hload
  have hsecond := congrArg (List.drop bytes.length) hload
  rw [List.take_left, List.take_take, Nat.min_eq_left (by omega)] at hfirst
  rw [List.drop_left, List.drop_take, List.drop_drop, Nat.add_sub_cancel_left] at hsecond
  exact ⟨load_eq_some.mpr ⟨by omega, hfirst⟩, load_eq_some.mpr ⟨by omega, hsecond⟩⟩

theorem loadEach_of_load {size : ℕ} {words : List (List (BitVec 8))}
    (hsize : ∀ word ∈ words, word.length = size)
    (h : b.load offset words.flatten.length = some words.flatten) :
    b.loadEach size offset words.length = some words := by
  induction words generalizing offset with
  | nil => rfl
  | cons word words ih =>
    rw [List.flatten_cons, List.length_append] at h
    obtain ⟨hword, hwords⟩ := load_append h
    obtain rfl := hsize word List.mem_cons_self
    have hrest := ih (fun w hw => hsize w (List.mem_cons_of_mem _ hw)) hwords
    simp only [List.length_cons, loadEach, hword, hrest, Option.bind_eq_bind, Option.bind_some,
      Option.pure_def]

/-- The bytes of a number, the lowest one first. -/
def littleEndian : ℕ → ℕ → List (BitVec 8)
  | 0, _ => []
  | count + 1, value => BitVec.ofNat 8 value :: littleEndian count (value / 256)

def ofLittleEndian (bytes : List (BitVec 8)) : ℕ := Nat.ofDigits 256 (bytes.map (·.toNat))

@[simp]
theorem littleEndian_length (count value : ℕ) : (littleEndian count value).length = count := by
  induction count generalizing value with
  | zero => rfl
  | succ count ih => rw [littleEndian, List.length_cons, ih]

theorem ofLittleEndian_littleEndian {count value : ℕ} (h : value < 256 ^ count) :
    ofLittleEndian (littleEndian count value) = value := by
  induction count generalizing value with
  | zero =>
    obtain rfl : value = 0 := by simpa using h
    rfl
  | succ count ih =>
    have hrest := ih (Nat.div_lt_of_lt_mul (by rwa [← Nat.pow_succ']))
    rw [littleEndian, ofLittleEndian, List.map_cons, Nat.ofDigits_cons]
    change _ + 256 * ofLittleEndian (littleEndian count (value / 256)) = _
    rw [hrest, BitVec.toNat_ofNat]
    exact Nat.mod_add_div value 256

end ByteBlock

/-- The size of a field and its natural alignment. -/
structure FieldType where
  size : ℕ
  align : ℕ

/-- Each field lies at the first multiple of its alignment behind the one before it. -/
def fieldOffsets (start : ℕ) : List FieldType → List ℕ
  | [] => []
  | field :: fields =>
    let offset := (start + field.align - 1) / field.align * field.align
    offset :: fieldOffsets (offset + field.size) fields

/-- Up to the end of the last field, in multiples of the largest alignment. -/
def structSize (fields : List FieldType) : ℕ :=
  let last := ((fieldOffsets 0 fields).zip fields).foldl (fun _ field => field.1 + field.2.size) 0
  let align := (fields.map (·.align)).foldl max 1
  (last + align - 1) / align * align
