import WifiDisplay.MediaDescription

/-! Which reads of `GetVideoSize` return the bits that come next in its RBSP. `GetU` stops at the
first zero byte, because it takes the RBSP for a string, and `GetUe` compares only the zeros
before a code with the size of the RBSP. -/

namespace WifiDisplay

/-- The call on the bits that are left, and what it leaves of them. -/
def SpsCall.next : SpsCall → List Bool → Option (Int × List Bool)
  | u bitCount, bits => (readBits bitCount bits).map fun (v, rest) => ((v : Int), rest)
  | ue, bits => (readUe bits).map fun (v, rest) => ((v : Int), rest)

namespace MediaDescription

def rbspBits (rbsp : List Byte × Nat) : List Bool := bitsOf (rbsp.1.take rbsp.2)

/-- The call returns what stands at the cursor, moves the cursor behind it and reads no byte
behind the RBSP. A call for which the RBSP is too short cannot be exact, because the readers
have no way to fail. -/
def Exact (rbsp : List Byte × Nat) (c : SpsCall × BitCursor) : Prop :=
  ∃ v rest c', c.1.next ((rbspBits rbsp).drop c.2.pos) = some (v, rest) ∧
    read rbsp c.1 c.2 = .ok (v, c') ∧ c'.pos + rest.length = (rbspBits rbsp).length ∧
    c'.reach ≤ rbsp.2

/-- The bits that `GetU` reads come before a zero byte of the RBSP. The code that `GetUe` reads
is all in the RBSP and has at most 30 zeros. The counters of 32 bits go that far. -/
def Inside (rbsp : List Byte × Nat) : SpsCall × BitCursor → Prop
  | (.u bitCount, c) => c.pos + bitCount ≤ 8 * rbsp.2 ∧ (0 < bitCount.val →
      ∃ length ∈ rbsp.1.findIdx? (· = 0), length < rbsp.2 ∧ c.pos + bitCount ≤ 8 * length ∧
        c.pos + bitCount < 2 ^ 32)
  | (.ue, c) =>
    let zeros := leadingZeros ((rbspBits rbsp).drop c.pos)
    zeros ≤ 30 ∧ c.pos + 2 * zeros + 1 ≤ 8 * rbsp.2 ∧
      c.pos + zeros ≤ max c.pos (8 * rbsp.2 % 2 ^ 32) ∧ c.pos + 2 * zeros + 1 < 2 ^ 32

section Loops

variable {buf : List Byte} {n value v size length : Nat} {c c' : BitCursor} {one : Bool}

theorem testBit_eq_ok : testBit buf c = .ok (one, c') ↔
    (bitsOf buf)[c.pos]? = some one ∧ c' = { c with reach := max c.reach (c.pos / 8 + 1) } := by
  have hmask (i : Fin 8) (b : Byte) :
      decide (b &&& (0x80#8 >>> i.val) ≠ 0) = b.getLsbD (7 - i.val) := by
    have hpower : ∀ i : Fin 8, 0x80#8 >>> i.val = BitVec.twoPow 8 (7 - i.val) ∧
        BitVec.twoPow 8 (7 - i.val) ≠ 0 := by decide
    rw [(hpower i).1, BitVec.and_twoPow]
    cases b.getLsbD (7 - i.val) with
    | false => rfl
    | true => exact decide_eq_true (hpower i).2
  have hmod : c.pos % 8 < 8 := Nat.mod_lt _ (by decide)
  rw [testBit, getElem?_bitsOf]
  cases hbyte : buf[c.pos / 8]? with
  | none => simp
  | some b =>
    have hbit := hmask ⟨c.pos % 8, hmod⟩ b
    dsimp only at hbit ⊢
    rw [hbit, Option.map_some]
    constructor
    · intro h
      cases h
      exact ⟨rfl, rfl⟩
    · rintro ⟨h, rfl⟩
      cases h
      rfl

theorem getElem?_of_lt (h : n < 8 * buf.length) :
    ∃ one, (bitsOf buf)[n]? = some one ∧
      (bitsOf buf).drop n = one :: (bitsOf buf).drop (n + 1) := by
  rw [← length_bitsOf] at h
  exact ⟨_, List.getElem?_eq_getElem h, List.drop_eq_getElem_cons h⟩

theorem strlen_eq_ok : strlen buf c = .ok (length, c') ↔
    length ∈ buf.findIdx? (· = 0) ∧ c' = { c with reach := max c.reach (length + 1) } := by
  rw [strlen]
  cases buf.findIdx? (· = 0) with
  | none => simp
  | some z =>
    constructor
    · intro h
      cases h
      exact ⟨rfl, rfl⟩
    · rintro ⟨h, rfl⟩
      cases h
      rfl

/-- Where `GetU` can be, with `n` bits to go, if it is behind all of them. -/
theorem getULoop_ok (h : getULoop buf n value c = .ok (v, c')) :
    c'.pos ≤ c.pos + n ∧ c.reach ≤ c'.reach ∧ (0 < n → ∃ length ∈ buf.findIdx? (· = 0),
      length < c'.reach ∧
        (c'.pos = c.pos + n → c.pos + n ≤ 8 * length ∧ c.pos + n < 2 ^ 32)) := by
  induction n generalizing value c with
  | zero =>
    cases h
    exact ⟨le_rfl, le_rfl, nofun⟩
  | succ n ih =>
    rw [getULoop] at h
    obtain ⟨⟨length, c₁⟩, hlength, h⟩ := bind_eq_ok.mp h
    obtain ⟨hfirst, rfl⟩ := strlen_eq_ok.mp hlength
    dsimp only at h
    split at h
    · cases h
      dsimp only
      exact ⟨by omega, le_max_left _ _, fun _ => ⟨length, hfirst, by omega, by omega⟩⟩
    · rename_i hinside
      obtain ⟨⟨one, c₂⟩, hbit, h⟩ := bind_eq_ok.mp h
      obtain ⟨-, rfl⟩ := testBit_eq_ok.mp hbit
      obtain ⟨hpos, hreach, hlater⟩ := ih h
      dsimp only at hpos hreach hlater hinside
      have hmod := Nat.mod_le (c.pos + 1) (2 ^ 32)
      refine ⟨by omega, by omega, fun _ => ⟨length, hfirst, by omega, fun hall => ?_⟩⟩
      have hnext : (c.pos + 1) % 2 ^ 32 = c.pos + 1 := by omega
      have hlt : c.pos + 1 < 2 ^ 32 := hnext ▸ Nat.mod_lt _ (by decide)
      rw [hnext] at hlater
      cases n with
      | zero => exact ⟨by omega, hlt⟩
      | succ n =>
        obtain ⟨length', hfirst', -, hlater⟩ := hlater (Nat.succ_pos n)
        obtain rfl := Option.mem_unique hfirst hfirst'
        obtain ⟨h₁, h₂⟩ := hlater (by omega)
        exact ⟨by omega, by omega⟩

/-- A number of `w` bits that takes one more bit at its end, with `n` to go. -/
theorem shiftIn_fits {w : Nat} (hvalue : (value + 1) * 2 ^ (n + 1) ≤ 2 ^ w) (one : Bool) :
    2 * value % 2 ^ w = 2 * value ∧ (2 * value + one.toNat + 1) * 2 ^ n ≤ 2 ^ w := by
  have hpow : 2 ^ 1 ≤ 2 ^ (n + 1) := Nat.pow_le_pow_right (by decide) (Nat.succ_pos n)
  have hsmall : 2 * value + one.toNat + 1 ≤ (value + 1) * 2 := by cases one <;> simp <;> omega
  constructor
  · have hle := (Nat.mul_le_mul_left (value + 1) hpow).trans hvalue
    exact Nat.mod_eq_of_lt (by omega)
  · calc (2 * value + one.toNat + 1) * 2 ^ n ≤ (value + 1) * 2 * 2 ^ n :=
          Nat.mul_le_mul_right _ hsmall
      _ = (value + 1) * 2 ^ (n + 1) := by rw [Nat.pow_succ]; ring
      _ ≤ 2 ^ w := hvalue

theorem shiftIn_value {pos : Nat} {bits : List Bool} (hlength : pos + (n + 1) ≤ bits.length)
    (hdrop : bits.drop pos = one :: bits.drop (pos + 1)) :
    (2 * value + one.toNat) * 2 ^ n + bitsValue ((bits.drop (pos + 1)).take n) =
      value * 2 ^ (n + 1) + bitsValue ((bits.drop pos).take (n + 1)) := by
  have hlen : ((bits.drop (pos + 1)).take n).length = n := by
    rw [List.length_take, List.length_drop]
    omega
  rw [hdrop, List.take_succ_cons, bitsValue_cons, hlen]
  ring

/-- Before the first zero byte `GetU` reads the bits. -/
theorem getULoop_inside (hfirst : length ∈ buf.findIdx? (· = 0)) (hpos : c.pos + n ≤ 8 * length)
    (hlt : c.pos + n < 2 ^ 32) (hvalue : (value + 1) * 2 ^ n ≤ 2 ^ 32) :
    ∃ c', getULoop buf n value c =
        .ok (value * 2 ^ n + bitsValue (((bitsOf buf).drop c.pos).take n), c') ∧
      c'.pos = c.pos + n ∧ c'.reach ≤ max c.reach (length + 1) := by
  induction n generalizing value c with
  | zero => exact ⟨c, by simp [getULoop, bitsValue], rfl, le_max_left _ _⟩
  | succ n ih =>
    have hin : length < buf.length := (List.findIdx?_eq_some_iff_findIdx_eq.mp hfirst).1
    obtain ⟨one, hone, hdrop⟩ := @getElem?_of_lt buf c.pos (by omega)
    obtain ⟨hdouble, hfits⟩ := shiftIn_fits hvalue one
    have hnext : (c.pos + 1) % 2 ^ 32 = c.pos + 1 := Nat.mod_eq_of_lt (by omega)
    obtain ⟨c', hrest, hpos', hreach⟩ := @ih (2 * value + one.toNat)
      { pos := c.pos + 1, reach := max (max c.reach (length + 1)) (c.pos / 8 + 1) }
      (by dsimp only; omega) (by dsimp only; omega) hfits
    refine ⟨c', ?_, by dsimp only at hpos'; omega, by dsimp only at hreach; omega⟩
    have hbit : testBit buf { c with reach := max c.reach (length + 1) } = _ :=
      testBit_eq_ok.mpr ⟨hone, rfl⟩
    rw [getULoop, strlen_eq_ok.mpr ⟨hfirst, rfl⟩]
    simp only [bind, Except.bind]
    rw [if_neg (by omega), hbit]
    dsimp only
    rw [hnext, hdouble, hrest, shiftIn_value (by rw [length_bitsOf]; omega) hdrop]

theorem leadingZeros_cons (bits : List Bool) :
    leadingZeros (one :: bits) = if one then 0 else leadingZeros bits + 1 := by
  cases one <;> simp [leadingZeros]

theorem leadingZeros_take (bits : List Bool) (n : Nat) :
    leadingZeros (bits.take n) = min n (leadingZeros bits) := by
  induction bits generalizing n with
  | nil => simp [leadingZeros]
  | cons one bits ih =>
    cases n with
    | zero => simp [leadingZeros]
    | succ n =>
      rw [List.take_succ_cons, leadingZeros_cons, leadingZeros_cons, ih]
      cases one <;> simp

/-- The first loop of `GetUe` stops at a one or at its limit. -/
theorem skipZeros_eq (hpos : 0 < n → c.pos + n ≤ 8 * size) (hsize : size ≤ buf.length) :
    ∃ c', skipZeros buf n value c =
        .ok (value + min n (leadingZeros ((bitsOf buf).drop c.pos)), c') ∧
      c'.pos = c.pos + min n (leadingZeros ((bitsOf buf).drop c.pos)) ∧
      c'.reach ≤ max c.reach size := by
  induction n generalizing value c with
  | zero => exact ⟨c, by simp [skipZeros], by simp, le_max_left _ _⟩
  | succ n ih =>
    have hpos := hpos (Nat.succ_pos n)
    obtain ⟨one, hone, hdrop⟩ := @getElem?_of_lt buf c.pos (by omega)
    have hbit : testBit buf c = _ := testBit_eq_ok.mpr ⟨hone, rfl⟩
    rw [skipZeros, hbit, hdrop, leadingZeros_cons]
    simp only [bind, Except.bind]
    cases one with
    | true => exact ⟨_, rfl, rfl, by dsimp only; omega⟩
    | false =>
      obtain ⟨c', hskip, hpos', hreach⟩ := @ih (value + 1)
        { pos := c.pos + 1, reach := max c.reach (c.pos / 8 + 1) } (by dsimp only; omega)
      dsimp only at hskip hpos' hreach
      simp only [Bool.false_eq_true, if_false]
      refine ⟨c', ?_, by omega, by omega⟩
      rw [hskip]
      congr 2
      omega

theorem readSuffix_ok (h : readSuffix buf n value c = .ok (v, c')) :
    c'.pos ≤ c.pos + n ∧ (c'.pos = c.pos + n → 0 < n → c.pos + n < 2 ^ 32) := by
  induction n generalizing value c with
  | zero =>
    cases h
    exact ⟨le_rfl, nofun⟩
  | succ n ih =>
    rw [readSuffix] at h
    obtain ⟨⟨one, c₁⟩, hbit, h⟩ := bind_eq_ok.mp h
    obtain ⟨-, rfl⟩ := testBit_eq_ok.mp hbit
    obtain ⟨hpos, hlater⟩ := ih h
    dsimp only at hpos hlater
    have hmod := Nat.mod_le (c.pos + 1) (2 ^ 32)
    refine ⟨by omega, fun hall _ => ?_⟩
    have hnext : (c.pos + 1) % 2 ^ 32 = c.pos + 1 := by omega
    have hlt : c.pos + 1 < 2 ^ 32 := hnext ▸ Nat.mod_lt _ (by decide)
    rcases Nat.eq_zero_or_pos n with rfl | hn
    · omega
    · have := hlater (by omega) hn
      omega

theorem readSuffix_inside (hpos : c.pos + n ≤ 8 * size) (hsize : size ≤ buf.length)
    (hlt : c.pos + n < 2 ^ 32) (hvalue : (value + 1) * 2 ^ n ≤ 2 ^ 64) :
    ∃ c', readSuffix buf n value c =
        .ok (value * 2 ^ n + bitsValue (((bitsOf buf).drop c.pos).take n), c') ∧
      c'.pos = c.pos + n ∧ c'.reach ≤ max c.reach size := by
  induction n generalizing value c with
  | zero => exact ⟨c, by simp [readSuffix, bitsValue], rfl, le_max_left _ _⟩
  | succ n ih =>
    obtain ⟨one, hone, hdrop⟩ := @getElem?_of_lt buf c.pos (by omega)
    obtain ⟨hdouble, hfits⟩ := shiftIn_fits hvalue one
    have hnext : (c.pos + 1) % 2 ^ 32 = c.pos + 1 := Nat.mod_eq_of_lt (by omega)
    obtain ⟨c', hrest, hpos', hreach⟩ := @ih (2 * value + one.toNat)
      { pos := c.pos + 1, reach := max c.reach (c.pos / 8 + 1) }
      (by dsimp only; omega) (by dsimp only; omega) hfits
    refine ⟨c', ?_, by dsimp only at hpos'; omega, by dsimp only at hreach; omega⟩
    have hbit : testBit buf c = _ := testBit_eq_ok.mpr ⟨hone, rfl⟩
    rw [readSuffix, hbit]
    simp only [bind, Except.bind]
    rw [hnext, hdouble, hrest, shiftIn_value (by rw [length_bitsOf]; omega) hdrop]

end Loops

section Calls

variable {rbsp : List Byte × Nat} {c c' : BitCursor} {v : Int}

theorem getU_eq_ok {bitCount : Nat} {buf : List Byte} : getU bitCount buf c = .ok (v, c') ↔
    ∃ value : Nat, getULoop buf bitCount 0 { c with reach := 0 } = .ok (value, c') ∧
      v = int32 value := by
  rw [getU, bind_eq_ok]
  constructor
  · rintro ⟨⟨value, c₁⟩, hloop, h⟩
    cases h
    exact ⟨value, hloop, rfl⟩
  · rintro ⟨value, hloop, rfl⟩
    exact ⟨(value, c'), hloop, rfl⟩

theorem getUe_eq_ok {buf : List Byte} {nLen : Nat} : getUe buf nLen c = .ok (v, c') ↔
    ∃ nZeroNum c₁ dwRet,
      skipZeros buf (nLen * 8 % 2 ^ 32 - c.pos) 0 { c with reach := 0 } = .ok (nZeroNum, c₁) ∧
      readSuffix buf nZeroNum 0 { c₁ with pos := (c₁.pos + 1) % 2 ^ 32 } = .ok (dwRet, c') ∧
      nZeroNum ≤ 30 ∧ v = int32 (2 ^ nZeroNum - 1 + dwRet : Nat) := by
  rw [getUe, bind_eq_ok]
  constructor
  · rintro ⟨⟨nZeroNum, c₁⟩, hzeros, h⟩
    obtain ⟨⟨dwRet, c₂⟩, hsuffix, h⟩ := bind_eq_ok.mp h
    dsimp only at h
    split at h
    · cases h
    · cases h
      exact ⟨nZeroNum, c₁, dwRet, hzeros, hsuffix, by omega, rfl⟩
  · rintro ⟨nZeroNum, c₁, dwRet, hzeros, hsuffix, hle, rfl⟩
    refine ⟨_, hzeros, bind_eq_ok.mpr ⟨_, hsuffix, ?_⟩⟩
    dsimp only
    rw [if_neg (by omega)]
    rfl

theorem length_rbspBits (hsize : rbsp.2 ≤ rbsp.1.length) : (rbspBits rbsp).length = 8 * rbsp.2 := by
  rw [rbspBits, length_bitsOf, List.length_take, Nat.min_eq_left hsize]

theorem drop_rbspBits (pos : Nat) :
    (rbspBits rbsp).drop pos = ((bitsOf rbsp.1).drop pos).take (8 * rbsp.2 - pos) := by
  rw [rbspBits, bitsOf_take, List.drop_take]

theorem take_drop_rbspBits {pos n : Nat} (hle : pos + n ≤ 8 * rbsp.2) :
    ((rbspBits rbsp).drop pos).take n = ((bitsOf rbsp.1).drop pos).take n := by
  rw [drop_rbspBits, List.take_take, Nat.min_eq_left (by omega)]

theorem int32_bitsValue {bits : List Bool} {n : Nat} (hn : n ≤ 31) :
    int32 (bitsValue (bits.take n) : Nat) = (bitsValue (bits.take n) : Nat) := by
  have hlt : bitsValue (bits.take n) < 2 ^ 31 :=
    (bitsValue_take_lt n bits).trans_le (Nat.pow_le_pow_right (by decide) hn)
  exact int32_of_bounds (by omega) (by omega)

theorem exact_u_iff (bitCount : Fin 32) (hsize : rbsp.2 ≤ rbsp.1.length) :
    Exact rbsp (.u bitCount, c) ↔ Inside rbsp (.u bitCount, c) := by
  have hlength := length_rbspBits hsize
  constructor
  · rintro ⟨v, rest, c', hnext, hread, hpos, hreach⟩
    obtain ⟨⟨value, rest⟩, hbits, hrest⟩ := Option.map_eq_some_iff.mp hnext
    cases hrest
    obtain ⟨hle, -, rfl⟩ := readBits_some hbits
    obtain ⟨value', hloop, -⟩ := getU_eq_ok.mp hread
    obtain ⟨hmoved, -, hinside⟩ := getULoop_ok hloop
    dsimp only at hle hpos hreach hmoved hinside
    rw [List.length_drop, hlength] at hle
    rw [List.length_drop, List.length_drop, hlength] at hpos
    rcases Nat.eq_zero_or_pos bitCount.val with hzero | hsome
    · rw [hzero] at hloop
      cases hloop
      dsimp only at hpos
      exact ⟨by omega, fun h => absurd h (by omega)⟩
    · obtain ⟨length, hfirst, hlt, hstop⟩ := hinside hsome
      clear hinside
      obtain ⟨h₁, h₂⟩ := hstop (by omega)
      exact ⟨by omega, fun _ => ⟨length, hfirst, by omega, h₁, h₂⟩⟩
  · rintro ⟨hle, hinside⟩
    have hread : ∃ c', getULoop rbsp.1 bitCount 0 { c with reach := 0 } =
          .ok (bitsValue (((bitsOf rbsp.1).drop c.pos).take bitCount), c') ∧
        c'.pos = c.pos + bitCount ∧ c'.reach ≤ rbsp.2 := by
      rcases Nat.eq_zero_or_pos bitCount.val with hzero | hsome
      · rw [hzero]
        exact ⟨{ c with reach := 0 }, by simp [getULoop, bitsValue], rfl, Nat.zero_le _⟩
      · obtain ⟨length, hfirst, hlt, hpos, hcounter⟩ := hinside hsome
        obtain ⟨c', hloop, hpos', hreach⟩ := @getULoop_inside rbsp.1 bitCount 0 length
          { c with reach := 0 } hfirst hpos hcounter
          (by rw [Nat.zero_add, Nat.one_mul]; exact Nat.pow_le_pow_right (by decide) bitCount.isLt.le)
        rw [Nat.zero_mul, Nat.zero_add] at hloop
        exact ⟨c', hloop, hpos', by dsimp only at hreach; omega⟩
    obtain ⟨c', hloop, hpos, hreach⟩ := hread
    have hbits : readBits bitCount ((rbspBits rbsp).drop c.pos) =
        some (bitsValue (((bitsOf rbsp.1).drop c.pos).take bitCount),
          ((rbspBits rbsp).drop c.pos).drop bitCount) := by
      rw [readBits_of_le (by rw [List.length_drop, hlength]; omega), take_drop_rbspBits hle]
    refine ⟨_, ((rbspBits rbsp).drop c.pos).drop bitCount, c', ?_, getU_eq_ok.mpr ⟨_, hloop, rfl⟩,
      ?_, hreach⟩
    · rw [SpsCall.next, hbits, int32_bitsValue (by omega)]
      rfl
    · rw [List.length_drop, List.length_drop, hlength]
      omega

/-- The first loop of `GetUe` passes the zeros of the RBSP before its limit. -/
theorem skipZeros_rbsp (hsize : rbsp.2 ≤ rbsp.1.length) :
    ∃ c', skipZeros rbsp.1 (rbsp.2 * 8 % 2 ^ 32 - c.pos) 0 { c with reach := 0 } =
        .ok (min (8 * rbsp.2 % 2 ^ 32 - c.pos) (leadingZeros ((rbspBits rbsp).drop c.pos)), c') ∧
      c'.pos = c.pos +
        min (8 * rbsp.2 % 2 ^ 32 - c.pos) (leadingZeros ((rbspBits rbsp).drop c.pos)) ∧
      c'.reach ≤ rbsp.2 := by
  have hlimit := Nat.mod_le (8 * rbsp.2) (2 ^ 32)
  obtain ⟨c', hskip, hpos, hreach⟩ := @skipZeros_eq rbsp.1 (8 * rbsp.2 % 2 ^ 32 - c.pos) 0 rbsp.2
    { c with reach := 0 } (by dsimp only; omega) hsize
  have hzeros : min (8 * rbsp.2 % 2 ^ 32 - c.pos) (leadingZeros ((bitsOf rbsp.1).drop c.pos)) =
      min (8 * rbsp.2 % 2 ^ 32 - c.pos) (leadingZeros ((rbspBits rbsp).drop c.pos)) := by
    rw [drop_rbspBits, leadingZeros_take]
    omega
  dsimp only at hskip hpos hreach
  rw [hzeros] at hskip hpos
  rw [Nat.zero_add] at hskip
  rw [Nat.mul_comm rbsp.2]
  exact ⟨c', hskip, hpos, by omega⟩

theorem inside_of_exact_ue (hsize : rbsp.2 ≤ rbsp.1.length) (h : Exact rbsp (.ue, c)) :
    Inside rbsp (.ue, c) := by
  have hlength := length_rbspBits hsize
  obtain ⟨v, rest, c', hnext, hread, hpos, -⟩ := h
  obtain ⟨⟨value, rest⟩, hue, hrest⟩ := Option.map_eq_some_iff.mp hnext
  cases hrest
  have hle := readUe_some hue
  rw [readUe_of_le hle] at hue
  cases hue
  obtain ⟨nZeroNum, c₁, dwRet, hzeros, hsuffix, h30, -⟩ := getUe_eq_ok.mp hread
  obtain ⟨c₂, hskip, hpos₂, -⟩ := @skipZeros_rbsp rbsp c hsize
  rw [hskip] at hzeros
  cases hzeros
  obtain ⟨hmoved, hcounter⟩ := readSuffix_ok hsuffix
  dsimp only at hle hpos hmoved hcounter
  rw [List.length_drop, hlength] at hle
  rw [List.length_drop, List.length_drop, hlength] at hpos
  rw [Inside]
  generalize leadingZeros ((rbspBits rbsp).drop c.pos) = zeros at *
  have hmod := Nat.mod_le (c₁.pos + 1) (2 ^ 32)
  have hlt := Nat.mod_lt (c₁.pos + 1) (show 0 < 2 ^ 32 by decide)
  have hall : min (8 * rbsp.2 % 2 ^ 32 - c.pos) zeros = zeros := by omega
  rw [hall] at h30 hcounter hmoved
  refine ⟨h30, by omega, by omega, ?_⟩
  rcases Nat.eq_zero_or_pos zeros with hzero | hsome
  · omega
  · have := hcounter (by omega) hsome
    omega

theorem exact_ue_of_inside (hsize : rbsp.2 ≤ rbsp.1.length) (h : Inside rbsp (.ue, c)) :
    Exact rbsp (.ue, c) := by
  have hlength := length_rbspBits hsize
  obtain ⟨h30, hin, hlimit, hcounter⟩ := h
  obtain ⟨c₁, hskip, hpos₁, hreach₁⟩ := @skipZeros_rbsp rbsp c hsize
  have hue : readUe ((rbspBits rbsp).drop c.pos) = _ :=
    readUe_of_le (by rw [List.length_drop, hlength]; omega)
  rw [List.drop_drop, take_drop_rbspBits (by omega)] at hue
  generalize leadingZeros ((rbspBits rbsp).drop c.pos) = zeros at *
  have hall : min (8 * rbsp.2 % 2 ^ 32 - c.pos) zeros = zeros := by omega
  rw [hall] at hskip hpos₁
  have hnext : (c₁.pos + 1) % 2 ^ 32 = c.pos + (zeros + 1) := by omega
  obtain ⟨c', hsuffix, hpos, hreach⟩ := @readSuffix_inside rbsp.1 zeros 0 rbsp.2
    { c₁ with pos := c.pos + (zeros + 1) } (by dsimp only; omega) hsize (by dsimp only; omega)
    (by rw [Nat.zero_add, Nat.one_mul]; exact Nat.pow_le_pow_right (by decide) (by omega))
  dsimp only at hsuffix hpos hreach
  rw [Nat.zero_mul, Nat.zero_add] at hsuffix
  have hvalue : 2 ^ zeros - 1 +
      bitsValue (((bitsOf rbsp.1).drop (c.pos + (zeros + 1))).take zeros) < 2 ^ 31 := by
    have hlt := bitsValue_take_lt zeros ((bitsOf rbsp.1).drop (c.pos + (zeros + 1)))
    have hpow : 2 ^ zeros ≤ 2 ^ 30 := Nat.pow_le_pow_right (by decide) h30
    omega
  refine ⟨_, ((rbspBits rbsp).drop c.pos).drop (2 * zeros + 1), c', ?_,
    getUe_eq_ok.mpr ⟨zeros, c₁, _, hskip, by rw [hnext]; exact hsuffix, h30, rfl⟩, ?_, by omega⟩
  · rw [SpsCall.next, hue, int32_of_bounds (by omega) (by omega)]
    rfl
  · rw [List.length_drop, List.length_drop, hlength]
    omega

theorem exact_iff_inside (hsize : rbsp.2 ≤ rbsp.1.length) (call : SpsCall × BitCursor) :
    Exact rbsp call ↔ Inside rbsp call := by
  obtain ⟨call, c⟩ := call
  cases call with
  | u bitCount => exact exact_u_iff bitCount hsize
  | ue => exact ⟨inside_of_exact_ue hsize, exact_ue_of_inside hsize⟩

end Calls

section Decoder

theorem length_moveDown (i tmpBufSize : Nat) (buf : List Byte) :
    (moveDown i tmpBufSize buf).length = buf.length := List.length_mapIdx

/-- `ExtractNaluRbsp` never makes the RBSP longer than its buffer. -/
theorem extractLoop_size {tmpBufSize n i : Nat} {rbsp : List Byte × Nat}
    (hsize : rbsp.2 ≤ rbsp.1.length) :
    (extractLoop tmpBufSize n i rbsp).2 ≤ (extractLoop tmpBufSize n i rbsp).1.length := by
  induction n generalizing i rbsp with
  | zero => exact hsize
  | succ n ih =>
    obtain ⟨buf, bufSize⟩ := rbsp
    rw [extractLoop]
    split
    · apply ih
      rw [length_moveDown]
      dsimp only at hsize ⊢
      omega
    · exact ih hsize

variable {sps : List Byte}

theorem rbspOf_size : (rbspOf sps).2 ≤ (rbspOf sps).1.length :=
  extractLoop_size (Nat.mod_le _ _)

/-- The reads of the decoder are all exact just where they are all inside the RBSP, before its
first zero byte. -/
theorem spsCalls_exact_iff (sps : List Byte) :
    (∀ call ∈ spsCalls sps, Exact (rbspOf sps) call) ↔
      ∀ call ∈ spsCalls sps, Inside (rbspOf sps) call :=
  forall₂_congr fun call _ => exact_iff_inside rbspOf_size call

/-- A baseline parameter set of 352 by 288 whose constraint flags are all zero. -/
def baselineSps : List Byte :=
  [0x67, 0x42, 0x00, 0x1E, 0xDA, 0x05, 0x82, 0x5A, 0x01, 0xE2, 0xC5, 0xD4]

/-- `GetU` does not get over the zero byte behind its profile. -/
theorem baselineSps_not_exact :
    ¬ ∀ sps, ∀ call ∈ spsCalls sps, Exact (rbspOf sps) call := by
  intro hall
  have hcall : (spsCalls baselineSps)[4]? = some (.u 1, { pos := 16, reach := 3 }) := by
    decide +kernel
  have hexact := hall baselineSps _ (List.mem_of_getElem? hcall)
  obtain ⟨-, hinside⟩ := (exact_iff_inside rbspOf_size _).mp hexact
  obtain ⟨length, hfirst, -, hpos, -⟩ := hinside (by decide)
  have hzero : (rbspOf baselineSps).1.findIdx? (· = 0) = some 2 := by decide +kernel
  rw [hzero] at hfirst
  cases hfirst
  exact absurd hpos (by decide)

theorem next_suffix {call : SpsCall} {bits rest : List Bool} {v : Int}
    (h : call.next bits = some (v, rest)) : rest <:+ bits := by
  cases call with
  | u bitCount =>
    obtain ⟨⟨value, rest'⟩, hread, hrest⟩ := Option.map_eq_some_iff.mp h
    cases hrest
    obtain ⟨-, -, rfl⟩ := readBits_some hread
    exact List.drop_suffix _ _
  | ue =>
    obtain ⟨⟨value, rest'⟩, hread, hrest⟩ := Option.map_eq_some_iff.mp h
    cases hrest
    rw [readUe_of_le (readUe_some hread)] at hread
    cases hread
    exact List.drop_suffix _ _

/-- The bits that are left behind the cursor. -/
def Left (rbsp : List Byte × Nat) (c : BitCursor) (bits : List Bool) : Prop :=
  bits = (rbspBits rbsp).drop c.pos

theorem Exact.left {rbsp : List Byte × Nat} {call : SpsCall × BitCursor} (h : Exact rbsp call)
    {bits : List Bool} (hbits : Left rbsp call.2 bits) :
    ∃ v c' rest, read rbsp call.1 call.2 = .ok (v, c') ∧ call.1.next bits = some (v, rest) ∧
      Left rbsp c' rest := by
  obtain ⟨v, rest, c', hnext, hread, hpos, -⟩ := h
  have hsuffix := (next_suffix hnext).trans (List.drop_suffix _ _)
  refine ⟨v, c', rest, hread, by rw [hbits]; exact hnext, ?_⟩
  rw [Left, List.suffix_iff_eq_drop.mp hsuffix]
  congr 1
  omega

/-- If its reads are all inside the RBSP, the decoder returns the size that it reads from the
bits of the RBSP one after the other. -/
theorem getVideoSize_of_inside (hlen : 10 ≤ sps.length)
    (hinside : ∀ call ∈ spsCalls sps, Inside (rbspOf sps) call) :
    ∃ size rest, decodeSps.run SpsCall.next (rbspBits (rbspOf sps)) = some (size, rest) ∧
      getVideoSize sps = .ok size := by
  rw [spsCalls, if_neg (by omega)] at hinside
  have hstart : Left (rbspOf sps) {} (rbspBits (rbspOf sps)) := rfl
  obtain ⟨size, c, rest, hrun, hrun', -⟩ := ReadProgram.run_of_calls decodeSps
    (fun call hcall _ hbits =>
      ((exact_iff_inside rbspOf_size call).mpr (hinside call hcall)).left hbits) hstart
  refine ⟨size, rest, hrun', ?_⟩
  rw [getVideoSize, if_neg (by omega), hrun]
  rfl

-- the parameter set of the unit tests, which has its first zero byte behind all the reads
example : getVideoSize [0x67, 0x4D, 0x40, 0x15, 0x96, 0x56, 0x0B, 0x04, 0x9B, 0x08, 0x48, 0x80,
    0x00, 0x01, 0xF4, 0x00, 0x00, 0x30, 0xD4, 0x30, 0x60, 0x00, 0x73, 0xF6, 0x00, 0xE8, 0x35, 0x70,
    0x00, 0x50] = .ok (352, 288) := by decide +kernel

end Decoder

end MediaDescription

end WifiDisplay
