import WifiDisplay.DataBuffer

/-! What the functions of `DataBuffer` leave in an object, and when they leave what a list of
bytes would hold. -/

namespace WifiDisplay.DataBuffer

variable {b b' : DataBuffer} {memory : Memory} {n : Int}

def contents (b : DataBuffer) : List Byte := (b.data.getD []).take b.size.toNat

def allocated (b : DataBuffer) : Int := (b.data.getD []).length

structure Valid (b : DataBuffer) : Prop where
  size_nonneg : 0 ≤ b.size
  size_le : b.size ≤ b.capacity
  capacity_le : b.capacity ≤ b.allocated
  capacity_lt : b.capacity < 2 ^ 31

structure Kept (before b' : DataBuffer) : Prop where
  size : b'.size = before.size
  capacity : b'.capacity = before.capacity
  contents : b'.contents = before.contents

/-- The object may be left as it was only by a call that did not get its memory. -/
def Follows (starved : Prop) (before : DataBuffer) (leaves : List Byte → Prop) (b' : DataBuffer) :
    Prop :=
  b'.Valid ∧ (starved → Kept before b') ∧ (¬ starved → leaves b'.contents)

theorem Kept.refl (b : DataBuffer) : Kept b b := ⟨rfl, rfl, rfl⟩

theorem valid_empty : Valid {} := ⟨by decide, by decide, by decide, by decide⟩

theorem contents_empty : contents {} = [] := rfl

theorem Valid.contents_length (hb : b.Valid) : (b.contents.length : Int) = b.size := by
  have := hb.size_nonneg
  have := hb.size_le
  have := hb.capacity_le
  rw [allocated] at this
  rw [contents, List.length_take]
  omega

theorem Valid.contents_length_toNat (hb : b.Valid) : b.contents.length = b.size.toNat := by
  have := hb.contents_length
  omega

theorem Valid.contents_eq_nil (hb : b.Valid) : b.contents = [] ↔ b.size = 0 := by
  rw [← List.length_eq_zero_iff]
  have := hb.contents_length
  omega

theorem Valid.exists_data (hb : b.Valid) (h : 0 < b.capacity) :
    ∃ block, b.data = some block ∧ b.capacity ≤ block.length ∧
      b.contents = block.take b.size.toNat := by
  have hcapacity := hb.capacity_le
  cases hdata : b.data with
  | none =>
    simp only [allocated, hdata, Option.getD_none, List.length_nil] at hcapacity
    omega
  | some block =>
    simp only [allocated, hdata, Option.getD_some] at hcapacity
    exact ⟨block, rfl, hcapacity, by simp only [contents, hdata, Option.getD_some]⟩

theorem allocate_none (h : n < 0 ∨ memory = none) : allocate memory n = none := by
  rw [allocate]
  split
  · rfl
  · rcases h with h | rfl
    · contradiction
    · rfl

theorem exists_allocate (hn : 0 ≤ n) (h : memory ≠ none) :
    ∃ block, allocate memory n = some block ∧ (block.length : Int) = n := by
  obtain ⟨bytes, rfl⟩ := Option.ne_none_iff_exists'.mp h
  refine ⟨_, by rw [allocate, if_neg (by omega)]; rfl, ?_⟩
  rw [List.length_map, List.length_range]
  omega

section

variable {block : ByteBlock} {src : List Byte} {offset destMax count : Int}

theorem memcpyS_copied (hoffset : 0 ≤ offset) (hdest : 0 < destMax)
    (hblock : offset + destMax ≤ block.length) (hcount : 0 ≤ count) (hfits : count ≤ destMax)
    (hsrc : count ≤ src.length) :
    memcpyS (some block) offset destMax (some src) count =
      .ok (some (block.take offset.toNat ++ src.take count.toNat ++
        block.drop (offset.toNat + count.toNat)), true) := by
  have hload : ByteBlock.load src 0 count.toNat = some (src.take count.toNat) :=
    ByteBlock.load_eq_some.mpr ⟨by omega, rfl⟩
  have hlength : (src.take count.toNat).length = count.toNat := by
    rw [List.length_take]
    omega
  have hstore := ByteBlock.store_eq_some.mpr
    ⟨show offset.toNat + (src.take count.toNat).length ≤ block.length by omega, rfl⟩
  rw [hlength] at hstore
  rw [memcpyS, if_neg (by omega), if_neg (by omega), hload]
  dsimp only
  rw [hstore]

theorem memcpyS_cleared (hoffset : 0 ≤ offset) (hdest : 0 < destMax)
    (hblock : offset + destMax ≤ block.length) (hcount : count < 0 ∨ destMax < count) :
    memcpyS (some block) offset destMax (some src) count =
      .ok (some (block.take offset.toNat ++ List.replicate destMax.toNat 0 ++
        block.drop (offset.toNat + destMax.toNat)), false) := by
  have hstore := ByteBlock.store_eq_some.mpr
    ⟨show offset.toNat + (List.replicate destMax.toNat (0 : Byte)).length ≤ block.length by
      rw [List.length_replicate]; omega, rfl⟩
  rw [List.length_replicate] at hstore
  rw [memcpyS, if_neg (by omega), if_pos hcount, hstore]

theorem memcpyS_refused {dest : Option ByteBlock} (h : dest = none ∨ destMax ≤ 0) :
    memcpyS dest offset destMax (some src) count = .ok (dest, false) := by
  cases dest with
  | none => rfl
  | some block =>
    rw [memcpyS]
    exact if_pos (h.resolve_left (by simp))

end

/-- A block whose front has been written holds just what was written. -/
theorem take_front {front rest : List Byte} {n : Nat} (h : front.length = n) :
    (front ++ rest).take n = front := by
  subst h
  exact List.take_left' rfl

theorem written_follows {starved : Prop} {before : DataBuffer} {leaves : List Byte → Prop}
    {size capacity : Int} {block : ByteBlock} (hstarved : ¬ starved) (hsize : 0 ≤ size)
    (hle : size ≤ capacity) (hblock : capacity ≤ block.length) (hlt : capacity < 2 ^ 31)
    (hleaves : leaves (block.take size.toNat)) :
    Follows starved before leaves { size := size, capacity := capacity, data := some block } :=
  ⟨⟨hsize, hle, hblock, hlt⟩, fun h => absurd h hstarved, fun _ => hleaves⟩

theorem construct_follows (memory : Memory) (hn : n < 2 ^ 31) :
    ∃ b', construct memory n = .ok b' ∧
      Follows (memory = none ∧ 0 < n ∧ n ≤ maxCapacity) {} (· = []) b' := by
  by_cases hsize : n ≤ 0 ∨ maxCapacity < n
  · refine ⟨{}, by rw [construct, if_pos hsize], valid_empty, fun _ => Kept.refl _, fun _ => rfl⟩
  · by_cases hmemory : memory = none
    · refine ⟨{}, ?_, valid_empty, fun _ => Kept.refl _, fun _ => rfl⟩
      rw [construct, if_neg hsize, allocate_none (.inr hmemory)]
    · obtain ⟨block, hblock, hlength⟩ := exists_allocate (n := n + 1) (by omega) hmemory
      obtain ⟨block', hstore⟩ := ByteBlock.store_isSome block n.toNat [0] (by
        rw [List.length_singleton]; omega)
      have hlength' := ByteBlock.store_length hstore
      refine ⟨{ size := 0, capacity := n, data := some block' }, ?_,
        written_follows (fun h => hmemory h.1) (le_refl 0) (by omega) (by omega) hn rfl⟩
      rw [construct, if_neg hsize, hblock]
      dsimp only
      rw [hstore]

/-- A copy into a new block, which is a byte longer than the bytes. -/
theorem copied_follows {starved : Prop} {before : DataBuffer} {leaves : List Byte → Prop}
    {block : ByteBlock} (hb : b.Valid) (hstarved : ¬ starved) (hleaves : leaves b.contents) :
    Follows starved before leaves
      { size := b.size, capacity := b.size, data := some (b.contents ++ block) } := by
  have hlength := hb.contents_length
  have hsize := hb.size_nonneg
  refine written_follows hstarved hsize (le_refl _) ?_ (lt_of_le_of_lt hb.size_le hb.capacity_lt) ?_
  · rw [List.length_append]
    omega
  · rwa [take_front (by omega)]

theorem copyBlock_eq (hb : b.Valid) (hsize : b.size ≠ 0) (hlt : b.size < 2 ^ 31 - 1)
    (hmemory : memory ≠ none) :
    ∃ block rest, allocate memory (int32 (b.size + 1)) = some block ∧
      memcpyS (some block) 0 (int32 (b.size + 1)) b.data b.size = .ok (some (b.contents ++ rest), true) := by
  have hnonneg := hb.size_nonneg
  have hle := hb.size_le
  rw [int32_of_bounds (by omega) (by omega)]
  obtain ⟨block, hblock, hlength⟩ := exists_allocate (n := b.size + 1) (by omega) hmemory
  obtain ⟨data, hdata, hcapacity, hcontents⟩ := hb.exists_data (by omega)
  refine ⟨block, block.drop b.size.toNat, hblock, ?_⟩
  rw [hdata, memcpyS_copied (le_refl 0) (by omega) (by omega) hnonneg (by omega) (by omega), hcontents,
    Int.toNat_zero, Nat.zero_add]
  rfl

theorem copyBlock_none (hb : b.Valid) (h : ¬ b.size < 2 ^ 31 - 1 ∨ memory = none) :
    allocate memory (int32 (b.size + 1)) = none := by
  apply allocate_none
  rcases h with h | h
  · have := hb.size_le
    have := hb.capacity_lt
    obtain hsize : b.size = 2 ^ 31 - 1 := by omega
    left
    rw [hsize]
    decide
  · exact .inr h

/-- An object has a block as soon as it has bytes. -/
theorem Valid.copies_iff (hb : b.Valid) : (b.data.isSome = true ∧ b.size ≠ 0) ↔ b.size ≠ 0 := by
  refine ⟨fun h => h.2, fun h => ⟨?_, h⟩⟩
  have := hb.size_nonneg
  have := hb.size_le
  obtain ⟨block, hblock, -⟩ := hb.exists_data (by omega)
  rw [hblock]
  rfl

theorem assign_follows_iff (hb : b.Valid) (hb' : b'.Valid) :
    ∃ b'', b.assign memory b' = .ok b'' ∧
      (Follows (memory = none ∧ b'.size ≠ 0) b (· = b'.contents) b'' ↔
        b.contents = b'.contents ∨
          b'.size ≠ 0 ∧ (b'.size < 2 ^ 31 - 1 ∨ memory = none)) := by
  rw [assign]
  simp only [hb'.copies_iff]
  by_cases hsize : b'.size ≠ 0
  · rw [if_pos hsize]
    by_cases hok : b'.size < 2 ^ 31 - 1 ∧ memory ≠ none
    · obtain ⟨block, rest, hblock, hcopy⟩ := copyBlock_eq hb' hsize hok.1 hok.2
      refine ⟨_, by rw [hblock]; dsimp only; rw [hcopy]; rfl, ?_⟩
      exact iff_of_true (copied_follows hb' (fun h => hok.2 h.1) rfl) (.inr ⟨hsize, .inl hok.1⟩)
    · have hnone := @copyBlock_none b' memory hb' (by
        by_contra h
        rw [not_or, not_not] at h
        exact hok h)
      refine ⟨b, by rw [hnone], ?_⟩
      constructor
      · rintro ⟨-, -, hleaves⟩
        by_cases hmemory : memory = none
        · exact .inr ⟨hsize, .inr hmemory⟩
        · exact .inl (hleaves fun hstarved => hmemory hstarved.1)
      · rintro (h | ⟨-, h | h⟩)
        · exact ⟨hb, fun _ => Kept.refl _, fun _ => h⟩
        · refine ⟨hb, fun _ => Kept.refl _, fun hnot => ?_⟩
          exact absurd ⟨not_not.mp fun hmemory => hok ⟨h, hmemory⟩, hsize⟩ hnot
        · exact ⟨hb, fun _ => Kept.refl _, fun hnot => absurd ⟨h, hsize⟩ hnot⟩
  · rw [if_neg hsize]
    refine ⟨b, rfl, ?_⟩
    constructor
    · rintro ⟨-, -, hleaves⟩
      exact .inl (hleaves fun hstarved => hsize hstarved.2)
    · rintro (h | ⟨h, -⟩)
      · exact ⟨hb, fun _ => Kept.refl _, fun _ => h⟩
      · exact absurd h hsize

/-- A copy is an assignment to an object that is empty. -/
theorem copyConstruct_eq_assign (memory : Memory) (b : DataBuffer) :
    b.copyConstruct memory = assign memory {} b := rfl

theorem copyConstruct_follows_iff (hb : b.Valid) :
    ∃ b', b.copyConstruct memory = .ok b' ∧
      (Follows (memory = none ∧ b.size ≠ 0) {} (· = b.contents) b' ↔
        b.size < 2 ^ 31 - 1 ∨ memory = none) := by
  obtain ⟨b', hcopy, hiff⟩ := @assign_follows_iff {} b memory valid_empty hb
  rw [copyConstruct_eq_assign]
  refine ⟨b', hcopy, hiff.trans ?_⟩
  have hempty : ({} : DataBuffer).contents = b.contents ↔ b.size = 0 := by
    rw [← hb.contents_eq_nil]
    exact eq_comm
  rw [hempty]
  by_cases hsize : b.size = 0
  · exact iff_of_true (.inl hsize) (.inl (by omega))
  · simp [hsize]

theorem setCapacity_follows_iff (hb : b.Valid) (hn : n < 2 ^ 31) :
    Follows (memory = none ∧ 0 < n) b (· = if 0 < n then [] else b.contents)
        (b.setCapacity memory n) ↔ (0 < n → memory ≠ none ∨ b.capacity = 0) := by
  rw [setCapacity]
  by_cases hpos : n ≤ 0
  · rw [if_pos hpos]
    refine iff_of_true ⟨hb, fun _ => Kept.refl _, fun _ => ?_⟩ (fun h => by omega)
    rw [if_neg (by omega)]
  · have hpos' : 0 < n := by omega
    rw [if_neg hpos, if_pos hpos']
    by_cases hmemory : memory = none
    · rw [allocate_none (.inr hmemory)]
      constructor
      · rintro ⟨-, hkept, -⟩ -
        exact .inr (hkept ⟨hmemory, hpos'⟩).capacity.symm
      · intro h
        have hcapacity := (h hpos').resolve_left (not_not.mpr hmemory)
        have hsize : b.size = 0 := by
          have := hb.size_nonneg
          have := hb.size_le
          omega
        refine ⟨valid_empty, fun _ => ⟨hsize.symm, hcapacity.symm, ?_⟩, fun _ => rfl⟩
        rw [hb.contents_eq_nil.mpr hsize, contents_empty]
    · obtain ⟨block, hblock, hlength⟩ := exists_allocate (n := n) (by omega) hmemory
      rw [hblock]
      exact iff_of_true (written_follows (fun h => hmemory h.1) (le_refl 0) (by omega) (by omega) hn
        rfl) fun _ => .inl hmemory

theorem updateSize_valid_iff (hb : b.Valid) : (b.updateSize n).Valid ↔ 0 ≤ n ∨ b.capacity < n := by
  rw [updateSize]
  split
  · constructor
    · intro h
      exact .inl h.size_nonneg
    · rintro (h | h)
      · exact ⟨h, ‹_›, hb.capacity_le, hb.capacity_lt⟩
      · omega
  · refine iff_of_true hb (.inr (by omega))

theorem setSize_valid (hb : b.Valid) : (b.setSize n).Valid := by
  rw [setSize]
  split
  · exact hb
  · exact ⟨by dsimp only; omega, by dsimp only; omega, hb.capacity_le, hb.capacity_lt⟩

/-- A larger block gets the bytes of the one before. -/
theorem resize_grows (hb : b.Valid) (hn : n < 2 ^ 31) (hle : n ≤ maxCapacity) (hgrow : b.capacity < n)
    (hmemory : memory ≠ none) : ∃ b', b.resize memory n = .ok b' ∧
      Follows (memory = none ∧ 0 < n ∧ n ≤ maxCapacity ∧ n ≠ b.capacity) b (· = b.contents) b' := by
  have hlength := hb.contents_length
  have hnonneg := hb.size_nonneg
  have hsize_le := hb.size_le
  obtain ⟨block, hblock, hlength'⟩ := exists_allocate (n := n) (by omega) hmemory
  rw [resize, if_neg (by omega), if_pos hgrow, hblock]
  dsimp only
  by_cases hdata : b.data.isSome ∧ 0 < b.size
  · obtain ⟨data, hdata', hcapacity, hcontents⟩ := hb.exists_data (by omega)
    refine ⟨{ b with capacity := n, data := some (b.contents ++ block.drop b.size.toNat) }, ?_,
      written_follows (fun h => hmemory h.1) hnonneg (by omega) ?_ hn (take_front (by omega))⟩
    · rw [if_pos hdata, hdata', memcpyS_copied (le_refl 0) (by omega) (by omega) hnonneg
        (by omega) (by omega), ← hcontents, Int.toNat_zero, Nat.zero_add]
      rfl
    · rw [List.length_append, List.length_drop]
      omega
  · have hsize : b.size = 0 := by
      by_contra h
      obtain ⟨data, hdata', -⟩ := hb.exists_data (by omega)
      exact hdata ⟨by rw [hdata']; rfl, by omega⟩
    refine ⟨{ b with capacity := n, data := some block }, by rw [if_neg hdata],
      written_follows (fun h => hmemory h.1) hnonneg (by omega) (by omega) hn ?_⟩
    rw [hb.contents_eq_nil.mpr hsize, hsize]
    rfl

/-- A smaller block is an empty one. -/
theorem resize_shrinks (hn : n < 2 ^ 31) (hpos : 0 < n) (hmax : n ≤ maxCapacity)
    (hshrink : n < b.capacity) :
    ∃ b', b.resize memory n = .ok b' ∧
      (Follows (memory = none ∧ 0 < n ∧ n ≤ maxCapacity ∧ n ≠ b.capacity) b
        (· = b.contents.take n.toNat) b' ↔ memory ≠ none ∧ b.contents = []) := by
  rw [resize, if_neg (by omega), if_neg (by omega), if_pos hshrink]
  by_cases hmemory : memory = none
  · refine ⟨{ b with capacity := 0, data := none }, by rw [allocate_none (.inr hmemory)], ?_⟩
    constructor
    · rintro ⟨-, hkept, -⟩
      have : 0 = b.capacity := (hkept ⟨hmemory, by omega, by omega, by omega⟩).capacity
      omega
    · exact fun h => absurd hmemory h.1
  · obtain ⟨block, hblock, hlength'⟩ := exists_allocate (n := n) (by omega) hmemory
    refine ⟨{ size := 0, capacity := n, data := some block }, by rw [hblock], ?_⟩
    constructor
    · rintro ⟨-, -, hleaves⟩
      have htaken : [] = b.contents.take n.toNat := hleaves fun h => hmemory h.1
      have := congrArg List.length htaken
      rw [List.length_take, List.length_nil] at this
      exact ⟨hmemory, List.length_eq_zero_iff.mp (by omega)⟩
    · rintro ⟨-, hcontents⟩
      refine written_follows (fun h => hmemory h.1) (le_refl 0) (by omega) (by omega) hn ?_
      rw [hcontents, List.take_nil]
      rfl

theorem resize_follows_iff (hb : b.Valid) (hn : n < 2 ^ 31) :
    ∃ b', b.resize memory n = .ok b' ∧
      (Follows (memory = none ∧ 0 < n ∧ n ≤ maxCapacity ∧ n ≠ b.capacity) b
          (· = if 0 < n ∧ n ≤ maxCapacity then b.contents.take n.toNat else b.contents) b' ↔
        (0 < n → n ≤ maxCapacity → n < b.capacity → memory ≠ none ∧ b.contents = [])) := by
  have hlength := hb.contents_length
  have hsize_le := hb.size_le
  by_cases hrange : n ≤ 0 ∨ maxCapacity < n
  · refine ⟨b, by rw [resize, if_pos hrange], iff_of_true ⟨hb, fun _ => Kept.refl _, fun _ => ?_⟩
      fun _ _ => by omega⟩
    rw [if_neg (by omega)]
  rw [if_pos (show 0 < n ∧ n ≤ maxCapacity by omega)]
  have htake : b.capacity ≤ n → b.contents.take n.toNat = b.contents := fun h =>
    List.take_of_length_le (by omega)
  rcases lt_trichotomy b.capacity n with hgrow | heq | hshrink
  · rw [htake (by omega)]
    by_cases hmemory : memory = none
    · refine ⟨b, by rw [resize, if_neg hrange, if_pos hgrow, allocate_none (.inr hmemory)],
        iff_of_true ⟨hb, fun _ => Kept.refl _, fun hnot => ?_⟩ fun _ _ => by omega⟩
      exact absurd ⟨hmemory, by omega, by omega, by omega⟩ hnot
    · obtain ⟨b', hb', hfollows⟩ := resize_grows hb hn (by omega) hgrow hmemory
      exact ⟨b', hb', iff_of_true hfollows fun _ _ => by omega⟩
  · rw [htake (by omega)]
    exact ⟨b, by rw [resize, if_neg hrange, if_neg (by omega), if_neg (by omega)],
      iff_of_true ⟨hb, fun _ => Kept.refl _, fun _ => rfl⟩ fun _ _ => by omega⟩
  · obtain ⟨b', hb', hiff⟩ := @resize_shrinks b memory n hn (by omega) (by omega) hshrink
    exact ⟨b', hb', hiff.trans ⟨fun h _ _ _ => h, fun h => h (by omega) (by omega) hshrink⟩⟩

/-- The bytes that a pointer with a length gives to a list. -/
def given : Option Source → List Byte
  | none => []
  | some src => src.bytes.take src.dataLen.toInt.toNat

/-- The free part of the block may have been cleared. -/
theorem cleared_kept (hb : b.Valid) {src : List Byte} {count : Int} (h : b.capacity - b.size < count) :
    ∃ data, memcpyS b.data b.size (b.capacity - b.size) (some src) count = .ok (data, false) ∧
      Valid { b with data := data } ∧ Kept b { b with data := data } := by
  have hsize := hb.size_nonneg
  have hle := hb.size_le
  by_cases hfull : b.capacity - b.size ≤ 0
  · exact ⟨b.data, memcpyS_refused (.inr hfull), hb, Kept.refl b⟩
  · obtain ⟨block, hdata, hcapacity, hcontents⟩ := hb.exists_data (by omega)
    rw [hdata]
    refine ⟨_, memcpyS_cleared hsize (by omega) (by omega) (.inr h), ⟨hsize, hle, ?_, hb.capacity_lt⟩,
      ⟨rfl, rfl, ?_⟩⟩
    · simp only [allocated, Option.getD_some, List.length_append, List.length_take,
        List.length_replicate, List.length_drop]
      omega
    · rw [hcontents]
      change List.take b.size.toNat (_ ++ _ ++ _) = _
      rw [List.append_assoc]
      exact take_front (by rw [List.length_take]; omega)

theorem append_length {src : Source} (hb : b.Valid) (hpos : 0 < src.dataLen.toInt) :
    ((b.contents ++ given (some src)).length : Int) = b.size + src.dataLen.toInt := by
  have hlength := hb.contents_length
  have hfits := src.fits
  simp only [given, List.length_append, List.length_take]
  omega

theorem pushData_fits {src : Source} (hb : b.Valid) (hpos : 0 < src.dataLen.toInt)
    (hfits : b.size + src.dataLen.toInt ≤ b.capacity) :
    ∃ block, b.pushData memory (some src) =
        .ok { size := b.size + src.dataLen.toInt, capacity := b.capacity, data := some block } ∧
      b.capacity ≤ block.length ∧
      block.take (b.size + src.dataLen.toInt).toNat = b.contents ++ given (some src) := by
  have hsize := hb.size_nonneg
  have hle := hb.size_le
  have hlt := hb.capacity_lt
  have hbytes := src.fits
  obtain ⟨block, hdata, hcapacity, hcontents⟩ := hb.exists_data (by omega)
  refine ⟨b.contents ++ given (some src) ++ block.drop (b.size.toNat + src.dataLen.toInt.toNat), ?_,
    ?_, ?_⟩
  · rw [pushData]
    dsimp only
    rw [if_neg (by omega), int32_of_bounds (by omega) (by omega), if_pos (by omega), hdata,
      memcpyS_copied hsize (by omega) (by omega) (by omega) (by omega) hbytes, ← hcontents]
    rfl
  · have := append_length hb hpos
    rw [List.length_append, List.length_drop]
    omega
  · have := append_length hb hpos
    exact take_front (by omega)

theorem pushData_grows {src : Source} (hb : b.Valid) (hpos : 0 < src.dataLen.toInt)
    (hgrows : b.capacity < b.size + src.dataLen.toInt) (hlt : b.size + src.dataLen.toInt < 2 ^ 31)
    (hmemory : memory ≠ none) :
    b.pushData memory (some src) = .ok
      { size := b.size + src.dataLen.toInt, capacity := b.size + src.dataLen.toInt
        data := some (b.contents ++ given (some src)) } := by
  have hsize := hb.size_nonneg
  have hle := hb.size_le
  have hbytes := src.fits
  have hlength := hb.contents_length
  obtain ⟨block, hblock, hblockLength⟩ :=
    exists_allocate (n := b.size + src.dataLen.toInt) (by omega) hmemory
  -- the old contents, or nothing of the new block where there are none
  have hold : ∃ rest, (rest.length : Int) = src.dataLen.toInt ∧
      (if b.data.isSome then
        memcpyS (some block) 0 (b.size + src.dataLen.toInt) b.data b.size
      else .ok (some block, true)) = .ok (some (b.contents ++ rest), true) := by
    by_cases hdata : b.data.isSome
    · obtain ⟨data, hdata'⟩ := Option.isSome_iff_exists.mp hdata
      have hcapacity := hb.capacity_le
      simp only [allocated, hdata', Option.getD_some] at hcapacity
      refine ⟨block.drop b.size.toNat, by rw [List.length_drop]; omega, ?_⟩
      rw [if_pos hdata, hdata', memcpyS_copied (le_refl 0) (by omega) (by omega) hsize (by omega)
        (by omega), Int.toNat_zero, Nat.zero_add, contents, hdata']
      rfl
    · have hnone : b.data = none := by simpa using hdata
      have hcapacity := hb.capacity_le
      simp only [allocated, hnone, Option.getD_none, List.length_nil] at hcapacity
      refine ⟨block, by omega, ?_⟩
      rw [if_neg hdata, hb.contents_eq_nil.mpr (by omega), List.nil_append]
  obtain ⟨rest, hrest, hold⟩ := hold
  have hnew : memcpyS (some (b.contents ++ rest)) b.size (b.size + src.dataLen.toInt - b.size)
      (some src.bytes) src.dataLen.toInt = .ok (some (b.contents ++ given (some src)), true) := by
    rw [memcpyS_copied hsize (by omega) (by rw [List.length_append]; omega) (by omega) (by omega) hbytes,
      take_front (by omega), List.drop_of_length_le (by rw [List.length_append]; omega),
      List.append_nil]
    rfl
  rw [pushData]
  dsimp only
  rw [if_neg (by omega), int32_of_bounds (by omega) (by omega),
    int32_of_bounds (by omega) (by omega), if_neg (by omega), hblock]
  dsimp only
  by_cases hdata : b.data.isSome
  · rw [if_pos hdata] at hold
    rw [if_pos hdata, hold]
    change (memcpyS _ _ _ _ _ >>= _) = _
    rw [hnew]
    rfl
  · rw [if_neg hdata] at hold
    have hold' : some block = some (b.contents ++ rest) := congrArg Prod.fst (Except.ok.inj hold)
    rw [if_neg hdata, hold']
    change (memcpyS _ _ _ _ _ >>= _) = _
    rw [hnew]
    rfl

theorem pushData_starved {src : Source} (hb : b.Valid) (hpos : 0 < src.dataLen.toInt)
    (hgrows : b.capacity < b.size + src.dataLen.toInt) (hlt : b.size + src.dataLen.toInt < 2 ^ 31) :
    b.pushData none (some src) = .ok { b with capacity := b.size + src.dataLen.toInt } := by
  have hsize := hb.size_nonneg
  have hle := hb.size_le
  rw [pushData]
  dsimp only
  rw [if_neg (by omega), int32_of_bounds (by omega) (by omega), if_neg (by omega),
    allocate_none (.inr rfl), int32_of_bounds (by omega) (by omega)]

theorem int32_sum_neg {src : Source} (hb : b.Valid) (h : 2 ^ 31 ≤ src.dataLen.toInt + b.size) :
    int32 (src.dataLen.toInt + b.size) < 0 := by
  have hle := hb.size_le
  have hlt := hb.capacity_lt
  have hdata := Int32.toInt_lt src.dataLen
  rw [int32, BitVec.toInt_ofInt, Int.bmod_def, if_neg (by omega)]
  omega

/-- The sum of the sizes has become negative, and so the data seems to fit. -/
theorem pushData_wraps {src : Source} (hb : b.Valid) (h : 2 ^ 31 ≤ b.size + src.dataLen.toInt) :
    ∃ b', b.pushData memory (some src) = .ok b' ∧ b'.Valid ∧ Kept b b' := by
  have hsize := hb.size_nonneg
  have hle := hb.size_le
  have hlt := hb.capacity_lt
  have hdata := Int32.toInt_lt src.dataLen
  have hneg : int32 (src.dataLen.toInt + b.size) < 0 := int32_sum_neg hb (by omega)
  obtain ⟨data, hclear, hvalid, hkept⟩ :=
    @cleared_kept b hb src.bytes src.dataLen.toInt (by omega)
  refine ⟨{ b with data := data }, ?_, hvalid, hkept⟩
  rw [pushData]
  dsimp only
  rw [if_neg (by omega), if_pos (by omega), hclear]
  rfl

/-- A push needs memory. -/
def PushNeeds (b : DataBuffer) : Option Source → Prop
  | none => False
  | some src => 0 < src.dataLen.toInt ∧ b.capacity < b.size + src.dataLen.toInt

/-- The data finds room, or memory just as long as its end can be counted. -/
def PushFits (memory : Memory) (b : DataBuffer) : Option Source → Prop
  | none => True
  | some src => 0 < src.dataLen.toInt → b.size + src.dataLen.toInt ≤ b.capacity ∨
      (memory ≠ none ↔ b.size + src.dataLen.toInt < 2 ^ 31)

theorem pushData_follows_iff (hb : b.Valid) (src : Option Source) :
    ∃ b', b.pushData memory src = .ok b' ∧
      (Follows (memory = none ∧ b.PushNeeds src) b (· = b.contents ++ given src) b' ↔
        PushFits memory b src) := by
  have hsize := hb.size_nonneg
  have hle := hb.size_le
  have hlt := hb.capacity_lt
  cases src with
  | none => exact ⟨b, rfl, iff_of_true ⟨hb, fun _ => Kept.refl _,
      fun _ => (List.append_nil _).symm⟩ trivial⟩
  | some src =>
    simp only [PushNeeds, PushFits]
    by_cases hpos : 0 < src.dataLen.toInt
    swap
    · refine ⟨b, ?_, iff_of_true ⟨hb, fun _ => Kept.refl _, fun _ => ?_⟩ fun h => absurd h hpos⟩
      · rw [pushData]
        exact if_pos (.inl (by omega))
      · rw [given, Int.toNat_of_nonpos (by omega), List.take_zero, List.append_nil]
    by_cases hfits : b.size + src.dataLen.toInt ≤ b.capacity
    · obtain ⟨block, hpush, hblock, htake⟩ := @pushData_fits b memory src hb hpos hfits
      exact ⟨_, hpush, iff_of_true (written_follows (fun h => by omega) (by omega) hfits hblock hlt
        htake) fun _ => .inl hfits⟩
    have hlength := append_length hb hpos
    by_cases hcounts : b.size + src.dataLen.toInt < 2 ^ 31
    · by_cases hmemory : memory = none
      · subst hmemory
        refine ⟨_, pushData_starved hb hpos (by omega) hcounts, iff_of_false (fun h => ?_) fun h => ?_⟩
        · exact hfits (h.2.1 ⟨rfl, hpos, by omega⟩).capacity.le
        · exact absurd rfl (((h hpos).resolve_left hfits).mpr hcounts)
      · refine ⟨_, pushData_grows hb hpos (by omega) hcounts hmemory, iff_of_true (written_follows
          (fun h => hmemory h.1) (by omega) (le_refl _) hlength.ge hcounts ?_)
          fun _ => .inr ⟨fun _ => hcounts, fun _ => hmemory⟩⟩
        exact List.take_of_length_le (by omega)
    · obtain ⟨b', hpush, hvalid, hkept⟩ := @pushData_wraps b memory src hb (by omega)
      refine ⟨b', hpush, ?_⟩
      constructor
      · rintro ⟨-, -, hleaves⟩ -
        refine .inr ⟨fun hmemory => ?_, fun h => absurd h hcounts⟩
        have hsame := hleaves fun h => hmemory h.1
        rw [hkept.contents] at hsame
        have := congrArg List.length hsame
        have := hb.contents_length
        omega
      · intro h
        have hmemory : memory = none := by
          by_contra hmemory
          exact hcounts (((h hpos).resolve_left hfits).mp hmemory)
        exact ⟨hvalid, fun _ => hkept, fun hnot => absurd ⟨hmemory, hpos, by omega⟩ hnot⟩

/-- What the object holds after its contents were replaced; a negative length replaces nothing. -/
def replaced (b : DataBuffer) : Option Source → List Byte
  | none => b.contents
  | some src => if src.dataLen.toInt < 0 then b.contents else given (some src)

def ReplaceNeeds (b : DataBuffer) : Option Source → Prop
  | none => False
  | some src => b.capacity < src.dataLen.toInt

def ReplaceFits (memory : Memory) (b : DataBuffer) : Option Source → Prop
  | none => True
  | some src => if src.dataLen.toInt < 0 then ∀ byte ∈ b.contents, byte = 0
      else src.dataLen.toInt ≤ b.capacity ∨ memory ≠ none ∨ b.capacity = 0

theorem replaceData_negative {src : Source} (hb : b.Valid) (h : src.dataLen.toInt < 0) :
    ∃ b', b.replaceData memory (some src) = .ok b' ∧ b'.Valid ∧
      b'.contents = List.replicate b.size.toNat 0 := by
  have hsize := hb.size_nonneg
  have hle := hb.size_le
  have hkeep : b.replaceData memory (some src) =
      (do
        let r ← memcpyS b.data 0 b.capacity (some src.bytes) src.dataLen.toInt
        if !r.2 then return { b with data := r.1 }
        return { b with size := src.dataLen.toInt, data := r.1 }) := by
    rw [replaceData]
    dsimp only
    rw [if_neg (by omega)]
  rw [hkeep]
  by_cases hcapacity : b.capacity ≤ 0
  · rw [memcpyS_refused (.inr hcapacity)]
    refine ⟨b, rfl, hb, ?_⟩
    rw [hb.contents_eq_nil.mpr (by omega), Int.toNat_of_nonpos (by omega), List.replicate_zero]
  · obtain ⟨block, hdata, hblock, -⟩ := hb.exists_data (by omega)
    rw [hdata, memcpyS_cleared (le_refl 0) (by omega) (by omega) (.inl h)]
    refine ⟨_, rfl, ⟨hsize, hle, ?_, hb.capacity_lt⟩, ?_⟩
    · simp only [allocated, Option.getD_some, List.length_append, List.length_take,
        List.length_replicate, List.length_drop]
      omega
    · change List.take b.size.toNat ([] ++ _ ++ _) = _
      rw [List.nil_append, List.take_append_of_le_length (by rw [List.length_replicate]; omega),
        List.take_replicate, min_eq_left (by omega)]

theorem replaceData_copied {src : Source} (hb : b.Valid) (h : 0 ≤ src.dataLen.toInt)
    (hfits : src.dataLen.toInt ≤ b.capacity ∨ memory ≠ none) :
    ∃ b', b.replaceData memory (some src) = .ok b' ∧
      Follows False b (· = given (some src)) b' := by
  have hbytes := src.fits
  have hlt := hb.capacity_lt
  have hdata := Int32.toInt_lt src.dataLen
  have hlength : (given (some src)).length = src.dataLen.toInt.toNat := by
    rw [given, List.length_take]
    omega
  -- the block that is written, an old or a new one
  have hwrite : ∀ (b₁ : DataBuffer), 0 < b₁.capacity → b₁.Valid → src.dataLen.toInt ≤ b₁.capacity →
      ∃ b', (do
        let r ← memcpyS b₁.data 0 b₁.capacity (some src.bytes) src.dataLen.toInt
        if !r.2 then return { b₁ with data := r.1 }
        return { b₁ with size := src.dataLen.toInt, data := r.1 } : Except Fault DataBuffer) = .ok b' ∧
      Follows False b (· = given (some src)) b' := by
    intro b₁ hpos hb₁ hle
    obtain ⟨block, hblock, hcapacity, -⟩ := hb₁.exists_data hpos
    rw [hblock, memcpyS_copied (le_refl 0) hpos (by omega) h hle hbytes]
    refine ⟨_, rfl, written_follows id h hle ?_ hb₁.capacity_lt ?_⟩
    · simp only [List.length_append, List.length_take, List.length_drop]
      omega
    · exact take_front hlength
  rw [replaceData]
  dsimp only
  by_cases hgrows : b.capacity < src.dataLen.toInt
  · obtain ⟨block, hblock, hblockLength⟩ :=
      exists_allocate (n := src.dataLen.toInt) h (hfits.resolve_left (by omega))
    rw [if_pos hgrows, hblock]
    have hnonneg := hb.size_nonneg
    have hle := hb.size_le
    exact hwrite { b with capacity := src.dataLen.toInt, data := some block } (by dsimp only; omega)
      ⟨hb.size_nonneg, by dsimp only; omega, hblockLength.ge, hdata⟩ (le_refl _)
  · rw [if_neg hgrows]
    by_cases hpos : 0 < b.capacity
    · exact hwrite b hpos hb (by omega)
    · have hnonneg := hb.size_nonneg
      have hle := hb.size_le
      refine ⟨b, ?_, hb, False.elim, fun _ => ?_⟩
      · rw [memcpyS_refused (.inr (by omega))]
        rfl
      · rw [hb.contents_eq_nil.mpr (by omega), given, Int.toNat_of_nonpos (by omega), List.take_zero]

theorem replaceData_follows_iff (hb : b.Valid) (src : Option Source) :
    ∃ b', b.replaceData memory src = .ok b' ∧
      (Follows (memory = none ∧ b.ReplaceNeeds src) b (· = b.replaced src) b' ↔
        ReplaceFits memory b src) := by
  have hsize := hb.size_nonneg
  have hle := hb.size_le
  cases src with
  | none => exact ⟨b, rfl, iff_of_true ⟨hb, fun _ => Kept.refl _, fun _ => rfl⟩ trivial⟩
  | some src =>
    simp only [ReplaceNeeds, ReplaceFits, replaced]
    by_cases hneg : src.dataLen.toInt < 0
    · obtain ⟨b', hreplace, hvalid, hcontents⟩ := @replaceData_negative b memory src hb hneg
      refine ⟨b', hreplace, ?_⟩
      have hzero : b'.contents = b.contents ↔ ∀ byte ∈ b.contents, byte = 0 := by
        have hlength := hb.contents_length
        rw [hcontents, eq_comm, List.eq_replicate_iff]
        exact and_iff_right (by omega)
      rw [if_pos hneg, if_pos hneg, ← hzero]
      constructor
      · rintro ⟨-, -, hleaves⟩
        exact hleaves fun h => by omega
      · intro hsame
        exact ⟨hvalid, fun h => by omega, fun _ => hsame⟩
    · rw [if_neg hneg, if_neg hneg]
      by_cases hfits : src.dataLen.toInt ≤ b.capacity ∨ memory ≠ none
      · obtain ⟨b', hreplace, hvalid, -, hleaves⟩ := replaceData_copied hb (by omega) hfits
        refine ⟨b', hreplace, iff_of_true ⟨hvalid, fun h => ?_, fun _ => hleaves id⟩ ?_⟩
        · rcases hfits with hfits | hfits
          · omega
          · exact absurd h.1 hfits
        · rw [← or_assoc]
          exact .inl hfits
      · rw [not_or, not_not] at hfits
        obtain ⟨hgrows, rfl⟩ := hfits
        refine ⟨{ b with capacity := 0, data := none }, ?_, ?_⟩
        · rw [replaceData]
          dsimp only
          rw [if_pos (by omega), allocate_none (.inr rfl)]
          rfl
        constructor
        · rintro ⟨-, hkept, -⟩
          exact .inr (.inr (hkept ⟨rfl, by omega⟩).capacity.symm)
        · rintro (h | h | h)
          · exact absurd h hgrows
          · exact absurd rfl h
          · have hempty : b.size = 0 := by omega
            refine ⟨⟨hsize, hempty.le, le_refl _, show (0 : Int) < 2 ^ 31 by decide⟩, fun _ => ⟨rfl, h.symm, ?_⟩,
              fun hnot => absurd ⟨rfl, by omega⟩ hnot⟩
            rw [hb.contents_eq_nil.mpr hempty, contents]
            exact List.take_nil

end WifiDisplay.DataBuffer
