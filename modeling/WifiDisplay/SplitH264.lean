import WifiDisplay.Basic

/-! `SplitH264`: the NAL units of a buffer in the byte stream format. Offsets into the buffer stand
for the pointers. The callers' sizes are of type `int`, so that the counter of `MemFind` does not
overflow. -/

namespace WifiDisplay

namespace SplitH264

def prefixSize : List Byte → Nat
  | b0 :: b1 :: b2 :: b3 :: _ =>
    if b0 ≠ 0 ∨ b1 ≠ 0 then 0
    else if b2 = 0 ∧ b3 = 1 then 4
    else if b2 = 1 then 3
    else 0
  | _ => 0

/-- The loop ends before `len - subLen`: a match at the very end is not looked at. -/
def memFind (buf subBuf : List Byte) : Option Nat :=
  (List.range (buf.length - subBuf.length)).find? fun i => (buf.drop i).take subBuf.length == subBuf

def startCode : List Byte := [0, 0, 1]

/-- The arguments of one call of `cb`. -/
structure Slice where
  offset : Nat
  len : Nat
  prefixSize : Nat
  deriving DecidableEq

namespace Slice

variable (s : Slice) (bytes : List Byte)

def data : List Byte := (bytes.drop s.offset).take s.len

def nal : List Byte := (s.data bytes).drop s.prefixSize

end Slice

/-- `while (true)`; there is no answer if `fuel` rounds were not enough. -/
def loop (bytes : List Byte) : Nat → Nat → Nat → Option (List Slice)
  | 0, _, _ => none
  | fuel + 1, start, pre =>
    match memFind (bytes.drop start) startCode with
    | some i =>
      if 0 < i ∧ bytes[start + i - 1]? = some 0 then
        (loop bytes fuel (start + i - 1 + 4) 4).map ({ offset := start - pre, len := i - 1 + pre, prefixSize := pre } :: ·)
      else
        (loop bytes fuel (start + i + 3) 3).map ({ offset := start - pre, len := i + pre, prefixSize := pre } :: ·)
    | none => some [{ offset := start - pre, len := bytes.length + pre - start, prefixSize := pre }]

def splitH264 (fuel : Nat) (ptr : Option (List Byte)) (pre : Nat) : Option (List Slice) :=
  match ptr with
  | none => some []
  | some bytes =>
    let pre := if pre = 0 then prefixSize bytes else pre
    loop bytes fuel pre pre

/-! What a split should be. -/

/-- A start code of three bytes begins at `i`. -/
def CodeAt (bytes : List Byte) (i : Nat) : Prop := startCode <+: bytes.drop i

/-- A start code of three or four bytes begins at `i`. -/
def UnitAt (bytes : List Byte) (i : Nat) : Prop := CodeAt bytes i ∨ 0 :: startCode <+: bytes.drop i

instance (bytes : List Byte) (i : Nat) : Decidable (CodeAt bytes i) :=
  inferInstanceAs (Decidable (startCode <+: bytes.drop i))

instance (bytes : List Byte) (i : Nat) : Decidable (UnitAt bytes i) :=
  inferInstanceAs (Decidable (_ ∨ _))

/-- The whole buffer from the first start code on. -/
def fromFirst : List Byte → List Byte
  | [] => []
  | b :: rest => if UnitAt (b :: rest) 0 then b :: rest else fromFirst rest

/-- Each slice begins where the one before it ends. -/
def Contiguous : Nat → List Slice → Nat → Prop
  | offset, [], stop => offset = stop
  | offset, s :: slices, stop => s.offset = offset ∧ Contiguous (offset + s.len) slices stop

structure Partitions (bytes : List Byte) (slices : List Slice) : Prop where
  contiguous : ∃ offset, Contiguous offset slices bytes.length
  concat : slices.flatMap (·.data bytes) = fromFirst bytes
  nonempty : ∀ s ∈ slices, s.nal bytes ≠ []
  interior : ∀ s ∈ slices, ¬ startCode <:+: s.nal bytes

/-- The loop ends, with these slices. -/
def Returns (bytes : List Byte) (pre : Nat) (slices : List Slice) : Prop :=
  ∀ fuel, bytes.length < fuel → splitH264 fuel (some bytes) pre = some slices

/-- Behind each start code from `start` on there is a byte, and no other start code. -/
def Followed (bytes : List Byte) (start : Nat) : Prop :=
  ∀ i, start ≤ i → CodeAt bytes i → i + 3 < bytes.length ∧ ¬ UnitAt bytes (i + 3)

structure Delimited (bytes : List Byte) : Prop where
  begins : UnitAt bytes 0
  followed : Followed bytes 0

/-! Start codes and their places. -/

theorem codeAt_iff {bytes : List Byte} {i : Nat} :
    CodeAt bytes i ↔ bytes[i]? = some 0 ∧ bytes[i + 1]? = some 0 ∧ bytes[i + 2]? = some 1 := by
  simp only [CodeAt, List.prefix_iff_getElem?, startCode, List.getElem?_drop]
  constructor
  · intro h
    exact ⟨h 0 (by simp), h 1 (by simp), h 2 (by simp)⟩
  · rintro ⟨h0, h1, h2⟩ j hj
    have hcases : j = 0 ∨ j = 1 ∨ j = 2 := by
      simp only [List.length_cons, List.length_nil] at hj
      omega
    rcases hcases with rfl | rfl | rfl
    · exact h0
    · exact h1
    · exact h2

theorem unitAt_iff {bytes : List Byte} {i : Nat} :
    UnitAt bytes i ↔ CodeAt bytes i ∨ bytes[i]? = some 0 ∧ CodeAt bytes (i + 1) := by
  have hcons : 0 :: startCode <+: bytes.drop i ↔ bytes[i]? = some 0 ∧ CodeAt bytes (i + 1) := by
    rw [CodeAt, ← List.drop_drop, List.drop_one]
    cases hdrop : bytes.drop i with
    | nil =>
      have hnone : bytes[i]? = none := by
        rw [List.getElem?_eq_none_iff]
        exact List.drop_eq_nil_iff.mp hdrop
      simp [hnone, startCode]
    | cons b rest =>
      have hsome : bytes[i]? = some b := by
        rw [← List.head?_drop, hdrop]
        rfl
      rw [List.cons_prefix_cons, hsome, List.tail_cons, Option.some.injEq]
      exact and_congr_left' eq_comm
  rw [UnitAt, hcons]

theorem CodeAt.lt {bytes : List Byte} {i : Nat} (h : CodeAt bytes i) : i + 3 ≤ bytes.length := by
  have hlast := (codeAt_iff.mp h).2.2
  have hlt := (List.getElem?_eq_some_iff.mp hlast).1
  omega

/-- Start codes of three bytes do not overlap. -/
theorem CodeAt.disjoint {bytes : List Byte} {i j : Nat} (hi : CodeAt bytes i) (hj : CodeAt bytes j)
    (hij : i < j) : i + 3 ≤ j := by
  obtain ⟨-, -, hone⟩ := codeAt_iff.mp hi
  obtain ⟨hzero, hzero', -⟩ := codeAt_iff.mp hj
  by_contra hlt
  have hcases : j = i + 1 ∨ j = i + 2 := by omega
  rcases hcases with rfl | rfl
  · rw [hone] at hzero'
    cases hzero'
  · rw [hone] at hzero
    cases hzero

theorem memFind_pred {bytes : List Byte} {i : Nat} (start : Nat) :
    (((bytes.drop start).drop i).take startCode.length == startCode) = true ↔ CodeAt bytes (start + i) := by
  rw [beq_iff_eq, CodeAt, List.prefix_iff_eq_take, List.drop_drop]
  exact eq_comm

theorem memFind_eq_some {bytes : List Byte} {start i : Nat} (h : memFind (bytes.drop start) startCode = some i) :
    CodeAt bytes (start + i) ∧ start + i + 3 < bytes.length ∧ ∀ j, start ≤ j → j < start + i → ¬ CodeAt bytes j := by
  rw [memFind, List.find?_range_eq_some] at h
  obtain ⟨hcode, hmem, hbefore⟩ := h
  have hlt := List.mem_range.mp hmem
  rw [List.length_drop] at hlt
  refine ⟨(memFind_pred start).mp hcode, ?_, ?_⟩
  · have hlen : startCode.length = 3 := rfl
    omega
  · intro j hj hji hcode'
    have hfalse := hbefore (j - start) (by omega)
    rw [Bool.not_eq_true', ← Bool.not_eq_true, memFind_pred, Nat.add_sub_cancel' hj] at hfalse
    exact hfalse hcode'

theorem memFind_eq_none {bytes : List Byte} {start : Nat} (h : memFind (bytes.drop start) startCode = none) :
    ∀ j, start ≤ j → j + 3 < bytes.length → ¬ CodeAt bytes j := by
  rw [memFind, List.find?_range_eq_none] at h
  intro j hj hlt hcode
  have hlen : startCode.length = 3 := rfl
  have hfalse := h (j - start) (by rw [List.length_drop]; omega)
  rw [Bool.not_eq_true', ← Bool.not_eq_true, memFind_pred, Nat.add_sub_cancel' hj] at hfalse
  exact hfalse hcode

/-! The slices. -/

/-- The slice that begins with a prefix of `pre` bytes before `start` and ends at `stop`. -/
theorem nal_eq {bytes : List Byte} {start pre : Nat} (hpre : pre ≤ start) (n : Nat) :
    ({ offset := start - pre, len := n + pre, prefixSize := pre } : Slice).nal bytes = (bytes.drop start).take n := by
  rw [Slice.nal, Slice.data, List.drop_take, List.drop_drop, Nat.add_sub_cancel, Nat.sub_add_cancel hpre]

theorem infix_take_iff {bytes : List Byte} {start n : Nat} :
    startCode <:+: (bytes.drop start).take n ↔ ∃ j, start ≤ j ∧ j + 3 ≤ start + n ∧ CodeAt bytes j := by
  constructor
  · rintro ⟨s, t, hst⟩
    have hdrop : bytes.drop start = s ++ startCode ++ t ++ (bytes.drop start).drop n := by
      rw [hst, List.take_append_drop]
    have hlen : s.length + 3 + t.length ≤ n := by
      have htake := congrArg List.length hst
      simp only [List.length_append, List.length_take, startCode, List.length_cons, List.length_nil] at htake
      omega
    refine ⟨start + s.length, Nat.le_add_right _ _, by omega, ?_⟩
    rw [CodeAt, ← List.drop_drop, hdrop, List.append_assoc, List.append_assoc, List.drop_left]
    exact List.prefix_append _ _
  · rintro ⟨j, hj, hjn, hcode⟩
    obtain ⟨t, ht⟩ := hcode
    have hprefix : startCode <+: ((bytes.drop start).take n).drop (j - start) := by
      rw [List.drop_take, List.drop_drop, Nat.add_sub_cancel' hj, ← ht, List.prefix_take_iff]
      refine ⟨List.prefix_append _ _, ?_⟩
      have hlen : startCode.length = 3 := rfl
      omega
    exact hprefix.isInfix.trans (List.drop_suffix _ _).isInfix

def Good (bytes : List Byte) (s : Slice) : Prop := s.nal bytes ≠ [] ∧ ¬ startCode <:+: s.nal bytes

theorem good_iff {bytes : List Byte} {start pre n : Nat} (hpre : pre ≤ start) (hn : start + n ≤ bytes.length) :
    Good bytes { offset := start - pre, len := n + pre, prefixSize := pre } ↔
      0 < n ∧ ∀ j, start ≤ j → CodeAt bytes j → start + n < j + 3 := by
  rw [Good, nal_eq hpre, infix_take_iff, ← List.length_pos_iff, List.length_take, List.length_drop,
    Nat.min_eq_left (by omega)]
  refine and_congr_right' ⟨fun h j hj hcode => ?_, fun h => ?_⟩
  · by_contra hlt
    exact h ⟨j, hj, Nat.not_lt.mp hlt, hcode⟩
  · rintro ⟨j, hj, hjn, hcode⟩
    exact absurd (h j hj hcode) (Nat.not_lt.mpr hjn)

/-- What is left of the buffer can be cut at every start code. -/
structure Clear (bytes : List Byte) (start : Nat) : Prop where
  lt : start < bytes.length
  notUnit : ¬ UnitAt bytes start
  followed : Followed bytes start

/-- One round of the loop, up to the first start code that it finds. -/
theorem loop_some {bytes : List Byte} {start i : Nat} (pre : Nat)
    (h : memFind (bytes.drop start) startCode = some i) :
    ∃ n q, n + q = i + 3 ∧ n ≤ i ∧ (n = 0 ↔ UnitAt bytes start) ∧
      ∀ fuel, loop bytes (fuel + 1) start pre = (loop bytes fuel (start + i + 3) q).map
        ({ offset := start - pre, len := n + pre, prefixSize := pre } :: ·) := by
  obtain ⟨hcode, hlt, hbefore⟩ := memFind_eq_some h
  by_cases hback : 0 < i ∧ bytes[start + i - 1]? = some 0
  · refine ⟨i - 1, 4, by omega, Nat.sub_le _ _, ⟨fun hn => ?_, fun hunit => ?_⟩, fun fuel => ?_⟩
    · have hi : i = 1 := by omega
      subst hi
      exact unitAt_iff.mpr (.inr ⟨hback.2, hcode⟩)
    · rcases unitAt_iff.mp hunit with hfirst | ⟨-, hfirst⟩
      · exact absurd hfirst (hbefore start (Nat.le_refl _) (by omega))
      · by_contra hn
        exact hbefore (start + 1) (by omega) (by omega) hfirst
    · have hnext : start + i - 1 + 4 = start + i + 3 := by omega
      simp only [loop, h]
      rw [if_pos hback, hnext]
  · refine ⟨i, 3, rfl, Nat.le_refl _, ⟨fun hn => ?_, fun hunit => ?_⟩, fun fuel => ?_⟩
    · subst hn
      exact .inl hcode
    · by_contra hn
      rcases unitAt_iff.mp hunit with hfirst | ⟨hzero, hfirst⟩
      · exact hbefore start (Nat.le_refl _) (by omega) hfirst
      · have hi : i = 1 := by
          by_contra hne
          exact hbefore (start + 1) (by omega) (by omega) hfirst
        subst hi
        exact hback ⟨Nat.one_pos, hzero⟩
    · simp only [loop, h]
      rw [if_neg hback]

/-- The condition from the first start code on. -/
theorem followed_iff {bytes : List Byte} {start i : Nat} (hstart : start ≤ i) (hcode : CodeAt bytes i)
    (hbefore : ∀ j, start ≤ j → j < i → ¬ CodeAt bytes j) :
    Followed bytes start ↔ Clear bytes (i + 3) := by
  constructor
  · intro hfollowed
    obtain ⟨hlt, hunit⟩ := hfollowed i hstart hcode
    exact ⟨hlt, hunit, fun j hj => hfollowed j (by omega)⟩
  · rintro ⟨hlt, hunit, hfollowed⟩ j hj hcode'
    rcases Nat.lt_trichotomy j i with hji | rfl | hij
    · exact absurd hcode' (hbefore j hj hji)
    · exact ⟨hlt, hunit⟩
    · exact hfollowed j (hcode.disjoint hcode' hij) hcode'

theorem clear_iff {bytes : List Byte} {start i n : Nat} (h : memFind (bytes.drop start) startCode = some i)
    (hn : n = 0 ↔ UnitAt bytes start) : Clear bytes start ↔ 0 < n ∧ Clear bytes (start + i + 3) := by
  obtain ⟨hcode, hlt, hbefore⟩ := memFind_eq_some h
  have hiff := followed_iff (Nat.le_add_right _ _) hcode hbefore
  constructor
  · intro hclear
    exact ⟨Nat.pos_of_ne_zero (mt hn.mp hclear.notUnit), hiff.mp hclear.followed⟩
  · rintro ⟨hpos, hclear⟩
    exact ⟨by omega, mt hn.mpr (Nat.ne_of_gt hpos), hiff.mpr hclear⟩

/-- From any place on, the loop ends, its slices cover what is left, and they are good exactly when
what is left is clear. -/
theorem loop_spec (bytes : List Byte) {start pre : Nat} (hpre : pre ≤ start) (hstart : start ≤ bytes.length) :
    ∃ slices, (∀ fuel, bytes.length - start < fuel → loop bytes fuel start pre = some slices) ∧
      Contiguous (start - pre) slices bytes.length ∧
      ((∀ s ∈ slices, Good bytes s) ↔ Clear bytes start) := by
  induction hleft : bytes.length - start using Nat.strong_induction_on generalizing start pre with
  | _ left ih =>
    cases hfind : memFind (bytes.drop start) startCode with
    | none =>
      have hnone := memFind_eq_none hfind
      have hlen : bytes.length + pre - start = left + pre := by omega
      refine ⟨[{ offset := start - pre, len := left + pre, prefixSize := pre }], fun fuel hfuel => ?_, ?_, ?_⟩
      · obtain ⟨fuel, rfl⟩ := Nat.exists_eq_succ_of_ne_zero (Nat.ne_of_gt (Nat.zero_lt_of_lt hfuel))
        simp only [loop, hfind, hlen]
      · refine ⟨rfl, ?_⟩
        show start - pre + (left + pre) = bytes.length
        omega
      · rw [List.forall_mem_singleton, good_iff hpre (by omega)]
        constructor
        · rintro ⟨hpos, hno⟩
          have hcodes : ∀ j, start ≤ j → ¬ CodeAt bytes j := by
            intro j hj hcode
            have hlt := hno j hj hcode
            have hle := hcode.lt
            omega
          refine ⟨by omega, fun hunit => ?_, fun j hj hcode => absurd hcode (hcodes j hj)⟩
          rcases unitAt_iff.mp hunit with hcode | ⟨-, hcode⟩
          · exact hcodes start (Nat.le_refl _) hcode
          · exact hcodes (start + 1) (Nat.le_succ _) hcode
        · rintro ⟨hlt, -, hfollowed⟩
          refine ⟨by omega, fun j hj hcode => ?_⟩
          exact absurd hcode (hnone j hj (hfollowed j hj hcode).1)
    | some i =>
      obtain ⟨hcode, hlt, hbefore⟩ := memFind_eq_some hfind
      obtain ⟨n, q, hsum, hle, hunit, hloop⟩ := loop_some pre hfind
      have hpre' : q ≤ start + i + 3 := by omega
      have hstart' : start + i + 3 ≤ bytes.length := by omega
      obtain ⟨slices, hreturns, hcontiguous, hgood⟩ :=
        ih (bytes.length - (start + i + 3)) (by omega) hpre' hstart' rfl
      refine ⟨{ offset := start - pre, len := n + pre, prefixSize := pre } :: slices, fun fuel hfuel => ?_, ?_, ?_⟩
      · obtain ⟨fuel, rfl⟩ := Nat.exists_eq_succ_of_ne_zero (Nat.ne_of_gt (Nat.zero_lt_of_lt hfuel))
        rw [hloop, hreturns fuel (by omega)]
        rfl
      · have hnext : start - pre + (n + pre) = start + i + 3 - q := by omega
        exact ⟨rfl, hnext ▸ hcontiguous⟩
      · rw [List.forall_mem_cons, good_iff hpre (by omega), hgood, clear_iff hfind hunit, and_assoc]
        refine and_congr_right' ⟨And.right, fun hclear => ⟨fun j hj hcode' => ?_, hclear⟩⟩
        by_contra hend
        exact hbefore j hj (by omega) hcode'

theorem Contiguous.concat {bytes : List Byte} {offset : Nat} {slices : List Slice}
    (h : Contiguous offset slices bytes.length) : slices.flatMap (·.data bytes) = bytes.drop offset := by
  induction slices generalizing offset with
  | nil => rw [show offset = bytes.length from h, List.drop_length, List.flatMap_nil]
  | cons s slices ih =>
    obtain ⟨hoffset, hrest⟩ := h
    rw [List.flatMap_cons, ih hrest, Slice.data, hoffset, ← List.drop_drop, List.take_append_drop]

theorem fromFirst_length_le (bytes : List Byte) : (fromFirst bytes).length ≤ bytes.length := by
  induction bytes with
  | nil => exact Nat.le_refl _
  | cons b rest ih =>
    rw [fromFirst]
    split
    · exact Nat.le_refl _
    · exact Nat.le_succ_of_le ih

theorem fromFirst_eq_self_iff {bytes : List Byte} (hne : bytes ≠ []) :
    fromFirst bytes = bytes ↔ UnitAt bytes 0 := by
  cases bytes with
  | nil => exact absurd rfl hne
  | cons b rest =>
    rw [fromFirst]
    split
    · rename_i hunit
      exact iff_of_true rfl hunit
    · rename_i hunit
      refine iff_of_false (fun heq => ?_) hunit
      have hle := fromFirst_length_le rest
      rw [heq] at hle
      exact Nat.not_succ_le_self _ hle

theorem prefixSize_cases (bytes : List Byte) :
    prefixSize bytes = 4 ∧ CodeAt bytes 1 ∧ ¬ CodeAt bytes 0 ∨ prefixSize bytes = 3 ∧ CodeAt bytes 0 ∨
      prefixSize bytes = 0 ∧ (UnitAt bytes 0 → bytes.length ≤ 3) := by
  match bytes with
  | b0 :: b1 :: b2 :: b3 :: rest =>
    simp only [unitAt_iff, codeAt_iff, prefixSize]
    by_cases hzero : b0 ≠ 0 ∨ b1 ≠ 0
    · rw [if_pos hzero]
      refine .inr (.inr ⟨rfl, fun hunit => ?_⟩)
      simp at hunit hzero
      grind
    · rw [if_neg hzero]
      simp at hzero ⊢
      grind
  | [] | [_] | [_, _] | [_, _, _] => exact .inr (.inr ⟨rfl, fun _ => by simp⟩)

theorem prefixSize_le (bytes : List Byte) : prefixSize bytes ≤ bytes.length := by
  rcases prefixSize_cases bytes with ⟨hsize, hcode, -⟩ | ⟨hsize, hcode⟩ | ⟨hsize, -⟩
  · rw [hsize]
    exact hcode.lt
  · rw [hsize]
    exact hcode.lt
  · rw [hsize]
    exact Nat.zero_le _

theorem delimited_iff (bytes : List Byte) :
    Delimited bytes ↔ UnitAt bytes 0 ∧ Clear bytes (prefixSize bytes) := by
  have hmk : Delimited bytes ↔ UnitAt bytes 0 ∧ Followed bytes 0 := ⟨fun h => ⟨h.1, h.2⟩, fun h => ⟨h.1, h.2⟩⟩
  rw [hmk]
  refine and_congr_right fun hunit => ?_
  rcases prefixSize_cases bytes with ⟨hsize, hcode, hno⟩ | ⟨hsize, hcode⟩ | ⟨hsize, hshort⟩
  · rw [hsize]
    refine followed_iff (Nat.zero_le _) hcode fun j _ hj => ?_
    rwa [Nat.lt_one_iff.mp hj]
  · rw [hsize]
    exact followed_iff (Nat.le_refl _) hcode fun j _ hj => absurd hj (Nat.not_lt_zero _)
  · rw [hsize]
    refine iff_of_false (fun hfollowed => ?_) (fun hclear => hclear.notUnit hunit)
    have hle := hshort hunit
    rcases unitAt_iff.mp hunit with hcode | ⟨-, hcode⟩
    · have hlt := (hfollowed 0 (Nat.le_refl _) hcode).1
      omega
    · have hlt := hcode.lt
      omega

theorem splitH264_returns (bytes : List Byte) : ∃ slices, Returns bytes 0 slices ∧
    Contiguous 0 slices bytes.length ∧ ((∀ s ∈ slices, Good bytes s) ↔ Clear bytes (prefixSize bytes)) := by
  obtain ⟨slices, hreturns, hcontiguous, hgood⟩ := loop_spec bytes (Nat.le_refl _) (prefixSize_le bytes)
  rw [Nat.sub_self] at hcontiguous
  exact ⟨slices, fun fuel hfuel => hreturns fuel (by omega), hcontiguous, hgood⟩

theorem Returns.unique {bytes : List Byte} {pre : Nat} {slices slices' : List Slice}
    (h : Returns bytes pre slices) (h' : Returns bytes pre slices') : slices = slices' := by
  have hsome := h (bytes.length + 1) (Nat.lt_succ_self _)
  rw [h' (bytes.length + 1) (Nat.lt_succ_self _)] at hsome
  exact (Option.some.inj hsome).symm

/-- The loop ends for every buffer, with slices that cover it. They are its NAL units exactly when
the buffer begins with a start code, and every start code has at least one byte and no other start
code behind it. -/
theorem splitH264_partitions_iff (bytes : List Byte) :
    (∃ slices, Returns bytes 0 slices ∧ Contiguous 0 slices bytes.length) ∧
      ((∃ slices, Returns bytes 0 slices ∧ Partitions bytes slices) ↔ Delimited bytes) := by
  obtain ⟨slices, hreturns, hcontiguous, hgood⟩ := splitH264_returns bytes
  have hconcat := hcontiguous.concat
  rw [List.drop_zero] at hconcat
  refine ⟨⟨slices, hreturns, hcontiguous⟩, ?_⟩
  rw [delimited_iff, ← hgood]
  constructor
  · rintro ⟨slices', hreturns', hparts⟩
    obtain rfl := hreturns.unique hreturns'
    have hall : ∀ s ∈ slices, Good bytes s := fun s hs => ⟨hparts.nonempty s hs, hparts.interior s hs⟩
    refine ⟨(fromFirst_eq_self_iff fun hnil => ?_).mp (hparts.concat.symm.trans hconcat), hall⟩
    have hlt := (hgood.mp hall).lt
    rw [hnil] at hlt
    exact Nat.not_lt_zero _ hlt
  · rintro ⟨hunit, hall⟩
    have hne : bytes ≠ [] := by
      rintro rfl
      exact Nat.not_lt_zero _ (hgood.mp hall).lt
    exact ⟨slices, hreturns, ⟨0, hcontiguous⟩, hconcat.trans ((fromFirst_eq_self_iff hne).mpr hunit).symm,
      fun s hs => (hall s hs).1, fun s hs => (hall s hs).2⟩

/-- A start code at the end of the buffer stays inside the last slice. -/
def trailingCode : List Byte := [0, 0, 0, 1, 0x65, 0, 0, 1]

theorem trailingCode_not_partitions : ¬ ∀ bytes, ∃ slices, Returns bytes 0 slices ∧ Partitions bytes slices := by
  intro hall
  obtain ⟨slices, hreturns, hparts⟩ := hall trailingCode
  have hslices : splitH264 9 (some trailingCode) 0 = some [{ offset := 0, len := 8, prefixSize := 4 }] := by decide
  rw [hreturns 9 (by decide), Option.some.injEq] at hslices
  subst hslices
  exact hparts.interior _ (List.mem_singleton.mpr rfl) ⟨[0x65], [], by decide⟩

end SplitH264

end WifiDisplay
