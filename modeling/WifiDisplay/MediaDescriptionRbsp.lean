import WifiDisplay.EmulationPrevention
import WifiDisplay.MediaDescriptionReads

/-! What `ExtractNaluRbsp` removes from a NAL unit. It goes on behind a removed byte with the zero
before that byte, which counts for the next comparison too. -/

namespace WifiDisplay

namespace MediaDescription

open EmulationPrevention

/-- The bytes of `extractNaluRbsp` up to its size. -/
def extracted (buf : List Byte) (bufSize : Nat) : List Byte :=
  (extractNaluRbsp buf bufSize).1.take (extractNaluRbsp buf bufSize).2

/-- The bytes that are left behind `a` and `b`. A removed byte hides only the first of them. -/
def compactFrom (a b : Byte) : List Byte → List Byte
  | [] => []
  | c :: bytes =>
    if a = 0 ∧ b = 0 ∧ c = 3 then compactFrom c b bytes else c :: compactFrom b c bytes

/-- A removed byte and one more zero before another 3. -/
def clash : List Byte := [0, 0, 3, 0, 3]

section Compact

variable {a b c d x : Byte} {bytes : List Byte}

theorem compactFrom_keep (h : ¬ (a = 0 ∧ b = 0 ∧ c = 3)) :
    compactFrom a b (c :: bytes) = c :: compactFrom b c bytes := if_neg h

theorem removeFrom_keep (h : ¬ (a = 0 ∧ b = 0 ∧ c = 3)) :
    removeFrom a b (c :: bytes) = c :: removeFrom b c bytes := if_neg h

theorem three_ne_zero : (3 : Byte) ≠ 0 := by decide

theorem removeFrom_left (hb : b ≠ 0) : removeFrom a b bytes = removeFrom x b bytes := by
  cases bytes with
  | nil => rfl
  | cons c bytes =>
    rw [removeFrom_keep fun h => hb h.2.1, removeFrom_keep fun h => hb h.2.1]

theorem removeFrom_left_of_not (h : ¬ (d = 0 ∧ [3] <+: bytes)) :
    removeFrom a d bytes = removeFrom b d bytes := by
  by_cases hd : d = 0
  · cases bytes with
    | nil => rfl
    | cons c bytes =>
      have hc : c ≠ 3 := fun hc => h ⟨hd, hc ▸ List.prefix_append [3] bytes⟩
      rw [removeFrom_keep fun h => hc h.2.2, removeFrom_keep fun h => hc h.2.2]
  · exact removeFrom_left hd

/-- From these states on both keep the next byte, and then are again in the same state, in one of
these or in states of which only the first can remove a byte. -/
theorem length_compactFrom_le (bytes : List Byte) :
    (∀ a b, (compactFrom a b bytes).length ≤ (removeFrom a b bytes).length) ∧
      (compactFrom 3 0 bytes).length ≤ (removeFrom 0 3 bytes).length ∧
      ∀ b, (compactFrom 0 b bytes).length ≤ (removeFrom 3 b bytes).length := by
  induction bytes with
  | nil => exact ⟨fun _ _ => le_rfl, le_rfl, fun _ => le_rfl⟩
  | cons c bytes ih =>
    obtain ⟨hsame, hremoved, hbehind⟩ := ih
    refine ⟨fun a b => ?_, ?_, fun b => ?_⟩
    · rw [compactFrom, removeFrom]
      split
      · rename_i h
        obtain ⟨-, rfl, rfl⟩ := h
        exact hremoved
      · exact Nat.succ_le_succ (hsame b c)
    · rw [compactFrom_keep fun h => three_ne_zero h.1, removeFrom_keep fun h => three_ne_zero h.2.1]
      exact Nat.succ_le_succ (hbehind c)
    · rw [compactFrom, removeFrom_keep fun h => three_ne_zero h.1]
      split
      · rename_i h
        obtain ⟨-, rfl, rfl⟩ := h
        exact hremoved.trans (Nat.le_succ _)
      · exact Nat.succ_le_succ (hsame b c)

theorem clash_infix_cons : clash <:+: a :: bytes ↔
    (a = 0 ∧ [0, 3, 0, 3] <+: bytes) ∨ clash <:+: bytes := by
  rw [List.infix_cons_iff, clash, List.cons_prefix_cons, eq_comm]

theorem not_clash_infix_of_length (h : bytes.length < 5) : ¬ clash <:+: bytes :=
  fun hclash => absurd hclash.length_le (Nat.not_le.mpr h)

theorem clash_infix_removed (h : ¬ (d = 0 ∧ [3] <+: bytes)) :
    clash <:+: 0 :: 0 :: 3 :: d :: bytes ↔ clash <:+: 0 :: d :: bytes := by
  have hthree := three_ne_zero
  have hlong : [3, 0, 3] <+: bytes → [3] <+: bytes := (List.prefix_append [3] [0, 3]).trans
  have hd : (0 : Byte) = d ↔ d = 0 := eq_comm
  simp only [clash_infix_cons, List.cons_prefix_cons, hd]
  tauto

/-- Only a clash makes a difference. -/
theorem compactFrom_eq_iff (a b : Byte) (bytes : List Byte) :
    compactFrom a b bytes = removeFrom a b bytes ↔ ¬ clash <:+: a :: b :: bytes := by
  induction hn : bytes.length using Nat.strong_induction_on generalizing a b bytes with
  | _ n ih =>
    cases bytes with
    | nil => exact iff_of_true rfl (not_clash_infix_of_length (by simp))
    | cons c bytes =>
      by_cases h : a = 0 ∧ b = 0 ∧ c = 3
      · obtain ⟨rfl, rfl, rfl⟩ := h
        rw [compactFrom, removeFrom, if_pos ⟨rfl, rfl, rfl⟩, if_pos ⟨rfl, rfl, rfl⟩]
        cases bytes with
        | nil => exact iff_of_true rfl (not_clash_infix_of_length (by simp))
        | cons d bytes =>
          rw [compactFrom_keep fun h => three_ne_zero h.1, removeFrom_keep fun h => three_ne_zero h.2.1]
          by_cases hnext : d = 0 ∧ [3] <+: bytes
          · obtain ⟨rfl, rest, rfl⟩ := hnext
            have hlength := (length_compactFrom_le rest).2.1
            refine iff_of_false (fun heq => ?_) (not_not.mpr ⟨[], rest, rfl⟩)
            have heq := congrArg List.length heq
            rw [List.singleton_append, compactFrom, if_pos ⟨rfl, rfl, rfl⟩,
              removeFrom_keep fun h => three_ne_zero h.1] at heq
            simp only [List.length_cons] at heq
            omega
          · simp only [List.length_cons] at hn
            rw [clash_infix_removed hnext, @removeFrom_left_of_not 3 0 d bytes hnext, List.cons.injEq]
            rw [ih _ (by omega) 0 d bytes rfl]
            simp
      · have hcons : clash <:+: a :: b :: c :: bytes ↔ clash <:+: b :: c :: bytes := by
          rw [clash_infix_cons, or_iff_right]
          rintro ⟨rfl, hrest⟩
          simp only [List.cons_prefix_cons] at hrest
          exact h ⟨rfl, hrest.1.symm, hrest.2.1.symm⟩
        rw [compactFrom_keep h, removeFrom_keep h, hcons, List.cons.injEq]
        rw [ih _ (by simp [← hn]) b c bytes rfl]
        simp

end Compact

section Loop

theorem getElem?_append_add (l l' : List Byte) (j : Nat) : (l ++ l')[l.length + j]? = l'[j]? := by
  rw [List.getElem?_append_right (Nat.le_add_right _ _), Nat.add_sub_cancel_left]

theorem getD_append_add (l l' : List Byte) (j : Nat) : (l ++ l').getD (l.length + j) 0 = l'.getD j 0 := by
  rw [List.getD_eq_getElem?_getD, getElem?_append_add, List.getD_eq_getElem?_getD]

/-- The inner loop overwrites the removed byte; the last byte stays where it was, too. -/
theorem moveDown_eq (front rest behind : List Byte) (c : Byte) {i : Nat} (hi : front.length = i + 2) :
    moveDown i (front.length + (rest.length + 1)) (front ++ (c :: rest) ++ behind) =
      front ++ (rest ++ [(c :: rest).getLast (List.cons_ne_nil _ _)]) ++ behind := by
  apply List.ext_getElem?
  intro j
  rw [moveDown, List.getElem?_mapIdx, List.append_assoc, List.append_assoc, List.append_assoc]
  by_cases hfront : j < front.length
  · rw [List.getElem?_append_left hfront, List.getElem?_append_left hfront]
    cases front[j]? with
    | none => rfl
    | some b => rw [Option.map_some, if_neg (by omega)]
  obtain ⟨j, rfl⟩ := Nat.exists_eq_add_of_le (Nat.not_lt.mp hfront)
  rw [getElem?_append_add, getElem?_append_add]
  by_cases hrest : j < rest.length
  · have hnext : (front ++ (c :: rest ++ behind)).getD (front.length + j + 1) 0 = rest[j] := by
      rw [List.getD_eq_getElem?_getD, Nat.add_assoc, getElem?_append_add, List.cons_append,
        List.getElem?_cons_succ, List.getElem?_append_left hrest, List.getElem?_eq_getElem hrest]
      rfl
    have hj : j < (c :: rest ++ behind).length := by simp; omega
    rw [hnext, List.getElem?_append_left hrest, List.getElem?_eq_getElem hrest,
      List.getElem?_eq_getElem hj, Option.map_some, if_pos (by omega)]
  · have hsame : (fun b : Byte => if i + 2 ≤ front.length + j ∧
        front.length + j < front.length + (rest.length + 1) - 1 then
        (front ++ (c :: rest ++ behind)).getD (front.length + j + 1) 0 else b) = id := by
      funext b
      rw [if_neg (by omega)]
      rfl
    obtain ⟨j, rfl⟩ := Nat.exists_eq_add_of_le (Nat.not_lt.mp hrest)
    rw [hsame, Option.map_id, id_eq, getElem?_append_add]
    cases j with
    | zero =>
      rw [List.getElem?_append_left (by simp), Nat.add_zero, List.singleton_append,
        List.getElem?_cons_zero, List.getLast_eq_getElem]
      exact List.getElem?_eq_getElem (by simp)
    | succ j =>
      have hindex : rest.length + (j + 1) = (c :: rest).length + j := by
        rw [List.length_cons]
        omega
      rw [hindex, getElem?_append_add, List.singleton_append, List.getElem?_cons_succ]

variable {tmpBufSize n size : Nat}

/-- A round of the outer loop looks at three bytes. -/
theorem extractLoop_succ (front behind : List Byte) (a b c : Byte) :
    extractLoop tmpBufSize (n + 1) front.length (front ++ a :: b :: c :: behind, size) =
      if a = 0 ∧ b = 0 ∧ c = 3 then
        extractLoop tmpBufSize n (front.length + 1)
          (moveDown front.length tmpBufSize (front ++ a :: b :: c :: behind), size - 1)
      else extractLoop tmpBufSize n (front.length + 1) (front ++ a :: b :: c :: behind, size) := by
  rw [extractLoop, getD_append_add front _ 1, getD_append_add front _ 2,
    ← Nat.add_zero front.length, getD_append_add front _ 0]
  rfl

/-- The copies of the last byte behind the RBSP are never removed. -/
theorem extractLoop_copies (front behind : List Byte) (a x : Byte) :
    extractLoop tmpBufSize n front.length (front ++ a :: x :: (List.replicate n x ++ behind), size) =
      (front ++ a :: x :: (List.replicate n x ++ behind), size) := by
  induction n generalizing front a with
  | zero => rfl
  | succ n ih =>
    have hx : ¬ (a = 0 ∧ x = 0 ∧ x = 3) := fun h => three_ne_zero (h.2.2 ▸ h.2.1)
    have hnext := ih (front ++ [a]) x
    rw [List.length_append, List.length_singleton, List.append_assoc, List.singleton_append] at hnext
    rw [List.replicate_succ, List.cons_append, extractLoop_succ, if_neg hx]
    exact hnext

theorem take_front (front behind : List Byte) (a b : Byte) :
    (front ++ a :: b :: behind).take (front.length + 2) = front ++ [a, b] := by
  rw [List.take_length_add_append]
  rfl

/-- A round that removes a byte; there is one more copy of the last byte then. -/
theorem extractLoop_removes (front rest behind : List Byte) (x : Byte) (k : Nat)
    (hlast : (3 :: rest).getLast (List.cons_ne_nil _ _) = x)
    (htmp : tmpBufSize = front.length + 2 + (rest.length + 1 + k)) :
    extractLoop tmpBufSize (n + 1) front.length
        (front ++ 0 :: 0 :: 3 :: (rest ++ (List.replicate k x ++ behind)), size) =
      extractLoop tmpBufSize n (front.length + 1)
        (front ++ 0 :: 0 :: (rest ++ (List.replicate (k + 1) x ++ behind)), size - 1) := by
  have hcopies : (3 :: (rest ++ List.replicate k x)).getLast (List.cons_ne_nil _ _) = x := by
    cases k with
    | zero => simpa using hlast
    | succ k => simp [List.replicate_succ']
  have hmoved := moveDown_eq (front ++ [0, 0]) (rest ++ List.replicate k x) behind 3
    (i := front.length) List.length_append
  have htmp' : (front ++ [0, 0]).length + ((rest ++ List.replicate k x).length + 1) = tmpBufSize := by
    simp only [List.length_append, List.length_cons, List.length_nil, List.length_replicate]
    omega
  rw [hcopies] at hmoved
  simp only [htmp', List.append_assoc, List.cons_append, List.nil_append] at hmoved
  rw [extractLoop_succ, if_pos ⟨rfl, rfl, rfl⟩, hmoved, List.replicate_succ', List.append_assoc]
  rfl

/-- The bytes behind `a` and `b` are compacted; `k` copies of the last one stand behind them. -/
theorem extractLoop_eq (front real behind : List Byte) (a b x : Byte) (k : Nat)
    (hx : (b :: real).getLast (List.cons_ne_nil _ _) = x)
    (htmp : tmpBufSize = front.length + 2 + (real.length + k)) (hn : n = real.length + k)
    (hsize : size = front.length + 2 + real.length) :
    (extractLoop tmpBufSize n front.length
        (front ++ a :: b :: (real ++ (List.replicate k x ++ behind)), size)).1.take
      (extractLoop tmpBufSize n front.length
        (front ++ a :: b :: (real ++ (List.replicate k x ++ behind)), size)).2 =
      front ++ a :: b :: compactFrom a b real := by
  induction hlength : real.length using Nat.strong_induction_on
    generalizing front a b real k n size with
  | _ m ih =>
  cases real with
  | nil =>
    rw [List.getLast_singleton] at hx
    subst hx
    rw [List.nil_append, show n = k by simpa using hn, extractLoop_copies, hsize]
    exact take_front front _ a b
  | cons c rest =>
    simp only [List.length_cons] at htmp hn hsize hlength
    obtain rfl : n = rest.length + k + 1 := by omega
    have hfront : (front ++ [a]).length = front.length + 1 := List.length_append
    have hlast : (c :: rest).getLast (List.cons_ne_nil _ _) = x := by
      rw [← hx, List.getLast_cons (List.cons_ne_nil _ _)]
    rw [List.cons_append, compactFrom]
    by_cases hremoved : a = 0 ∧ b = 0 ∧ c = 3
    · rw [if_pos hremoved]
      obtain ⟨rfl, rfl, rfl⟩ := hremoved
      rw [extractLoop_removes front rest behind x k hlast htmp]
      cases rest with
      | nil =>
        rw [List.getLast_singleton] at hlast
        subst hlast
        have hsame := @extractLoop_copies tmpBufSize k (size - 1) (front ++ [0]) behind 0 3
        have hsize' : size - 1 = front.length + 2 := by
          rw [hsize, List.length_nil]
          omega
        simp only [hfront, List.append_assoc, List.singleton_append] at hsame
        rw [List.length_nil, Nat.zero_add, List.nil_append, List.replicate_succ, List.cons_append, hsame,
          hsize']
        exact take_front front _ 0 0
      | cons d rest =>
        simp only [List.length_cons] at hlength htmp hsize
        have hrest : (d :: rest).getLast (List.cons_ne_nil _ _) = x := by
          rw [← hlast, List.getLast_cons (List.cons_ne_nil _ _)]
        have hrounds : (d :: rest).length + k = rest.length + (k + 1) := by
          rw [List.length_cons]
          omega
        have hnext := @ih rest.length (by omega) (rest.length + (k + 1)) (size - 1) (front ++ [0]) rest 0 d
          (k + 1) hrest (by rw [hfront]; omega) rfl (by rw [hfront]; omega) rfl
        simp only [hfront, List.append_assoc, List.singleton_append] at hnext
        rw [hrounds, compactFrom_keep fun h => three_ne_zero h.1]
        exact hnext
    · rw [extractLoop_succ, if_neg hremoved, if_neg hremoved]
      have hnext := @ih rest.length (by omega) (rest.length + k) size (front ++ [a]) rest b c k hlast
        (by rw [hfront]; omega) rfl (by rw [hfront]; omega) rfl
      simp only [hfront, List.append_assoc, List.singleton_append] at hnext
      exact hnext

theorem extracted_eq {buf : List Byte} {bufSize : Nat} (hsize : bufSize ≤ buf.length) :
    extracted buf bufSize = compactFrom 0xFF 0xFF (buf.take bufSize) := by
  have hff : (0xFF : Byte) ≠ 0 := by decide
  have hbuf := List.take_append_drop bufSize buf
  have hlength := List.length_take_of_le hsize
  generalize buf.take bufSize = bytes at hbuf hlength ⊢
  generalize buf.drop bufSize = behind at hbuf
  subst hbuf hlength
  rw [extracted, extractNaluRbsp]
  rcases bytes with - | ⟨a, - | ⟨b, real⟩⟩
  · rfl
  · rw [compactFrom_keep fun h => hff h.1]
    rfl
  · rw [compactFrom_keep fun h => hff h.1, compactFrom_keep fun h => hff h.1]
    have hloop := @extractLoop_eq (real.length + 2) real.length (real.length + 2) [] real behind a b _ 0
      rfl (by simp; omega) rfl (by simp; omega)
    simp only [List.replicate_zero, List.nil_append] at hloop
    exact hloop

end Loop

theorem extracted_eq_remove_iff (nal : List Byte) :
    extracted nal nal.length = remove nal ↔ ¬ clash <:+: nal := by
  have hff : (0xFF : Byte) ≠ 0 := by decide
  have hclash : clash <:+: 0xFF :: 0xFF :: nal ↔ clash <:+: nal := by
    rw [clash_infix_cons, or_iff_right fun h => hff h.1, clash_infix_cons, or_iff_right fun h => hff h.1]
  rw [extracted_eq le_rfl, List.take_length, remove, compactFrom_eq_iff, hclash]

/-- `ExtractNaluRbsp` gives the RBSP exactly of the NAL units without a clash, and so it gives back
exactly the RBSPs whose NAL unit has none. -/
theorem extracted_iff (nal rbsp : List Byte) :
    (extracted nal nal.length = remove nal ↔ ¬ clash <:+: nal) ∧
      (extracted (insert rbsp) (insert rbsp).length = rbsp ↔ ¬ clash <:+: insert rbsp) := by
  refine ⟨extracted_eq_remove_iff nal, ?_⟩
  have hiff := extracted_eq_remove_iff (insert rbsp)
  rwa [remove_insert] at hiff

/-- The RBSP ends in a 3 that is not an emulation prevention byte. -/
theorem clash_not_extracted :
    ¬ ∀ nal, extracted nal nal.length = remove nal := by
  intro hall
  have hwrong : extracted ([0x67] ++ clash) 6 ≠ remove ([0x67] ++ clash) := by decide +kernel
  exact hwrong (hall _)

end MediaDescription

end WifiDisplay
