import Mathlib.Data.List.Basic

/-! Splitting a text at every occurrence of a literal delimiter, from the left,
with an empty piece after the last delimiter left out. -/

namespace TextSplit

variable {α : Type*} [DecidableEq α]

/-- The parts before and after the first occurrence. -/
def breakOn (d : List α) : List α → Option (List α × List α)
  | [] => if d = [] then some ([], []) else none
  | c :: s =>
    if d.isPrefixOf (c :: s) then some ([], (c :: s).drop d.length)
    else (breakOn d s).map fun p => (c :: p.1, p.2)

/-- Each round consumes a piece, so the length bounds the rounds. -/
def splitFrom (d : List α) : Nat → List α → List (List α)
  | 0, s => [s]
  | n + 1, s =>
    match breakOn d s with
    | none => [s]
    | some (p, r) => p :: if r = [] then [] else splitFrom d n r

def split (d s : List α) : List (List α) := splitFrom d s.length s

def join (d : List α) (pieces : List (List α)) : List α := pieces.intersperse d |>.flatten

theorem breakOn_eq_some {d s p r : List α} (h : breakOn d s = some (p, r)) : s = p ++ d ++ r := by
  induction s generalizing p with
  | nil =>
    simp only [breakOn] at h
    split at h
    · rename_i hd
      simp only [Option.some.injEq, Prod.mk.injEq] at h
      simp [hd, ← h.1, ← h.2]
    · simp at h
  | cons c s ih =>
    simp only [breakOn] at h
    split at h
    · rename_i hp
      obtain ⟨t, ht⟩ := List.isPrefixOf_iff_prefix.mp hp
      simp only [Option.some.injEq, Prod.mk.injEq] at h
      rw [← h.1, ← h.2, ← ht, List.drop_left, List.nil_append]
    · obtain ⟨⟨p', r'⟩, hb, he⟩ := Option.map_eq_some_iff.mp h
      obtain ⟨rfl, rfl⟩ := Prod.mk.inj he
      rw [ih hb]
      simp

theorem breakOn_length {d s p r : List α} (hd : d ≠ []) (h : breakOn d s = some (p, r)) :
    r.length < s.length := by
  have hpos := List.length_pos_iff.mpr hd
  rw [breakOn_eq_some h, List.length_append, List.length_append]
  omega

theorem breakOn_append {d s p r : List α} (h : breakOn d s = some (p, r)) (t : List α) :
    breakOn d (s ++ t) = some (p, r ++ t) := by
  induction s generalizing p with
  | nil =>
    simp only [breakOn] at h
    split at h
    · rename_i hd
      simp only [Option.some.injEq, Prod.mk.injEq] at h
      cases t <;> simp [breakOn, hd, ← h.1, ← h.2]
    · simp at h
  | cons c s ih =>
    simp only [breakOn, List.cons_append] at h ⊢
    split at h
    · rename_i hp
      obtain ⟨u, hu⟩ := List.isPrefixOf_iff_prefix.mp hp
      have hp' : d.isPrefixOf (c :: (s ++ t)) := by
        rw [List.isPrefixOf_iff_prefix, ← List.cons_append, ← hu, List.append_assoc]
        exact List.prefix_append _ _
      simp only [Option.some.injEq, Prod.mk.injEq] at h
      rw [if_pos hp', ← h.1, ← h.2, ← List.cons_append, ← hu, List.append_assoc, List.drop_left,
        List.drop_left]
    · rename_i hp
      obtain ⟨⟨p', r'⟩, hb, he⟩ := Option.map_eq_some_iff.mp h
      obtain ⟨rfl, rfl⟩ := Prod.mk.inj he
      have hs := congrArg List.length (breakOn_eq_some hb)
      rw [List.length_append, List.length_append] at hs
      have hp' : ¬ d.isPrefixOf (c :: (s ++ t)) := by
        intro hd
        apply hp
        rw [List.isPrefixOf_iff_prefix] at hd ⊢
        refine List.prefix_of_prefix_length_le hd (List.prefix_append (c :: s) t) ?_
        rw [List.length_cons]
        omega
      rw [if_neg hp', ih hb]
      rfl

theorem breakOn_delimiter {d : List α} (hd : d ≠ []) (r : List α) :
    breakOn d (d ++ r) = some ([], r) := by
  obtain ⟨x, d, rfl⟩ := List.exists_cons_of_ne_nil hd
  have hp : (x :: d).isPrefixOf (x :: (d ++ r)) := by
    rw [List.isPrefixOf_iff_prefix]
    exact List.prefix_append (x :: d) r
  rw [List.cons_append, breakOn, if_pos hp, ← List.cons_append, List.drop_left]

theorem breakOn_infix {d : List α} (hd : d ≠ []) (p r : List α) : breakOn d (p ++ d ++ r) ≠ none := by
  induction p with
  | nil => simp [breakOn_delimiter hd]
  | cons c p ih =>
    rw [List.cons_append, List.cons_append, breakOn]
    split
    · simp
    · simpa using ih

theorem breakOn_eq_none_of_append {d s t p : List α} (ht : t ≠ [])
    (h : breakOn d (s ++ t) = some (p, [])) : breakOn d s = none := by
  cases hb : breakOn d s with
  | none => rfl
  | some q =>
    rw [breakOn_append hb t] at h
    simp_all

theorem splitFrom_eq {d : List α} (hd : d ≠ []) {n m : Nat} {s : List α} (hn : s.length ≤ n)
    (hm : s.length ≤ m) : splitFrom d n s = splitFrom d m s := by
  induction n generalizing m s with
  | zero =>
    obtain rfl := List.length_eq_zero_iff.mp (Nat.le_zero.mp hn)
    cases m <;> simp [splitFrom, breakOn, hd]
  | succ n ih =>
    cases m with
    | zero =>
      obtain rfl := List.length_eq_zero_iff.mp (Nat.le_zero.mp hm)
      simp [splitFrom, breakOn, hd]
    | succ m =>
      simp only [splitFrom]
      split
      · rfl
      · rename_i p r hb
        have hlt := breakOn_length hd hb
        rw [ih (m := m) (by omega) (by omega)]

theorem split_of_none {d s : List α} (h : breakOn d s = none) : split d s = [s] := by
  rw [split]
  cases s.length with
  | zero => rfl
  | succ n => simp [splitFrom, h]

theorem split_of_some {d s p r : List α} (hd : d ≠ []) (h : breakOn d s = some (p, r)) :
    split d s = p :: if r = [] then [] else split d r := by
  have hlt := breakOn_length hd h
  rw [split, show s.length = s.length - 1 + 1 by omega]
  simp only [splitFrom, h]
  rw [splitFrom_eq hd (n := s.length - 1) (m := r.length) (by omega) (Nat.le_refl _)]
  rfl

theorem split_ne_nil (d s : List α) : split d s ≠ [] := by
  rw [split]
  cases s.length with
  | zero => simp [splitFrom]
  | succ n =>
    simp only [splitFrom]
    split <;> simp

theorem splitFrom_subset {d : List α} {n : Nat} {s p : List α} (hp : p ∈ splitFrom d n s) :
    p ⊆ s := by
  induction n generalizing s with
  | zero =>
    obtain rfl := List.mem_singleton.mp hp
    exact List.Subset.refl _
  | succ n ih =>
    simp only [splitFrom] at hp
    split at hp
    · obtain rfl := List.mem_singleton.mp hp
      exact List.Subset.refl _
    · rename_i q r hb
      rw [breakOn_eq_some hb]
      rcases List.mem_cons.mp hp with rfl | hp
      · simp
      · split at hp
        · simp at hp
        · exact List.subset_append_of_subset_right _ (ih hp)

theorem split_subset {d s p : List α} (hp : p ∈ split d s) : p ⊆ s := splitFrom_subset hp

/-! A delimiter whose first letter does not come again cannot overlap itself. -/

theorem breakOn_of_none {x : α} {d s : List α} (hx : x ∉ d) (h : breakOn (x :: d) s = none)
    (r : List α) : breakOn (x :: d) (s ++ (x :: d) ++ r) = some (s, r) := by
  induction s with
  | nil => exact breakOn_delimiter (List.cons_ne_nil x d) r
  | cons c s ih =>
    simp only [breakOn] at h
    split at h
    · simp at h
    · rename_i hp
      have hnone : breakOn (x :: d) s = none := by simpa using h
      have hp' : ¬ (x :: d).isPrefixOf (c :: (s ++ (x :: d) ++ r)) := by
        intro hd
        rw [List.isPrefixOf_iff_prefix] at hd hp
        obtain ⟨rfl, htail⟩ := List.cons_prefix_cons.mp hd
        rcases Nat.lt_or_ge s.length d.length with hlt | hge
        · have hs : s ++ [x] <+: s ++ (x :: d) ++ r := by
            rw [List.append_assoc, List.cons_append]
            exact (List.prefix_append_right_inj s).mpr ⟨d ++ r, rfl⟩
          have hsx := List.prefix_of_prefix_length_le hs htail (by simpa using Nat.succ_le_of_lt hlt)
          exact hx (hsx.subset (by simp))
        · have hs : s <+: s ++ (x :: d) ++ r := by
            rw [List.append_assoc]
            exact List.prefix_append s _
          exact hp (List.cons_prefix_cons.mpr ⟨rfl, List.prefix_of_prefix_length_le htail hs hge⟩)
      rw [List.cons_append, List.cons_append, breakOn, if_neg hp', ih hnone]
      rfl

theorem split_append {x : α} {d s : List α} (hx : x ∉ d) (hs : s ≠ []) (hend : ¬ (x :: d) <:+ s)
    (r : List α) :
    split (x :: d) (s ++ (x :: d) ++ r) =
      split (x :: d) s ++ if r = [] then [] else split (x :: d) r := by
  have hd : x :: d ≠ [] := List.cons_ne_nil x d
  induction hn : s.length using Nat.strongRecOn generalizing s with
  | _ n ih =>
    subst hn
    cases hb : breakOn (x :: d) s with
    | none =>
      rw [split_of_none hb, split_of_some hd (breakOn_of_none hx hb r)]
      rfl
    | some q =>
      obtain ⟨p, t⟩ := q
      have hst := breakOn_eq_some hb
      have ht : t ≠ [] := by
        rintro rfl
        exact hend ⟨p, by rw [hst, List.append_nil]⟩
      have htend : ¬ (x :: d) <:+ t := by
        intro hsuf
        apply hend
        rw [hst]
        exact hsuf.trans (List.suffix_append _ t)
      have hih := ih t.length (breakOn_length hd hb) ht htend rfl
      have happ := breakOn_append hb ((x :: d) ++ r)
      rw [← List.append_assoc, ← List.append_assoc] at happ
      have hne : t ++ (x :: d) ++ r ≠ [] := by simp
      rw [split_of_some hd happ, if_neg hne, hih, split_of_some hd hb, if_neg ht]
      rfl

end TextSplit

/-! Texts joined from pieces that do not contain the first letter of the delimiter
split into these pieces again. -/

namespace TextSplit

variable {α : Type*} {x : α} {d : List α}

/-- Every piece with a delimiter behind it. -/
def ended (d : List α) (pieces : List (List α)) : List α := pieces.flatMap (· ++ d)

@[simp] theorem ended_nil : ended d [] = [] := rfl

@[simp] theorem ended_cons (p : List α) (pieces : List (List α)) :
    ended d (p :: pieces) = p ++ d ++ ended d pieces := rfl

theorem ended_append (pieces pieces' : List (List α)) :
    ended d (pieces ++ pieces') = ended d pieces ++ ended d pieces' := List.flatMap_append

theorem ended_eq_nil (hd : d ≠ []) {pieces : List (List α)} : ended d pieces = [] ↔ pieces = [] := by
  cases pieces with
  | nil => simp
  | cons p pieces => simp [hd]

@[simp] theorem join_singleton (p : List α) : join d [p] = p := by simp [join]

theorem join_cons_cons (p q : List α) (pieces : List (List α)) :
    join d (p :: q :: pieces) = p ++ d ++ join d (q :: pieces) := by
  simp [join, List.intersperse]

theorem join_append_delimiter {pieces : List (List α)} (hne : pieces ≠ []) :
    join d pieces ++ d = ended d pieces := by
  induction pieces with
  | nil => exact absurd rfl hne
  | cons p pieces ih =>
    cases pieces with
    | nil => simp
    | cons q pieces => rw [join_cons_cons, List.append_assoc, ih (by simp), ended_cons p]

variable [DecidableEq α]

theorem breakOn_append_of_not_mem {p : List α} (hp : x ∉ p) (s : List α) :
    breakOn (x :: d) (p ++ s) = (breakOn (x :: d) s).map fun q => (p ++ q.1, q.2) := by
  induction p with
  | nil => simp
  | cons c p ih =>
    have hc : x ≠ c := fun h => hp (by simp [h])
    have hnot : ¬ (x :: d).isPrefixOf (c :: (p ++ s)) := by simp [hc]
    rw [List.cons_append, breakOn, if_neg hnot, ih fun h => hp (by simp [h])]
    cases breakOn (x :: d) s <;> rfl

theorem breakOn_of_not_mem {p : List α} (hp : x ∉ p) : breakOn (x :: d) p = none := by
  have h := breakOn_append_of_not_mem (d := d) hp []
  rw [List.append_nil] at h
  rw [h]
  simp [breakOn]

theorem breakOn_piece {p : List α} (hp : x ∉ p) (r : List α) :
    breakOn (x :: d) (p ++ (x :: d) ++ r) = some (p, r) := by
  rw [List.append_assoc, breakOn_append_of_not_mem hp, breakOn_delimiter (by simp)]
  simp

theorem split_of_not_mem {p : List α} (hp : x ∉ p) : split (x :: d) p = [p] :=
  split_of_none (breakOn_of_not_mem hp)

theorem split_piece {p : List α} (hp : x ∉ p) (r : List α) :
    split (x :: d) (p ++ (x :: d) ++ r) = p :: if r = [] then [] else split (x :: d) r :=
  split_of_some (by simp) (breakOn_piece hp r)

theorem split_ended {pieces : List (List α)} (hne : pieces ≠ []) (hx : ∀ p ∈ pieces, x ∉ p) :
    split (x :: d) (ended (x :: d) pieces) = pieces := by
  induction pieces with
  | nil => exact absurd rfl hne
  | cons p pieces ih =>
    rw [ended_cons, split_piece (hx p (by simp))]
    by_cases hp : pieces = []
    · simp [hp]
    · have hr : ended (x :: d) pieces ≠ [] := fun h => hp ((ended_eq_nil (by simp)).mp h)
      rw [if_neg hr, ih hp fun q hq => hx q (by simp [hq])]

theorem split_join {pieces : List (List α)} (hne : pieces ≠ []) (hx : ∀ p ∈ pieces, x ∉ p)
    (hlast : pieces.getLast? ≠ some []) : split (x :: d) (join (x :: d) pieces) = pieces := by
  induction pieces with
  | nil => exact absurd rfl hne
  | cons p pieces ih =>
    cases pieces with
    | nil => rw [join_singleton, split_of_not_mem (hx p (by simp))]
    | cons q pieces =>
      rw [List.getLast?_cons_cons] at hlast
      have hrest : join (x :: d) (q :: pieces) ≠ [] := by
        cases pieces with
        | nil =>
          rw [join_singleton]
          rintro rfl
          exact hlast rfl
        | cons r pieces => simp [join_cons_cons]
      rw [join_cons_cons, split_piece (hx p (by simp)), if_neg hrest,
        ih (by simp) (fun r hr => hx r (by simp [hr])) hlast]

end TextSplit
