import Mathlib.Data.List.Perm.Subperm
import WifiDisplay.PartialMaps

/-! Maps with ordered keys as the strictly ascending list of their entries, with
the insertion, search and removal operations of `std::map`. -/

structure OrderedMap (K V : Type*) [LT K] where
  toList : List (K × V)
  sorted : toList.Pairwise (fun a b => a.1 < b.1)

namespace OrderedMap

variable {K V : Type*} [LT K]

def empty : OrderedMap K V := ⟨[], List.Pairwise.nil⟩

def size (m : OrderedMap K V) : Nat := m.toList.length

instance : Membership (K × V) (OrderedMap K V) := ⟨fun m e => e ∈ m.toList⟩

@[simp] theorem mem_toList {m : OrderedMap K V} {e : K × V} : e ∈ m.toList ↔ e ∈ m := Iff.rfl

def begin? (m : OrderedMap K V) : Option (K × V) := m.toList.head?

theorem begin?_some {m : OrderedMap K V} {e : K × V} (h : m.begin? = some e) :
    e ∈ m ∧ ∀ e' ∈ m, e' = e ∨ e.1 < e'.1 := by
  obtain ⟨l, hl⟩ := List.head?_eq_some_iff.mp h
  have hs := m.sorted
  rw [hl] at hs
  refine ⟨List.mem_of_mem_head? h, ?_⟩
  intro e' he'
  rw [← mem_toList, hl] at he'
  rcases List.mem_cons.mp he' with rfl | he'
  · exact Or.inl rfl
  · exact Or.inr ((List.pairwise_cons.mp hs).1 e' he')

theorem value_unique [LE K] [Std.LawfulOrderLT K] (m : OrderedMap K V) {k : K} {v v' : V}
    (h : (k, v) ∈ m) (h' : (k, v') ∈ m) : v = v' := by
  have hup : m.toList.Pairwise fun a b => a.1 = b.1 → a.2 = b.2 :=
    m.sorted.imp fun hlt heq => absurd heq (Std.ne_of_lt hlt)
  have hdown : m.toList.Pairwise (flip fun a b => a.1 = b.1 → a.2 = b.2) :=
    m.sorted.imp fun hlt heq => absurd heq.symm (Std.ne_of_lt hlt)
  exact List.Pairwise.forall_of_forall_of_flip (fun _ _ _ => rfl) hup hdown h h' rfl

/-- The entries that meet `p`. -/
def filter (m : OrderedMap K V) (p : K × V → Bool) : OrderedMap K V :=
  ⟨m.toList.filter p, m.sorted.filter p⟩

theorem mem_filter {m : OrderedMap K V} {p : K × V → Bool} {e : K × V} :
    e ∈ m.filter p ↔ e ∈ m ∧ p e = true := List.mem_filter

/-- A change of the values in place. -/
def mapValues (m : OrderedMap K V) (f : V → V) : OrderedMap K V :=
  ⟨m.toList.map fun e => (e.1, f e.2), m.sorted.map _ fun _ _ h => h⟩

theorem mem_mapValues {m : OrderedMap K V} {f : V → V} {e : K × V} :
    e ∈ m.mapValues f ↔ ∃ v, (e.1, v) ∈ m ∧ f v = e.2 := by
  rw [← mem_toList, mapValues, List.mem_map]
  constructor
  · rintro ⟨e', he', rfl⟩
    exact ⟨e'.2, he', rfl⟩
  · rintro ⟨v, hv, hf⟩
    exact ⟨(e.1, v), hv, Prod.ext rfl hf⟩

section Erase

variable [DecidableEq K]

def find? (m : OrderedMap K V) (k : K) : Option V := (m.toList.find? (·.1 = k)).map Prod.snd

theorem mem_of_find? {m : OrderedMap K V} {k : K} {v : V} (h : m.find? k = some v) : (k, v) ∈ m :=
  PartialMap.mem_of_find? h

theorem isSome_find? {m : OrderedMap K V} {k : K} : (m.find? k).isSome ↔ ∃ v, (k, v) ∈ m := by
  constructor
  · intro h
    obtain ⟨v, hv⟩ := Option.isSome_iff_exists.mp h
    exact ⟨v, mem_of_find? hv⟩
  · rintro ⟨v, hv⟩
    rw [find?, Option.isSome_map, List.find?_isSome]
    exact ⟨(k, v), hv, by simp⟩

def erase (m : OrderedMap K V) (k : K) : OrderedMap K V :=
  ⟨m.toList.filter fun e => e.1 ≠ k, m.sorted.filter _⟩

theorem mem_erase {m : OrderedMap K V} {k : K} {e : K × V} :
    e ∈ m.erase k ↔ e ∈ m ∧ e.1 ≠ k := by
  rw [← mem_toList, erase, List.mem_filter, mem_toList]
  simp

variable [LE K] [Std.LawfulOrderLT K]

theorem find?_eq_some {m : OrderedMap K V} {k : K} {v : V} : m.find? k = some v ↔ (k, v) ∈ m := by
  refine ⟨mem_of_find?, fun h => ?_⟩
  obtain ⟨v', hv'⟩ := Option.isSome_iff_exists.mp (isSome_find?.mpr ⟨v, h⟩)
  rw [hv', value_unique m (mem_of_find? hv') h]

theorem find?_congr {m m' : OrderedMap K V} {k : K} (h : ∀ v, (k, v) ∈ m ↔ (k, v) ∈ m') : m.find? k = m'.find? k := by
  apply Option.ext
  intro v
  rw [find?_eq_some, find?_eq_some, h v]

theorem erase_toList {m : OrderedMap K V} {e : K × V} {l : List (K × V)}
    (h : m.toList = e :: l) : (m.erase e.1).toList = l := by
  have hs := m.sorted
  rw [h] at hs
  show m.toList.filter _ = l
  rw [h, List.filter_cons_of_neg (by simp), List.filter_eq_self]
  intro a ha
  have hlt := (List.pairwise_cons.mp hs).1 a ha
  simpa using (Std.ne_of_lt hlt).symm

theorem perm_erase {m : OrderedMap K V} {e : K × V} (h : e ∈ m) :
    m.toList.Perm (e :: (m.erase e.1).toList) := by
  obtain ⟨before, after, hl⟩ := List.append_of_mem (mem_toList.mpr h)
  have hs := m.sorted
  rw [hl] at hs
  obtain ⟨-, hafter, hbefore⟩ := List.pairwise_append.mp hs
  have hb : before.filter (fun a => a.1 ≠ e.1) = before := by
    rw [List.filter_eq_self]
    intro a ha
    simpa using Std.ne_of_lt (hbefore a ha e List.mem_cons_self)
  have ha : after.filter (fun a => a.1 ≠ e.1) = after := by
    rw [List.filter_eq_self]
    intro a ha
    simpa using (Std.ne_of_lt ((List.pairwise_cons.mp hafter).1 a ha)).symm
  have herase : (m.erase e.1).toList = before ++ after := by
    show m.toList.filter _ = _
    rw [hl, List.filter_append, hb, List.filter_cons_of_neg (by simp), ha]
  rw [hl, herase]
  exact List.perm_middle

theorem countP_erase {m : OrderedMap K V} {e : K × V} (h : e ∈ m) (p : K × V → Bool) :
    m.toList.countP p = (m.erase e.1).toList.countP p + if p e then 1 else 0 := by
  rw [(perm_erase h).countP_eq, List.countP_cons]

theorem size_erase {m : OrderedMap K V} {e : K × V} (h : e ∈ m) :
    (m.erase e.1).size + 1 = m.size := by
  simpa [size] using (perm_erase h).length_eq.symm

end Erase

variable [DecidableLT K]

/-- The first entry whose key is not less than `k`. -/
def lowerBound (m : OrderedMap K V) (k : K) : Option (K × V) := m.toList.find? fun e => ¬ e.1 < k

theorem lowerBound_some {m : OrderedMap K V} {k : K} {e : K × V} (h : m.lowerBound k = some e) :
    e ∈ m ∧ ¬ e.1 < k ∧ ∀ e' ∈ m, e'.1 < k ∨ e' = e ∨ e.1 < e'.1 := by
  obtain ⟨hp, before, after, hl, hb⟩ := List.find?_eq_some_iff_append.mp h
  have hs := m.sorted
  rw [hl] at hs
  refine ⟨List.mem_of_find?_eq_some h, by simpa using hp, ?_⟩
  intro e' he'
  rw [← mem_toList, hl] at he'
  rcases List.mem_append.mp he' with he' | he'
  · exact Or.inl (by simpa using hb e' he')
  · rcases List.mem_cons.mp he' with rfl | he'
    · exact Or.inr (Or.inl rfl)
    · have hs' := (List.pairwise_append.mp hs).2.1
      exact Or.inr (Or.inr ((List.pairwise_cons.mp hs').1 e' he'))

theorem lowerBound_none {m : OrderedMap K V} {k : K} (h : m.lowerBound k = none) :
    ∀ e ∈ m, e.1 < k := by
  intro e he
  simpa using List.find?_eq_none.mp h e he

theorem lowerBound_key [LE K] [Std.LawfulOrderLT K] {m : OrderedMap K V} {e : K × V} (h : e ∈ m) :
    m.lowerBound e.1 = some e := by
  cases hlb : m.lowerBound e.1 with
  | none => exact absurd (lowerBound_none hlb e h) Std.lt_irrefl
  | some e' =>
    obtain ⟨-, hge, hleast⟩ := lowerBound_some hlb
    rcases hleast e h with hlt | rfl | hlt
    · exact absurd hlt Std.lt_irrefl
    · rfl
    · exact absurd hlt hge

/-- `emplace` on the entries: an entry with the key stays as it is. -/
def emplaceList (k : K) (v : V) : List (K × V) → List (K × V)
  | [] => [(k, v)]
  | e :: l => if k < e.1 then (k, v) :: e :: l else if e.1 < k then e :: emplaceList k v l else e :: l

theorem mem_of_mem_emplaceList {k : K} {v : V} {l : List (K × V)} {e : K × V}
    (h : e ∈ emplaceList k v l) : e = (k, v) ∨ e ∈ l := by
  induction l with
  | nil => exact Or.inl (by simpa [emplaceList] using h)
  | cons a l ih =>
    simp only [emplaceList] at h
    split at h
    · simpa using h
    · split at h
      · rcases List.mem_cons.mp h with h | h
        · simp [h]
        · rcases ih h with h | h <;> simp [h]
      · exact Or.inr h

theorem emplaceList_subperm (k : K) (v : V) (l : List (K × V)) :
    (emplaceList k v l).Subperm ((k, v) :: l) := by
  induction l with
  | nil => exact List.Subperm.refl _
  | cons a l ih =>
    simp only [emplaceList]
    split
    · exact List.Subperm.refl _
    · split
      · exact ((List.subperm_cons a).mpr ih).trans (List.Perm.swap _ _ _).subperm
      · exact (List.sublist_cons_self _ _).subperm

variable [LE K] [Std.IsLinearOrder K] [Std.LawfulOrderLT K]

theorem sorted_emplaceList (k : K) (v : V) {l : List (K × V)}
    (h : l.Pairwise (fun a b => a.1 < b.1)) :
    (emplaceList k v l).Pairwise (fun a b => a.1 < b.1) := by
  induction l with
  | nil => simp [emplaceList]
  | cons a l ih =>
    obtain ⟨ha, hl⟩ := List.pairwise_cons.mp h
    simp only [emplaceList]
    split
    · rename_i hk
      refine List.pairwise_cons.mpr ⟨?_, h⟩
      intro b hb
      rcases List.mem_cons.mp hb with rfl | hb
      · exact hk
      · exact Std.lt_trans hk (ha b hb)
    · split
      · rename_i hk
        refine List.pairwise_cons.mpr ⟨?_, ih hl⟩
        intro b hb
        rcases mem_of_mem_emplaceList hb with rfl | hb
        · exact hk
        · exact ha b hb
      · exact h

def emplace (m : OrderedMap K V) (k : K) (v : V) : OrderedMap K V :=
  ⟨emplaceList k v m.toList, sorted_emplaceList k v m.sorted⟩

/-- `m[k] = v`. -/
def assign [DecidableEq K] (m : OrderedMap K V) (k : K) (v : V) : OrderedMap K V :=
  (m.erase k).emplace k v

theorem find?_emplaceList_self {k : K} {v : V} [DecidableEq K] {l : List (K × V)}
    (h : ∀ e ∈ l, e.1 ≠ k) : (emplaceList k v l).find? (·.1 = k) = some (k, v) := by
  induction l with
  | nil => simp [emplaceList]
  | cons a l ih =>
    have ha : a.1 ≠ k := h a List.mem_cons_self
    simp only [emplaceList]
    split
    · simp
    · rename_i hk
      have hlt : a.1 < k := Std.lt_of_le_of_ne (Std.not_lt.mp hk) ha
      rw [if_pos hlt, List.find?_cons_of_neg (by simpa using ha)]
      exact ih fun e he => h e (List.mem_cons_of_mem a he)

theorem find?_assign_self [DecidableEq K] (m : OrderedMap K V) (k : K) (v : V) :
    (m.assign k v).find? k = some v := by
  have hne : ∀ e ∈ (m.erase k).toList, e.1 ≠ k := fun e he => (mem_erase.mp he).2
  rw [find?, assign, emplace, find?_emplaceList_self hne]
  rfl

theorem mem_of_mem_emplace {m : OrderedMap K V} {k : K} {v : V} {e : K × V}
    (h : e ∈ m.emplace k v) : e = (k, v) ∨ e ∈ m := mem_of_mem_emplaceList h

theorem mem_emplaceList {k : K} {v : V} {l : List (K × V)} (h : ∀ e ∈ l, e.1 ≠ k) {e : K × V} :
    e ∈ emplaceList k v l ↔ e = (k, v) ∨ e ∈ l := by
  induction l with
  | nil => simp [emplaceList]
  | cons a l ih =>
    simp only [emplaceList]
    split
    · simp
    · rename_i hk
      have hlt : a.1 < k := Std.lt_of_le_of_ne (Std.not_lt.mp hk) (h a List.mem_cons_self)
      rw [if_pos hlt, List.mem_cons, ih fun e he => h e (List.mem_cons_of_mem a he), List.mem_cons]
      exact or_left_comm

theorem mem_emplace {m : OrderedMap K V} {k : K} {v : V} (h : ∀ e ∈ m, e.1 ≠ k) {e : K × V} :
    e ∈ m.emplace k v ↔ e = (k, v) ∨ e ∈ m := mem_emplaceList h

/-- A new entry stands before the entries with greater keys. -/
theorem emplaceList_split {k : K} {v : V} {l : List (K × V)} (h : ∀ e ∈ l, e.1 ≠ k)
    (hs : l.Pairwise (fun a b => a.1 < b.1)) : ∃ before after, l = before ++ after ∧
      emplaceList k v l = before ++ (k, v) :: after ∧ ∀ e ∈ after, k < e.1 := by
  induction l with
  | nil => exact ⟨[], [], rfl, rfl, nofun⟩
  | cons a l ih =>
    obtain ⟨hal, hl⟩ := List.pairwise_cons.mp hs
    simp only [emplaceList]
    split
    · rename_i hk
      refine ⟨[], a :: l, rfl, rfl, ?_⟩
      intro e he
      rcases List.mem_cons.mp he with rfl | he
      · exact hk
      · exact Std.lt_trans hk (hal e he)
    · rename_i hk
      have ha : a.1 < k := Std.lt_of_le_of_ne (Std.not_lt.mp hk) (h a List.mem_cons_self)
      obtain ⟨before, after, hsplit, hemplace, hafter⟩ :=
        ih (fun e he => h e (List.mem_cons_of_mem a he)) hl
      rw [if_pos ha]
      exact ⟨a :: before, after, by rw [hsplit, List.cons_append], by rw [hemplace, List.cons_append],
        hafter⟩

theorem emplace_split {m : OrderedMap K V} {k : K} {v : V} (h : ∀ e ∈ m, e.1 ≠ k) :
    ∃ before after, m.toList = before ++ after ∧
      (m.emplace k v).toList = before ++ (k, v) :: after ∧ ∀ e ∈ after, k < e.1 :=
  emplaceList_split h m.sorted

/-- An entry with the key stays as it is. -/
theorem emplaceList_of_mem {k : K} {v v' : V} {l : List (K × V)} (h : (k, v') ∈ l)
    (hs : l.Pairwise (fun a b => a.1 < b.1)) : emplaceList k v l = l := by
  induction l with
  | nil => cases h
  | cons a l ih =>
    obtain ⟨hal, hl⟩ := List.pairwise_cons.mp hs
    simp only [emplaceList]
    rcases List.mem_cons.mp h with rfl | h
    · rw [if_neg Std.lt_irrefl, if_neg Std.lt_irrefl]
    · have hlt : a.1 < k := hal _ h
      rw [if_neg fun hk => Std.lt_irrefl (Std.lt_trans hk hlt), if_pos hlt, ih h hl]

theorem emplace_of_mem {m : OrderedMap K V} {k : K} {v v' : V} (h : (k, v') ∈ m) :
    (m.emplace k v).toList = m.toList := emplaceList_of_mem h m.sorted

theorem perm_emplace {m : OrderedMap K V} {k : K} {v : V} (h : ∀ e ∈ m, e.1 ≠ k) :
    (m.emplace k v).toList.Perm ((k, v) :: m.toList) := by
  obtain ⟨before, after, hl, hemplace, -⟩ := emplace_split h
  rw [hl, hemplace]
  exact List.perm_middle

/-- The map of the given entries. -/
def ofList : List (K × V) → OrderedMap K V
  | [] => empty
  | e :: l => (ofList l).emplace e.1 e.2

theorem perm_ofList {l : List (K × V)} (h : (l.map Prod.fst).Nodup) : (ofList l).toList.Perm l := by
  induction l with
  | nil => exact .nil
  | cons e l ih =>
    rw [List.map_cons, List.nodup_cons] at h
    obtain ⟨hne, hl⟩ := h
    refine (perm_emplace fun e' he' hkey => hne ?_).trans ((ih hl).cons e)
    rw [← hkey]
    exact List.mem_map_of_mem ((ih hl).mem_iff.mp he')

theorem emplace_subperm (m : OrderedMap K V) (k : K) (v : V) :
    (m.emplace k v).toList.Subperm ((k, v) :: m.toList) := emplaceList_subperm k v m.toList

theorem countP_emplace_le (m : OrderedMap K V) (k : K) (v : V) (p : K × V → Bool) :
    (m.emplace k v).toList.countP p ≤ m.toList.countP p + if p (k, v) then 1 else 0 := by
  rw [← List.countP_cons]
  exact (emplace_subperm m k v).countP_le p

theorem countP_assign_le [DecidableEq K] (m : OrderedMap K V) (k : K) (v : V) (p : K × V → Bool) :
    (m.assign k v).toList.countP p ≤ (m.erase k).toList.countP p + if p (k, v) then 1 else 0 :=
  countP_emplace_le (m.erase k) k v p

section Find

variable [DecidableEq K] {m : OrderedMap K V} {k k' : K} {v : V}

theorem find?_emplace_ne (hne : k' ≠ k) : (m.emplace k v).find? k' = m.find? k' := by
  refine find?_congr fun v' => ?_
  by_cases hold : ∃ e ∈ m, e.1 = k
  · obtain ⟨⟨key, value⟩, hmem, rfl⟩ := hold
    rw [← mem_toList, emplace_of_mem hmem, mem_toList]
  · rw [mem_emplace fun e he hkey => hold ⟨e, he, hkey⟩]
    simp [hne]

theorem find?_assign_ne (hne : k' ≠ k) : (m.assign k v).find? k' = m.find? k' := by
  rw [assign, find?_emplace_ne hne]
  exact find?_congr fun v' => by simp [mem_erase, hne]

/-- `m[k]` of a map of pointers is null where there is no entry. -/
def pointer (m : OrderedMap K (Option V)) (k : K) : Option V := (m.find? k).join

/-- A look at `m[k]` makes an entry, but no pointer. -/
theorem pointer_emplace (m : OrderedMap K (Option V)) (k k' : K) :
    (m.emplace k none).pointer k' = m.pointer k' := by
  rw [pointer, pointer]
  by_cases hne : k' = k
  · subst hne
    by_cases hold : ∃ e ∈ m, e.1 = k'
    · obtain ⟨⟨key, value⟩, hmem, rfl⟩ := hold
      rw [find?, emplace_of_mem hmem, find?]
    · have hnew : ∀ e ∈ m, e.1 ≠ k' := fun e he hkey => hold ⟨e, he, hkey⟩
      have hnone : m.find? k' = none := by
        rw [← Option.not_isSome_iff_eq_none, isSome_find?]
        rintro ⟨v, hv⟩
        exact hnew _ hv rfl
      rw [hnone, find?_eq_some.mpr ((mem_emplace hnew).mpr (Or.inl rfl))]
      rfl
  · rw [find?_emplace_ne hne]

theorem pointer_assign (m : OrderedMap K (Option V)) (k k' : K) (v : Option V) :
    (m.assign k v).pointer k' = if k' = k then v else m.pointer k' := by
  by_cases hne : k' = k
  · rw [if_pos hne, hne, pointer, find?_assign_self]
    rfl
  · rw [if_neg hne, pointer, find?_assign_ne hne, pointer]

end Find

end OrderedMap
