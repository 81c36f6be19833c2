import Mathlib.Data.List.Nodup
import Mathlib.Data.List.Perm.Basic
import Mathlib.Logic.Function.Basic
import Mathlib.Logic.Relation
import WifiDisplay.PartialMaps

/-! Items that are lent and come back: how often each has been lent and returned, and where those
that are still out are kept. And resources that are created, held under a key, and given up either by
asking for their destruction or after their destruction has been reported. -/

structure Loans (ι : Type*) where
  lent : ι → Nat := fun _ => 0
  returned : ι → Nat := fun _ => 0

namespace Loans

variable {ι : Type*} [DecidableEq ι] {l : Loans ι} {i : ι} {kept : List ι}

def lend (l : Loans ι) (i : ι) : Loans ι :=
  { l with lent := Function.update l.lent i (l.lent i + 1) }

def giveBack (l : Loans ι) (i : ι) : Loans ι :=
  { l with returned := Function.update l.returned i (l.returned i + 1) }

/-- Every loan has come back once, but the last one of each item that is kept. -/
structure Balanced (l : Loans ι) (kept : List ι) : Prop where
  nodup : kept.Nodup
  lent_eq : ∀ i, l.lent i = l.returned i + kept.count i

theorem balanced_init : ({} : Loans ι).Balanced [] := ⟨List.nodup_nil, fun _ => rfl⟩

theorem Balanced.perm {kept' : List ι} (hl : l.Balanced kept) (h : kept.Perm kept') :
    l.Balanced kept' :=
  ⟨h.nodup_iff.mp hl.nodup, fun i => by rw [hl.lent_eq, h.count_eq]⟩

theorem Balanced.not_mem (hl : l.Balanced kept) (h : l.lent i = l.returned i) : i ∉ kept := by
  have hcount := hl.lent_eq i
  exact List.count_eq_zero.mp (by omega)

/-- An item that is lent after its return is kept. -/
theorem Balanced.lend (hl : l.Balanced kept) (h : l.lent i = l.returned i) :
    (l.lend i).Balanced (i :: kept) := by
  refine ⟨List.nodup_cons.mpr ⟨hl.not_mem h, hl.nodup⟩, fun j => ?_⟩
  rw [Loans.lend]
  by_cases hj : j = i
  · subst hj
    simp [hl.lent_eq j, Nat.add_assoc]
  · simp [hl.lent_eq j, hj, Ne.symm hj]

theorem Balanced.giveBack (hl : l.Balanced (i :: kept)) : (l.giveBack i).Balanced kept := by
  refine ⟨hl.nodup.of_cons, fun j => ?_⟩
  have hcount := hl.lent_eq j
  change l.lent j = Function.update l.returned i (l.returned i + 1) j + kept.count j
  by_cases hj : j = i
  · subst hj
    rw [List.count_cons_self] at hcount
    rw [Function.update_self]
    omega
  · rw [List.count_cons_of_ne (Ne.symm hj)] at hcount
    rwa [Function.update_of_ne hj]

theorem Balanced.giveBackAll {items : List ι} (hl : l.Balanced (items ++ kept)) :
    (items.foldl Loans.giveBack l).Balanced kept := by
  induction items generalizing l with
  | nil => exact hl
  | cons i items ih => exact ih hl.giveBack

/-- An item that is neither kept nor given back is lost. -/
theorem Balanced.lost (hl : l.Balanced (i :: kept)) : ¬ l.Balanced kept := by
  intro h
  have hcount := hl.lent_eq i
  rw [List.count_cons_self, h.lent_eq i] at hcount
  omega

end Loans

structure Ledger (K A : Type*) where
  entry : K → Option A
  created : List A
  asked : List A
  reported : List A

namespace Ledger

variable {K A : Type*} {l l' : Ledger K A} {k : K} {a : A}

structure Sound (l : Ledger K A) : Prop where
  once : ∀ k k' a, l.entry k = some a → l.entry k' = some a → k = k'
  entry_created : ∀ k a, l.entry k = some a → a ∈ l.created
  entry_not_asked : ∀ k a, l.entry k = some a → a ∉ l.asked
  asked_created : ∀ a ∈ l.asked, a ∈ l.created
  asked_nodup : l.asked.Nodup
  conserved : ∀ a ∈ l.created, a ∉ l.asked → a ∉ l.reported → ∃ k, l.entry k = some a

/-- A resource that nobody has asked for or reported is held under exactly one key. -/
theorem Sound.existsUnique (hl : l.Sound) (ha : a ∈ l.created) (hasked : a ∉ l.asked)
    (hreported : a ∉ l.reported) : ∃! k, l.entry k = some a := by
  obtain ⟨k, hk⟩ := hl.conserved a ha hasked hreported
  exact ⟨k, hk, fun k' hk' => hl.once _ _ _ hk' hk⟩

def report (l : Ledger K A) (a : A) : Ledger K A := { l with reported := l.reported ++ [a] }

theorem Sound.report (hl : l.Sound) (a : A) :
    (l.report a).Sound := by
  constructor
  case once => exact hl.once
  case entry_created => exact hl.entry_created
  case entry_not_asked => exact hl.entry_not_asked
  case asked_created => exact hl.asked_created
  case asked_nodup => exact hl.asked_nodup
  case conserved =>
    intro a' h hasked hreported
    exact hl.conserved a' h hasked fun hin => hreported (List.mem_append_left _ hin)

section Keys

variable [DecidableEq K]

/-- A new resource, held under a free key. -/
def acquire (l : Ledger K A) (k : K) (a : A) : Ledger K A :=
  { l with entry := Function.update l.entry k (some a), created := l.created ++ [a] }

/-- The resource held under a key is asked to be destroyed. -/
def release (l : Ledger K A) (k : K) (a : A) : Ledger K A :=
  { l with entry := Function.update l.entry k none, asked := l.asked ++ [a] }

/-- The resource held under a key is given up without a call. -/
def drop (l : Ledger K A) (k : K) : Ledger K A :=
  { l with entry := Function.update l.entry k none }

inductive Step (l : Ledger K A) : Ledger K A → Prop where
  | acquire {k : K} {a : A} (hk : l.entry k = none) (ha : a ∉ l.created) : Step l (l.acquire k a)
  | release {k : K} {a : A} (hk : l.entry k = some a) : Step l (l.release k a)
  | report (a : A) : Step l (l.report a)
  | drop {k : K} {a : A} (hk : l.entry k = some a) (ha : a ∈ l.reported) : Step l (l.drop k)

abbrev Steps : Ledger K A → Ledger K A → Prop := Relation.ReflTransGen Step

/-- All of the listed resources are asked to be destroyed. -/
def releaseAll (l : Ledger K A) (held : List (K × A)) : Ledger K A :=
  held.foldl (fun l e => l.release e.1 e.2) l

theorem steps_releaseAll {held : List (K × A)} (hkeys : (held.map Prod.fst).Nodup)
    (hheld : ∀ e ∈ held, l.entry e.1 = some e.2) : Steps l (l.releaseAll held) := by
  induction held generalizing l with
  | nil => exact Relation.ReflTransGen.refl
  | cons e held ih =>
    obtain ⟨hnew, hkeys⟩ := List.nodup_cons.mp hkeys
    apply Relation.ReflTransGen.head (Step.release (hheld e List.mem_cons_self))
    apply ih hkeys
    intro e' he'
    have hne : e'.1 ≠ e.1 := fun heq => hnew (heq ▸ List.mem_map_of_mem he')
    exact (Function.update_of_ne hne _ _).trans (hheld e' (List.mem_cons_of_mem e he'))

theorem releaseAll_eq (held : List (K × A)) :
    l.releaseAll held = { l with
      entry := fun k => if k ∈ held.map Prod.fst then none else l.entry k
      asked := l.asked ++ held.map Prod.snd } := by
  induction held generalizing l with
  | nil => simp [releaseAll]
  | cons e held ih =>
    show (l.release e.1 e.2).releaseAll held = _
    rw [ih, release]
    have hentry : (fun k => if k ∈ held.map Prod.fst then none
          else Function.update l.entry e.1 none k) =
        fun k => if k ∈ (e :: held).map Prod.fst then none else l.entry k := by
      funext k
      rw [List.map_cons]
      by_cases hk : k = e.1
      · subst hk
        rw [Function.update_self, ite_self, if_pos List.mem_cons_self]
      · by_cases hin : k ∈ held.map Prod.fst
        · rw [if_pos hin, if_pos (List.mem_cons_of_mem _ hin)]
        · rw [if_neg hin, if_neg (by simp only [List.mem_cons, hk, hin, or_self, not_false_iff]),
            Function.update_of_ne hk]
    rw [hentry, List.map_cons, List.append_assoc]
    rfl

theorem conserved_update_none {k' : K} {a' : A} (hk : l.entry k = some a) (hne : a' ≠ a)
    (h : l.entry k' = some a') : Function.update l.entry k none k' = some a' := by
  have hk' : k' ≠ k := by
    intro heq
    subst heq
    rw [hk] at h
    exact hne (Option.some.inj h).symm
  rwa [Function.update_of_ne hk']

theorem Sound.acquire (hl : l.Sound) (hk : l.entry k = none) (ha : a ∉ l.created) :
    (l.acquire k a).Sound := by
  have hentry : ∀ k' a', Function.update l.entry k (some a) k' = some a' →
      k' = k ∧ a' = a ∨ k' ≠ k ∧ l.entry k' = some a' := fun _ _ => PartialMap.eq_some_of_insert
  constructor
  case once =>
    intro k₁ k₂ a' h₁ h₂
    rcases hentry k₁ a' h₁ with ⟨e₁, rfl⟩ | ⟨-, old₁⟩
    · rcases hentry k₂ a' h₂ with ⟨e₂, -⟩ | ⟨-, old₂⟩
      · rw [e₁, e₂]
      · exact absurd (hl.entry_created _ _ old₂) ha
    · rcases hentry k₂ a' h₂ with ⟨-, rfl⟩ | ⟨-, old₂⟩
      · exact absurd (hl.entry_created _ _ old₁) ha
      · exact hl.once _ _ _ old₁ old₂
  case entry_created =>
    intro k' a' h
    rcases hentry k' a' h with ⟨-, rfl⟩ | ⟨-, h⟩
    · exact List.mem_append_right _ List.mem_cons_self
    · exact List.mem_append_left _ (hl.entry_created _ _ h)
  case entry_not_asked =>
    intro k' a' h hasked
    rcases hentry k' a' h with ⟨-, rfl⟩ | ⟨-, h⟩
    · exact ha (hl.asked_created _ hasked)
    · exact hl.entry_not_asked _ _ h hasked
  case asked_created =>
    intro a' h
    exact List.mem_append_left _ (hl.asked_created _ h)
  case asked_nodup => exact hl.asked_nodup
  case conserved =>
    intro a' h hasked hreported
    rcases List.mem_append.mp h with h | h
    · obtain ⟨k', hk'⟩ := hl.conserved a' h hasked hreported
      have hne : k' ≠ k := by
        intro heq
        rw [heq, hk] at hk'
        cases hk'
      exact ⟨k', (Function.update_of_ne hne _ _).trans hk'⟩
    · rw [List.mem_singleton] at h
      subst h
      exact ⟨k, Function.update_self _ _ _⟩

theorem Sound.release (hl : l.Sound) (hk : l.entry k = some a) :
    (l.release k a).Sound := by
  constructor
  case once =>
    intro k₁ k₂ a' h₁ h₂
    exact hl.once _ _ _ (PartialMap.eq_some_of_erase h₁).2 (PartialMap.eq_some_of_erase h₂).2
  case entry_created =>
    intro k' a' h
    exact hl.entry_created _ _ (PartialMap.eq_some_of_erase h).2
  case entry_not_asked =>
    intro k' a' h hasked
    obtain ⟨hne, held⟩ := PartialMap.eq_some_of_erase h
    rcases List.mem_append.mp hasked with hasked | hasked
    · exact hl.entry_not_asked _ _ held hasked
    · rw [List.mem_singleton] at hasked
      subst hasked
      exact hne (hl.once _ _ _ held hk)
  case asked_created =>
    intro a' h
    rcases List.mem_append.mp h with h | h
    · exact hl.asked_created _ h
    · rw [List.mem_singleton] at h
      subst h
      exact hl.entry_created _ _ hk
  case asked_nodup =>
    refine List.nodup_append.mpr ⟨hl.asked_nodup, List.nodup_singleton a, ?_⟩
    intro a' h b hb heq
    rw [List.mem_singleton] at hb
    subst hb
    subst heq
    exact hl.entry_not_asked _ _ hk h
  case conserved =>
    intro a' h hasked hreported
    have hold : a' ∉ l.asked := fun hin => hasked (List.mem_append_left _ hin)
    have hne : a' ≠ a := by
      intro heq
      exact hasked (heq ▸ List.mem_append_right _ List.mem_cons_self)
    obtain ⟨k', hk'⟩ := hl.conserved a' h hold hreported
    exact ⟨k', conserved_update_none hk hne hk'⟩

theorem Sound.drop (hl : l.Sound) (hk : l.entry k = some a) (ha : a ∈ l.reported) :
    (l.drop k).Sound := by
  constructor
  case once =>
    intro k₁ k₂ a' h₁ h₂
    exact hl.once _ _ _ (PartialMap.eq_some_of_erase h₁).2 (PartialMap.eq_some_of_erase h₂).2
  case entry_created =>
    intro k' a' h
    exact hl.entry_created _ _ (PartialMap.eq_some_of_erase h).2
  case entry_not_asked =>
    intro k' a' h
    exact hl.entry_not_asked _ _ (PartialMap.eq_some_of_erase h).2
  case asked_created => exact hl.asked_created
  case asked_nodup => exact hl.asked_nodup
  case conserved =>
    intro a' h hasked hreported
    obtain ⟨k', hk'⟩ := hl.conserved a' h hasked hreported
    have hne : a' ≠ a := by
      intro heq
      exact hreported (heq ▸ ha)
    exact ⟨k', conserved_update_none hk hne hk'⟩

theorem Step.sound (h : Step l l') (hl : l.Sound) : l'.Sound := by
  cases h with
  | acquire hk ha => exact hl.acquire hk ha
  | release hk => exact hl.release hk
  | report a => exact hl.report a
  | drop hk ha => exact hl.drop hk ha

theorem Steps.sound (h : Steps l l') (hl : l.Sound) : l'.Sound := by
  induction h with
  | refl => exact hl
  | tail _ hstep ih => exact hstep.sound ih

end Keys

end Ledger
