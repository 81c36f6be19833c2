import Mathlib.Data.List.Flatten

/-! Parcels: queues that values of several kinds are written into, each as a whole, and read from in the
same order. A parcel is known by its methods and by what they keep. -/

/-- `read` gives nothing where there is nothing to read. -/
structure Parcel {K : Type} (V : K → Type) where
  Data : Type
  empty : Data
  write : (k : K) → V k → Data → Bool × Data
  read : (k : K) → Data → Option (V k) × Data

namespace Parcel

variable {K : Type} {V : K → Type} {P : Parcel V}

/-- What is written is read again, in its order and as often as it was written, as long as it fits. -/
structure Lawful (P : Parcel V) (fits : List (Sigma V) → Prop) (contents : P.Data → List (Sigma V)) :
    Prop where
  empty : contents P.empty = []
  fits_prefix : ∀ {l l' : List (Sigma V)}, fits (l ++ l') → fits l
  write : ∀ {k : K} {v : V k} {d : P.Data}, fits (contents d ++ [⟨k, v⟩]) →
    (P.write k v d).1 = true ∧ contents (P.write k v d).2 = contents d ++ [⟨k, v⟩]
  read : ∀ {k : K} {v : V k} {d : P.Data} {rest : List (Sigma V)}, contents d = ⟨k, v⟩ :: rest →
    (P.read k d).1 = some v ∧ contents (P.read k d).2 = rest
  exhausted : ∀ {k : K} {d : P.Data}, contents d = [] →
    (P.read k d).1 = none ∧ contents (P.read k d).2 = []

/-- The parcel that is just a list of what is in it. -/
def queue {K : Type} [DecidableEq K] (V : K → Type) : Parcel V where
  Data := List (Sigma V)
  empty := []
  write k v d := (true, d ++ [⟨k, v⟩])
  read k d :=
    match d with
    | [] => (none, [])
    | ⟨k', v⟩ :: rest => if h : k' = k then (some (h ▸ v), rest) else (none, ⟨k', v⟩ :: rest)

theorem lawful_queue {K : Type} [DecidableEq K] (V : K → Type) :
    (queue V).Lawful (fun _ => True) id where
  empty := rfl
  fits_prefix _ := trivial
  write _ := ⟨rfl, rfl⟩
  read {k v d rest} h := by
    obtain rfl : d = ⟨k, v⟩ :: rest := h
    simp [queue]
  exhausted {k d} h := by
    obtain rfl : d = [] := h
    exact ⟨rfl, rfl⟩

/-- Calls of the methods one after another, until one fails. What they did stays done. -/
abbrev Access (P : Parcel V) (ε α : Type) : Type := ExceptT ε (StateM P.Data) α

namespace Access

variable {ε α β : Type}

def runOn (x : Access P ε α) (d : P.Data) : Except ε α × P.Data := x d

@[simp] theorem runOn_pure (a : α) (d : P.Data) : (pure a : Access P ε α).runOn d = (.ok a, d) := rfl

theorem runOn_bind_eq (x : Access P ε α) (f : α → Access P ε β) (d : P.Data) :
    (x >>= f).runOn d =
      match x.runOn d with
      | (.ok a, d') => (f a).runOn d'
      | (.error e, d') => (.error e, d') := by
  simp only [runOn, bind, ExceptT.bind, ExceptT.mk, StateT.bind]
  rcases x d with ⟨⟨e⟩ | ⟨a⟩, d'⟩
  · rfl
  · rfl

theorem runOn_bind {x : Access P ε α} {f : α → Access P ε β} {a : α} {d d' : P.Data}
    (h : x.runOn d = (.ok a, d')) : (x >>= f).runOn d = (f a).runOn d' := by
  rw [runOn_bind_eq, h]

theorem runOn_bind_error {x : Access P ε α} {f : α → Access P ε β} {e : ε} {d d' : P.Data}
    (h : x.runOn d = (.error e, d')) : (x >>= f).runOn d = (.error e, d') := by
  rw [runOn_bind_eq, h]

theorem runOn_tryCatch_eq (x : Access P ε α) (handle : ε → Access P ε α) (d : P.Data) :
    (tryCatch x handle).runOn d =
      match x.runOn d with
      | (.ok a, d') => (.ok a, d')
      | (.error e, d') => (handle e).runOn d' := by
  change ExceptT.tryCatch x handle d = _
  simp only [runOn, ExceptT.tryCatch, ExceptT.mk, bind, StateT.bind]
  rcases x d with ⟨⟨e⟩ | ⟨a⟩, d'⟩
  · rfl
  · rfl

theorem runOn_tryCatch {x : Access P ε α} {handle : ε → Access P ε α} {a : α} {d d' : P.Data}
    (h : x.runOn d = (.ok a, d')) : (tryCatch x handle).runOn d = (.ok a, d') := by
  rw [runOn_tryCatch_eq, h]

theorem runOn_tryCatch_error {x : Access P ε α} {handle : ε → Access P ε α} {e : ε} {d d' : P.Data}
    (h : x.runOn d = (.error e, d')) : (tryCatch x handle).runOn d = (handle e).runOn d' := by
  rw [runOn_tryCatch_eq, h]

/-- A write whose failure is the failure of the whole. -/
def write (failed : ε) (k : K) (v : V k) : Access P ε Unit := fun d =>
  let (done, d) := P.write k v d
  (if done then .ok () else .error failed, d)

def read (failed : ε) (k : K) : Access P ε (V k) := fun d =>
  let (v, d) := P.read k d
  (match v with
    | some v => .ok v
    | none => .error failed, d)

/-- A read that gives `default` where there is nothing to read. -/
def readD (k : K) (default : V k) : Access P ε (V k) := fun d =>
  let (v, d) := P.read k d
  (.ok (v.getD default), d)

/-- The same reads `n` times over. -/
def many (n : Nat) (x : Access P ε α) : Access P ε (List α) :=
  match n with
  | 0 => pure []
  | n + 1 => do
    let a ← x
    let l ← many n x
    pure (a :: l)

section Triples

variable {fits : List (Sigma V) → Prop} {contents : P.Data → List (Sigma V)}

/-- `x` adds just `items` to a parcel that they fit in. -/
def Writes (fits : List (Sigma V) → Prop) (contents : P.Data → List (Sigma V)) (x : Access P ε Unit)
    (items : List (Sigma V)) : Prop :=
  ∀ d, fits (contents d ++ items) → ∃ d', x.runOn d = (.ok (), d') ∧ contents d' = contents d ++ items

/-- `x` takes just `items` out of a parcel in which they come first, and makes `a` of them. -/
def Reads (contents : P.Data → List (Sigma V)) (x : Access P ε α) (items : List (Sigma V)) (a : α) : Prop :=
  ∀ d rest, contents d = items ++ rest → ∃ d', x.runOn d = (.ok a, d') ∧ contents d' = rest

/-- `x` adds just `items` to a parcel that they fit in, and then fails. -/
def Stops (fits : List (Sigma V) → Prop) (contents : P.Data → List (Sigma V)) (x : Access P ε Unit)
    (items : List (Sigma V)) (e : ε) : Prop :=
  ∀ d, fits (contents d ++ items) → ∃ d', x.runOn d = (.error e, d') ∧ contents d' = contents d ++ items

/-- `x` fails on a parcel that holds no more than `items`. -/
def Lacks (contents : P.Data → List (Sigma V)) (x : Access P ε α) (items : List (Sigma V)) (e : ε) : Prop :=
  ∀ d, contents d = items → ∃ d', x.runOn d = (.error e, d')

theorem writes_pure : Writes fits contents (pure () : Access P ε Unit) [] := by
  intro d _
  exact ⟨d, rfl, (List.append_nil _).symm⟩

/-- What `y` comes to behind a write, `r` being its result. -/
theorem Writes.ends (hP : P.Lawful fits contents) {x y : Access P ε Unit} {xs ys : List (Sigma V)}
    {r : Except ε Unit} (hx : x.Writes fits contents xs)
    (hy : ∀ d, fits (contents d ++ ys) → ∃ d', y.runOn d = (r, d') ∧ contents d' = contents d ++ ys)
    (d : P.Data) (hfits : fits (contents d ++ (xs ++ ys))) :
    ∃ d', (x >>= fun _ => y).runOn d = (r, d') ∧ contents d' = contents d ++ (xs ++ ys) := by
  rw [← List.append_assoc] at hfits
  obtain ⟨d₁, hx, hd₁⟩ := hx d (hP.fits_prefix hfits)
  rw [← hd₁] at hfits
  obtain ⟨d₂, hy, hd₂⟩ := hy d₁ hfits
  refine ⟨d₂, ?_, ?_⟩
  · rw [runOn_bind hx, hy]
  · rw [hd₂, hd₁, List.append_assoc]

theorem Writes.seq (hP : P.Lawful fits contents) {x y : Access P ε Unit} {xs ys : List (Sigma V)}
    (hx : x.Writes fits contents xs) (hy : y.Writes fits contents ys) :
    (x >>= fun _ => y).Writes fits contents (xs ++ ys) :=
  hx.ends hP hy

theorem Writes.stops (hP : P.Lawful fits contents) {x y : Access P ε Unit} {xs ys : List (Sigma V)} {e : ε}
    (hx : x.Writes fits contents xs) (hy : y.Stops fits contents ys e) :
    (x >>= fun _ => y).Stops fits contents (xs ++ ys) e :=
  hx.ends hP hy

theorem Writes.forM (hP : P.Lawful fits contents) {f : α → Access P ε Unit} {g : α → List (Sigma V)}
    {l : List α} (h : ∀ a ∈ l, (f a).Writes fits contents (g a)) :
    (l.forM f).Writes fits contents (l.flatMap g) := by
  induction l with
  | nil => exact writes_pure
  | cons a l ih =>
    rw [List.flatMap_cons]
    exact (h a List.mem_cons_self).seq hP (ih fun b hb => h b (List.mem_cons_of_mem a hb))

theorem Writes.tryCatch {x : Access P ε Unit} {items : List (Sigma V)} (hx : x.Writes fits contents items)
    (handle : ε → Access P ε Unit) : (tryCatch x handle).Writes fits contents items := by
  intro d hfits
  obtain ⟨d', hx, hd⟩ := hx d hfits
  exact ⟨d', runOn_tryCatch hx, hd⟩

theorem reads_pure (a : α) : Reads contents (pure a : Access P ε α) [] a := by
  intro d rest h
  exact ⟨d, rfl, h⟩

theorem Reads.bind {x : Access P ε α} {f : α → Access P ε β} {xs ys : List (Sigma V)} {a : α} {b : β}
    (hx : x.Reads contents xs a) (hf : (f a).Reads contents ys b) :
    (x >>= f).Reads contents (xs ++ ys) b := by
  intro d rest h
  rw [List.append_assoc] at h
  obtain ⟨d₁, hx, hd₁⟩ := hx d _ h
  obtain ⟨d₂, hf, hd₂⟩ := hf d₁ _ hd₁
  exact ⟨d₂, by rw [runOn_bind hx, hf], hd₂⟩

theorem Reads.map {x : Access P ε α} {xs : List (Sigma V)} {a : α} (hx : x.Reads contents xs a)
    (f : α → β) : (x >>= fun a => pure (f a)).Reads contents xs (f a) := by
  have h := hx.bind (f := fun a => pure (f a)) (reads_pure (f a))
  rwa [List.append_nil] at h

theorem Reads.tryCatch {x : Access P ε α} {items : List (Sigma V)} {a : α} (hx : x.Reads contents items a)
    (handle : ε → Access P ε α) : (tryCatch x handle).Reads contents items a := by
  intro d rest h
  obtain ⟨d', hx, hd⟩ := hx d rest h
  exact ⟨d', runOn_tryCatch hx, hd⟩

theorem Reads.many {x : Access P ε α} {g : α → List (Sigma V)} {l : List α}
    (h : ∀ a ∈ l, x.Reads contents (g a) a) : (many l.length x).Reads contents (l.flatMap g) l := by
  induction l with
  | nil => exact reads_pure []
  | cons a l ih =>
    rw [List.flatMap_cons]
    refine (h a List.mem_cons_self).bind ?_
    exact (ih fun b hb => h b (List.mem_cons_of_mem a hb)).map _

theorem Stops.tryCatch {x : Access P ε Unit} {items : List (Sigma V)} {e : ε}
    (hx : x.Stops fits contents items e) : (tryCatch x fun _ => pure ()).Writes fits contents items := by
  intro d hfits
  obtain ⟨d', hx, hd⟩ := hx d hfits
  exact ⟨d', by rw [runOn_tryCatch_error hx, runOn_pure], hd⟩

theorem Lacks.bind {x : Access P ε α} {f : α → Access P ε β} {items : List (Sigma V)} {e : ε}
    (hx : x.Lacks contents items e) : (x >>= f).Lacks contents items e := by
  intro d h
  obtain ⟨d', hx⟩ := hx d h
  exact ⟨d', runOn_bind_error hx⟩

theorem Reads.lacks {x : Access P ε α} {f : α → Access P ε β} {xs ys : List (Sigma V)} {a : α} {e : ε}
    (hx : x.Reads contents xs a) (hf : (f a).Lacks contents ys e) :
    (x >>= f).Lacks contents (xs ++ ys) e := by
  intro d h
  obtain ⟨d₁, hx, hd₁⟩ := hx d ys h
  obtain ⟨d₂, hf⟩ := hf d₁ hd₁
  exact ⟨d₂, by rw [runOn_bind hx, hf]⟩

theorem writes_write (hP : P.Lawful fits contents) (failed : ε) (k : K) (v : V k) :
    (write failed k v : Access P ε Unit).Writes fits contents [⟨k, v⟩] := by
  intro d hfits
  obtain ⟨hdone, hd⟩ := hP.write hfits
  refine ⟨(P.write k v d).2, ?_, hd⟩
  simp [runOn, write, hdone]

theorem reads_read (hP : P.Lawful fits contents) (failed : ε) (k : K) (v : V k) :
    (read failed k : Access P ε (V k)).Reads contents [⟨k, v⟩] v := by
  intro d rest h
  obtain ⟨hread, hd⟩ := hP.read h
  refine ⟨(P.read k d).2, ?_, hd⟩
  simp [runOn, read, hread]

theorem reads_readD (hP : P.Lawful fits contents) (k : K) (default v : V k) :
    (readD k default : Access P ε (V k)).Reads contents [⟨k, v⟩] v := by
  intro d rest h
  obtain ⟨hread, hd⟩ := hP.read h
  refine ⟨(P.read k d).2, ?_, hd⟩
  simp [runOn, readD, hread]

/-- At the end of a parcel. -/
theorem readD_exhausted (hP : P.Lawful fits contents) (k : K) (default : V k) {d : P.Data}
    (h : contents d = []) :
    ∃ d', (readD k default : Access P ε (V k)).runOn d = (.ok default, d') ∧ contents d' = [] := by
  obtain ⟨hread, hd⟩ := hP.exhausted (k := k) h
  refine ⟨(P.read k d).2, ?_, hd⟩
  simp [runOn, readD, hread]

end Triples

end Access

end Parcel
