import WifiDisplay.InputStream

/-! Which texts the extractions of a stream take without failing. -/

namespace InputStream

/-- The letters of a numeral: its sign, the prefix of base 16, its digits. -/
structure Numeral where
  sign : List Char := []
  radix : List Char := []
  digits : List Char

namespace Numeral

def text (n : Numeral) : List Char := n.sign ++ n.radix ++ n.digits

def negative (n : Numeral) : Bool := n.sign = ['-']

/-- The numeral is one of the type, and the text behind it does not go on with it. -/
structure Fits (f : NumberFormat) (n : Numeral) (rest : List Char) : Prop where
  sign : n.sign = [] ∨ n.sign = ['+'] ∨ n.sign = ['-']
  radix : n.radix = [] ∨ f.base = 16 ∧ (n.radix = ['0', 'x'] ∨ n.radix = ['0', 'X'])
  digits_ne_nil : n.digits ≠ []
  digits : ∀ d ∈ n.digits, isDigit f.base d
  range : (f.value n.negative (magnitude f.base n.digits)).2
  maximal : ∀ c, rest.head? = some c → isDigit f.base c = false
  noRadix : f.base = 16 → n.radix = [] → n.digits = ['0'] →
    rest.head? ≠ some 'x' ∧ rest.head? ≠ some 'X'

end Numeral

theorem digit_code {base : ℕ} {c : Char} (h : isDigit base c) : 48 ≤ c.toNat := by
  simp only [isDigit, digitValue] at h
  split at h
  · rename_i hc
    exact hc.1
  · split at h
    · rename_i hc
      exact Nat.le_trans (by decide) hc.1
    · split at h
      · rename_i hc
        exact Nat.le_trans (by decide) hc.1
      · simp at h

theorem not_blank_of_code {c : Char} (h : 33 ≤ c.toNat) : isBlank c = false := by
  have hspace : c ≠ ' ' := by
    rintro rfl
    exact absurd h (by decide)
  simp only [isBlank, decide_eq_false hspace, Bool.false_or, Bool.and_eq_false_iff,
    decide_eq_false_iff_not]
  omega

theorem sign_of_code {c : Char} (h : 48 ≤ c.toNat) (t : List Char) : sign (c :: t) = (false, c :: t) := by
  have hminus : c ≠ '-' := by
    rintro rfl
    exact absurd h (by decide)
  have hplus : c ≠ '+' := by
    rintro rfl
    exact absurd h (by decide)
  rw [sign]
  · intro u heq
    exact hminus (List.cons.inj heq).1
  · intro u heq
    exact hplus (List.cons.inj heq).1

namespace Numeral

variable {f : NumberFormat} {n : Numeral} {rest : List Char} (h : n.Fits f rest)
include h

/-- The first letter behind the sign. -/
theorem Fits.head : ∃ c t, n.radix ++ n.digits ++ rest = c :: t ∧ 48 ≤ c.toNat := by
  rcases h.radix with hr | ⟨-, hr | hr⟩
  · obtain ⟨c, t, hct⟩ := List.exists_cons_of_ne_nil h.digits_ne_nil
    exact ⟨c, t ++ rest, by rw [hr, hct]; rfl, digit_code (h.digits c (by simp [hct]))⟩
  · exact ⟨'0', 'x' :: (n.digits ++ rest), by rw [hr]; rfl, by decide⟩
  · exact ⟨'0', 'X' :: (n.digits ++ rest), by rw [hr]; rfl, by decide⟩

theorem Fits.sign_eq : InputStream.sign (n.text ++ rest) = (n.negative, n.radix ++ n.digits ++ rest) := by
  obtain ⟨c, t, hct, hc⟩ := h.head
  rcases h.sign with hs | hs | hs
  · have htext : n.text ++ rest = c :: t := by rw [text, hs, List.nil_append, hct]
    rw [htext, sign_of_code hc, hct, negative, hs]
    rfl
  · have htext : n.text ++ rest = '+' :: (n.radix ++ n.digits ++ rest) := by
      rw [text, hs]
      rfl
    rw [htext, negative, hs]
    rfl
  · have htext : n.text ++ rest = '-' :: (n.radix ++ n.digits ++ rest) := by
      rw [text, hs]
      rfl
    rw [htext, negative, hs]
    rfl

theorem Fits.not_blank : ∃ c t, n.text ++ rest = c :: t ∧ isBlank c = false := by
  obtain ⟨c, t, hct, hc⟩ := h.head
  rcases h.sign with hs | hs | hs
  · exact ⟨c, t, by rw [text, hs, List.nil_append, hct], not_blank_of_code (by omega)⟩
  · exact ⟨'+', n.radix ++ n.digits ++ rest, by rw [text, hs]; rfl, by decide⟩
  · exact ⟨'-', n.radix ++ n.digits ++ rest, by rw [text, hs]; rfl, by decide⟩

theorem Fits.afterPrefix_eq : afterPrefix f.base (n.radix ++ n.digits ++ rest) = n.digits ++ rest := by
  by_cases hbase : f.base = 16
  · rw [afterPrefix.eq_def, if_pos hbase]
    rcases h.radix with hr | ⟨-, hr | hr⟩
    · obtain ⟨c, t, hct⟩ := List.exists_cons_of_ne_nil h.digits_ne_nil
      have hx (d : Char) (hd : d = 'x' ∨ d = 'X') (u : List Char) :
          n.digits ++ rest ≠ '0' :: d :: u := by
        intro heq
        rw [hct, List.cons_append] at heq
        obtain ⟨rfl, htail⟩ := List.cons.inj heq
        cases t with
        | nil =>
          have hno := h.noRadix hbase hr hct
          rw [List.nil_append] at htail
          rcases hd with rfl | rfl
          · exact hno.1 (by rw [htail]; rfl)
          · exact hno.2 (by rw [htail]; rfl)
        | cons e t =>
          have he := h.digits e (by simp [hct])
          have hed : e = d := (List.cons.inj htail).1
          rw [hed, hbase] at he
          rcases hd with rfl | rfl <;> exact absurd he (by decide)
      rw [hr, List.nil_append]
      split
      · rename_i u heq
        exact absurd heq (hx 'x' (Or.inl rfl) u)
      · rename_i u heq
        exact absurd heq (hx 'X' (Or.inr rfl) u)
      · rfl
    · rw [hr]
      rfl
    · rw [hr]
      rfl
  · rw [afterPrefix.eq_def, if_neg hbase, h.radix.resolve_right fun hr => hbase hr.1,
      List.nil_append]

theorem Fits.number_eq {blanks : List Char} (hblanks : ∀ c ∈ blanks, isBlank c) (old : Int) :
    number f ⟨blanks ++ n.text ++ rest, false⟩ old =
      ((f.value n.negative (magnitude f.base n.digits)).1, ⟨rest, false⟩) := by
  obtain ⟨c, t, hct, hc⟩ := h.not_blank
  have hskip : (blanks ++ n.text ++ rest).dropWhile isBlank = n.text ++ rest := by
    rw [List.append_assoc, List.dropWhile_append_of_pos hblanks, hct,
      List.dropWhile_cons_of_neg (by simp [hc])]
  have hne : n.text ++ rest ≠ [] := by simp [hct]
  have htail : rest.takeWhile (isDigit f.base) = [] ∧ rest.dropWhile (isDigit f.base) = rest := by
    cases rest with
    | nil => simp
    | cons d t =>
      have hd := h.maximal d rfl
      simp [hd]
  have htake : (n.digits ++ rest).takeWhile (isDigit f.base) = n.digits := by
    rw [List.takeWhile_append_of_pos h.digits, htail.1, List.append_nil]
  have hdrop : (n.digits ++ rest).dropWhile (isDigit f.base) = rest := by
    rw [List.dropWhile_append_of_pos h.digits, htail.2]
  simp only [number, Bool.false_eq_true, if_false, hskip, hne, h.sign_eq, h.afterPrefix_eq, htake,
    hdrop, h.digits_ne_nil, h.range, Bool.not_true]

end Numeral

theorem takeWhile_all {α : Type*} (p : α → Bool) (l : List α) : ∀ c ∈ l.takeWhile p, p c :=
  List.all_eq_true.mp List.all_takeWhile

theorem head?_dropWhile {α : Type*} {p : α → Bool} {l : List α} {c : α}
    (h : (l.dropWhile p).head? = some c) : p c = false := by
  have hnot := List.head?_dropWhile_not p l
  rw [h] at hnot
  simpa using hnot

theorem sign_cases (t : List Char) :
    ∃ s, (s = [] ∨ s = ['+'] ∨ s = ['-']) ∧ t = s ++ (sign t).2 ∧ (sign t).1 = decide (s = ['-']) := by
  rw [sign.eq_def]
  split
  · exact ⟨['-'], by simp, rfl, by simp⟩
  · exact ⟨['+'], by simp, rfl, by simp⟩
  · exact ⟨[], by simp, rfl, by simp⟩

theorem afterPrefix_cases (base : ℕ) (t : List Char) :
    ∃ r, (r = [] ∨ base = 16 ∧ (r = ['0', 'x'] ∨ r = ['0', 'X'])) ∧ t = r ++ afterPrefix base t ∧
      (base = 16 → r = [] → ∀ u, t ≠ '0' :: 'x' :: u ∧ t ≠ '0' :: 'X' :: u) := by
  rw [afterPrefix.eq_def]
  by_cases hbase : base = 16
  · rw [if_pos hbase]
    split
    · exact ⟨['0', 'x'], Or.inr ⟨hbase, Or.inl rfl⟩, rfl, by simp⟩
    · exact ⟨['0', 'X'], Or.inr ⟨hbase, Or.inr rfl⟩, rfl, by simp⟩
    · rename_i hx hX
      exact ⟨[], Or.inl rfl, rfl, fun _ _ u => ⟨hx u, hX u⟩⟩
  · rw [if_neg hbase]
    exact ⟨[], Or.inl rfl, rfl, fun h0 => absurd h0 hbase⟩

theorem numeral_of_number {f : NumberFormat} {t : List Char} {old : Int}
    (h : (number f ⟨t, false⟩ old).2.failed = false) :
    ∃ blanks n rest, t = blanks ++ Numeral.text n ++ rest ∧ (∀ c ∈ blanks, isBlank c) ∧
      n.Fits f rest := by
  obtain ⟨s, hs, hsign, hneg⟩ := sign_cases (t.dropWhile isBlank)
  obtain ⟨r, hr, hradix, hno⟩ := afterPrefix_cases f.base (sign (t.dropWhile isBlank)).2
  have hdigits := List.takeWhile_append_dropWhile (p := isDigit f.base)
    (l := afterPrefix f.base (sign (t.dropWhile isBlank)).2)
  simp only [number, Bool.false_eq_true, if_false] at h
  split at h
  · simp at h
  · split at h
    · simp at h
    · rename_i hempty hne
      refine ⟨t.takeWhile isBlank,
        ⟨s, r, (afterPrefix f.base (sign (t.dropWhile isBlank)).2).takeWhile (isDigit f.base)⟩,
        (afterPrefix f.base (sign (t.dropWhile isBlank)).2).dropWhile (isDigit f.base), ?_,
        takeWhile_all _ _, hs, hr, hne, takeWhile_all _ _, ?_, fun c => head?_dropWhile, ?_⟩
      · rw [Numeral.text, List.append_assoc, List.append_assoc, List.append_assoc, hdigits, ← hradix,
          ← hsign, List.takeWhile_append_dropWhile]
      · rw [Numeral.negative]
        rw [hneg] at h
        simpa using h
      · intro hbase hnil hzero
        replace hzero : List.takeWhile _ _ = ['0'] := hzero
        rw [hzero, List.singleton_append] at hdigits
        replace hradix := hradix.trans (congrArg (· ++ _) hnil)
        rw [List.nil_append] at hradix
        constructor
        · intro hhead
          obtain ⟨u, hu⟩ := List.head?_eq_some_iff.mp hhead
          rw [hu, ← hradix] at hdigits
          exact (hno hbase hnil u).1 hdigits.symm
        · intro hhead
          obtain ⟨u, hu⟩ := List.head?_eq_some_iff.mp hhead
          rw [hu, ← hradix] at hdigits
          exact (hno hbase hnil u).2 hdigits.symm

/-! Several extractions one after the other. -/

inductive Item where
  | word
  | number (f : NumberFormat)

/-- The stream behind an extraction; the targets do not matter to it. -/
def skip (s : InputStream) : Item → InputStream
  | .word => (s.word []).2
  | .number f => (number f s 0).2

theorem word_state (s : InputStream) (old : List Char) : (s.word old).2 = s.skip .word := by
  unfold skip word
  by_cases hfailed : s.failed
  · simp [hfailed]
  · simp only [hfailed, if_false, Bool.false_eq_true]
    split
    · rfl
    · rfl

theorem number_state (f : NumberFormat) (s : InputStream) (old : Int) :
    (number f s old).2 = s.skip (.number f) := by
  unfold skip number
  by_cases hfailed : s.failed
  · simp [hfailed]
  · simp only [hfailed, if_false, Bool.false_eq_true]
    split
    · rfl
    · split
      · rfl
      · rfl

theorem skip_of_failed {s : InputStream} (h : s.failed = true) (item : Item) : s.skip item = s := by
  cases item with
  | word => simp [skip, word, h]
  | number f => simp [skip, number, h]

theorem foldl_skip_of_failed {s : InputStream} (h : s.failed = true) (items : List Item) :
    items.foldl skip s = s := by
  induction items with
  | nil => rfl
  | cons item items ih => rw [List.foldl_cons, skip_of_failed h, ih]

/-- One item behind blanks, and the text behind it. -/
inductive Begins : Item → List Char → List Char → Prop
  | word {blanks w rest : List Char} (hblanks : ∀ c ∈ blanks, isBlank c) (hne : w ≠ [])
      (hw : ∀ c ∈ w, isBlank c = false) (hrest : ∀ c, rest.head? = some c → isBlank c) :
      Begins .word (blanks ++ w ++ rest) rest
  | number {f : NumberFormat} {blanks rest : List Char} {n : Numeral}
      (hblanks : ∀ c ∈ blanks, isBlank c) (hn : n.Fits f rest) :
      Begins (.number f) (blanks ++ n.text ++ rest) rest

theorem dropWhile_blanks {blanks : List Char} (hblanks : ∀ c ∈ blanks, isBlank c) {c : Char}
    (hc : isBlank c = false) (t : List Char) : (blanks ++ c :: t).dropWhile isBlank = c :: t := by
  rw [List.dropWhile_append_of_pos hblanks, List.dropWhile_cons_of_neg (by simp [hc])]

theorem Begins.skip_eq {item : Item} {t rest : List Char} (h : Begins item t rest) :
    skip ⟨t, false⟩ item = ⟨rest, false⟩ := by
  cases h with
  | @word blanks w rest hblanks hne hw hrest =>
    obtain ⟨c, u, hcu⟩ := List.exists_cons_of_ne_nil hne
    have hskip : (blanks ++ w ++ rest).dropWhile isBlank = w ++ rest := by
      rw [List.append_assoc, hcu]
      exact dropWhile_blanks hblanks (hw c (by simp [hcu])) (u ++ rest)
    have hnot : ∀ c ∈ w, (!isBlank c) = true := by simpa using hw
    have hdrop : (w ++ rest).dropWhile (!isBlank ·) = rest := by
      rw [List.dropWhile_append_of_pos hnot]
      cases rest with
      | nil => rfl
      | cons d t => simp [hrest d rfl]
    have hne' : w ++ rest ≠ [] := by simp [hne]
    simp only [skip, InputStream.word, Bool.false_eq_true, if_false, hskip, hne', hdrop]
  | number hblanks hn =>
    simp only [skip, hn.number_eq hblanks]

theorem begins_of_skip {item : Item} {t : List Char} (h : (skip ⟨t, false⟩ item).failed = false) :
    Begins item t (skip ⟨t, false⟩ item).rest := by
  cases item with
  | word =>
    simp only [skip, word, Bool.false_eq_true, if_false] at h ⊢
    split at h
    · simp at h
    · rename_i hempty
      rw [if_neg hempty]
      have hne : (t.dropWhile isBlank).takeWhile (!isBlank ·) ≠ [] := by
        obtain ⟨c, u, hcu⟩ := List.exists_cons_of_ne_nil hempty
        have hc : isBlank c = false := head?_dropWhile (by rw [hcu]; rfl)
        rw [hcu]
        simp [hc]
      have happend : t = t.takeWhile isBlank ++ (t.dropWhile isBlank).takeWhile (!isBlank ·) ++
          (t.dropWhile isBlank).dropWhile (!isBlank ·) := by
        rw [List.append_assoc, List.takeWhile_append_dropWhile, List.takeWhile_append_dropWhile]
      have hend : ∀ c, ((t.dropWhile isBlank).dropWhile (!isBlank ·)).head? = some c → isBlank c :=
        fun c hc => by simpa using head?_dropWhile hc
      have hword := Begins.word (takeWhile_all isBlank t) hne
        (fun c hc => by simpa using takeWhile_all _ _ c hc) hend
      rwa [← happend] at hword
  | number f =>
    obtain ⟨blanks, n, rest, ht, hblanks, hn⟩ := numeral_of_number h
    have hnumber : Begins (.number f) t rest := ht ▸ Begins.number hblanks hn
    rw [hnumber.skip_eq]
    exact hnumber

/-- The text begins with the items, each behind blanks. -/
inductive Holds : List Item → List Char → Prop
  | nil (t : List Char) : Holds [] t
  | cons {item : Item} {items : List Item} {t rest : List Char} (hitem : Begins item t rest)
      (hitems : Holds items rest) : Holds (item :: items) t

/-- Extractions fail exactly on the texts that do not hold their items. -/
theorem foldl_skip_failed_iff (items : List Item) (t : List Char) :
    (items.foldl skip ⟨t, false⟩).failed = false ↔ Holds items t := by
  induction items generalizing t with
  | nil => exact ⟨fun _ => .nil t, fun _ => rfl⟩
  | cons item items ih =>
    constructor
    · intro h
      rw [List.foldl_cons] at h
      by_cases hfailed : (skip ⟨t, false⟩ item).failed = true
      · rw [foldl_skip_of_failed hfailed, hfailed] at h
        cases h
      · have hitem := begins_of_skip (Bool.eq_false_iff.mpr hfailed)
        rw [hitem.skip_eq] at h
        exact .cons hitem ((ih _).mp h)
    · intro h
      cases h with
      | cons hitem hitems =>
        rw [List.foldl_cons, hitem.skip_eq]
        exact (ih _).mpr hitems

end InputStream
